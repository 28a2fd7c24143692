import DoxTriage.Proofs.Ascending
import DoxTriage.Proofs.Json

/-!
# Records read back

Records are handed to other programs as one line of JSON, and so are error messages. The texts in
them come from logs and file names, so they may contain anything: the quotes and backslashes of a
parameter command, control characters, characters of any script. What counts is that the line ends
where it should end, and that the other program gets what was written.

For the second part there is a reader of records behind the reader of JSON. It takes an object for a
record only if it has the four fields of a record, in their order and no others, and if its contexts
are in ascending order, as a set is written.

## Main definitions

* `Record.listing`: the line that lists records.
* `Record.ofJson?`, `Record.ofListing?`: the record that a value writes, and the records of a line.

## Main results

* `Record.ofJson?_eq_some_iff`: a record is read from the value that it is written as, and from no
  other one.
* `Record.listing_loses_nothing`: records and messages are read back from one line.
-/

namespace DoxTriage

/-- If each item is read from what it is written as, then so is a list of items. -/
theorem mapM_eq_some_iff_of_reads {α β : Type} {read : α → Option β} {write : β → α}
    {accepts : β → Prop} (h : ∀ a b, read a = some b ↔ a = write b ∧ accepts b)
    {items : List α} {found : List β} :
    items.mapM read = some found ↔ items = found.map write ∧ ∀ b ∈ found, accepts b := by
  induction items generalizing found with
  | nil => cases found <;> simp
  | cons a items ih =>
    simp only [List.mapM_cons, Option.bind_eq_bind, Option.bind_eq_some_iff, h, ih,
      Option.pure_def, Option.some.injEq]
    constructor
    · rintro ⟨b, ⟨rfl, hb⟩, others, ⟨rfl, hothers⟩, rfl⟩
      exact ⟨rfl, List.forall_mem_cons.2 ⟨hb, hothers⟩⟩
    · rintro ⟨hitems, haccepts⟩
      cases found with
      | nil => cases hitems
      | cons b others =>
        cases hitems
        obtain ⟨hb, hothers⟩ := List.forall_mem_cons.1 haccepts
        exact ⟨b, ⟨rfl, hb⟩, others, ⟨rfl, hothers⟩, rfl⟩

namespace Json

/-- The text that a value is, if it is one. -/
def text? : Json → Option Text
  | .text s => some s
  | _ => none

theorem text?_eq_some_iff {value : Json} {s : Text} :
    value.text? = some s ↔ value = .text s := by
  cases value <;> simp [text?]

theorem mapM_text?_eq_some_iff {items : List Json} {found : List Text} :
    items.mapM text? = some found ↔ items = found.map .text := by
  have hread : ∀ (value : Json) (s : Text),
      value.text? = some s ↔ value = .text s ∧ True := fun value s => by
    rw [text?_eq_some_iff, and_true]
  rw [mapM_eq_some_iff_of_reads hread]
  exact and_iff_left fun _ _ => trivial

/-- The items of an array, if the value is one. -/
def items? : Json → Option (List Json)
  | .array items => some items
  | _ => none

end Json

namespace Record

/-! ### A reader of records -/

/-- The names of the fields of a record, in their order. -/
def fieldNames : List Text :=
  ["file_path".toList, "line".toList, "headline".toList, "context_lines".toList]

/-- The record that a value writes. -/
def ofJson? : Json → Option Record
  | .object [(first, .text file), (second, .number line), (third, .text headline),
      (fourth, .array items)] => do
    let contexts ← items.mapM Json.text?
    if [first, second, third, fourth] = fieldNames ∧ Ascending id contexts then
      some ⟨⟨file, line, headline⟩, contexts⟩
    else none
  | _ => none

theorem toJson_eq (record : Record) :
    record.toJson = .object
      [("file_path".toList, .text record.file), ("line".toList, .number record.line),
       ("headline".toList, .text record.headline),
       ("context_lines".toList, .array (record.contexts.map .text))] := rfl

/-- A record is read from the value that it is written as, if its contexts are a set, and from no
other value. -/
theorem ofJson?_eq_some_iff (value : Json) (record : Record) :
    ofJson? value = some record ↔ value = record.toJson ∧ Ascending id record.contexts := by
  constructor
  · intro h
    rw [ofJson?.eq_def] at h
    split at h
    · obtain ⟨contexts, hcontexts, hread⟩ := Option.bind_eq_some_iff.1 h
      obtain rfl := Json.mapM_text?_eq_some_iff.1 hcontexts
      split at hread
      · next hfields =>
        cases hread
        obtain ⟨hnames, hascending⟩ := hfields
        simp only [fieldNames, List.cons.injEq, and_true] at hnames
        obtain ⟨rfl, rfl, rfl, rfl⟩ := hnames
        exact ⟨rfl, hascending⟩
      · cases hread
    · cases h
  · rintro ⟨rfl, hascending⟩
    have hcontexts : (record.contexts.map Json.text).mapM Json.text? = some record.contexts :=
      Json.mapM_text?_eq_some_iff.2 rfl
    rw [toJson_eq, ofJson?, hcontexts]
    exact if_pos ⟨rfl, hascending⟩

theorem toJson_injective : Function.Injective toJson := by
  rintro ⟨⟨file, line, headline⟩, contexts⟩ ⟨⟨file', line', headline'⟩, contexts'⟩ h
  rw [toJson_eq, toJson_eq] at h
  simp only [Json.object.injEq, Json.text.injEq, Json.number.injEq, Json.array.injEq,
    List.cons.injEq, Prod.mk.injEq, true_and, and_true] at h
  obtain ⟨rfl, rfl, rfl, hcontexts⟩ := h
  obtain rfl := List.map_injective_iff.2 (fun _ _ => Json.text.inj) hcontexts
  rfl

/-! ### Lines -/

/-- The line that lists records. -/
def listing (records : List Record) : Text :=
  (Json.array (records.map toJson)).render

/-- The records that a line lists. -/
def ofListing? (line : Text) : Option (List Record) := do
  let value ← Json.decode? line
  let items ← value.items?
  items.mapM ofJson?

/-- The records are read back, if their contexts are sets. -/
theorem ofListing?_listing {records : List Record}
    (h : ∀ record ∈ records, Ascending id record.contexts) :
    ofListing? (listing records) = some records := by
  have hrecords : (records.map toJson).mapM ofJson? = some records :=
    (mapM_eq_some_iff_of_reads ofJson?_eq_some_iff).2 ⟨rfl, h⟩
  rw [ofListing?, listing, Json.decode?_render]
  exact hrecords

theorem listing_injective : Function.Injective listing := by
  intro records others h
  have hvalue := congrArg Json.decode? h
  rw [listing, listing, Json.decode?_render, Json.decode?_render, Option.some.injEq,
    Json.array.injEq] at hvalue
  exact List.map_injective_iff.2 toJson_injective hvalue

/-- **Nothing is lost.** Records are listed on one line, which is an array of objects with the four
fields in their order; the records are read back from it if their contexts are sets, and no two
lists of records have one line. A message is one line, too, and is read back as the only field of an
object. -/
theorem listing_loses_nothing :
    (∀ records : List Record,
      (∀ c ∈ listing records, ¬ c < ' ') ∧
      Json.decode? (listing records) = some (.array (records.map fun record => .object
        [("file_path".toList, .text record.file), ("line".toList, .number record.line),
         ("headline".toList, .text record.headline),
         ("context_lines".toList, .array (record.contexts.map .text))])) ∧
      ((∀ record ∈ records, Ascending id record.contexts) →
        ofListing? (listing records) = some records)) ∧
    (∀ records others, listing records = listing others → records = others) ∧
    ∀ message : Text,
      (∀ c ∈ (Json.ofMessage message).render, ¬ c < ' ') ∧
      Json.decode? (Json.ofMessage message).render =
        some (.object [("error".toList, .text message)]) := by
  have hline : ∀ value : Json, ∀ c ∈ value.render, ¬ c < ' ' :=
    fun value c hc hlt => Json.not_mem_render hlt value hc
  refine ⟨fun records => ⟨hline _, Json.decode?_render _, ofListing?_listing⟩,
    fun records others h => listing_injective h, fun message => ⟨hline _, Json.decode?_render _⟩⟩

/-- Quotes, a backslash, a line feed, controls and foreign characters, in all texts of a record; and
a record without contexts. -/
theorem listing_loses_nothing_of_odd_characters :
    let records : List Record :=
      [⟨⟨"src/a\"b\\c.hpp".toList, 7, "argument 'é' of command \\param\x01".toList⟩,
        ["\n".toList, "\x7F".toList, "ü\x1F".toList]⟩,
       ⟨⟨[], 0, "]\x7d,\"".toList⟩, []⟩]
    let message : Text := "malformed line 2: \"a\tb\"".toList
    (∀ record ∈ records, Ascending id record.contexts) ∧
      ofListing? (listing records) = some records ∧
      (∀ c ∈ listing records, ¬ c < ' ') ∧
      Json.decode? (Json.ofMessage message).render =
        some (.object [("error".toList, .text message)]) := by
  intro records message
  have hsets : ∀ record ∈ records, Ascending id record.contexts := by decide +kernel
  obtain ⟨hrecords, -, hmessages⟩ := listing_loses_nothing
  obtain ⟨hline, -, hread⟩ := hrecords records
  exact ⟨hsets, hread hsets, hline, (hmessages message).2⟩

end Record

end DoxTriage
