import DoxTriage.Json
import DoxTriage.Proofs.Text.Rows
import DoxTriage.Proofs.Text.Span
import Mathlib.Tactic.SplitIfs

/-!
# Reading JSON back

What is written as JSON is one line, and it loses nothing. To say the second thing there has to be a
reader, which knows the format and not the writer. It takes the values that are written here, with
every escape of a text, but no blanks between the parts.

A number ends where its digits end, so a value is only read back if no digit follows it. Nothing
that is written puts one there: in an array and in an object a comma or a bracket comes next.

## Main definitions

* `Json.readValue`, `Json.decode?`: read a value off the front of a text, and from a whole text.

## Main results

* `Json.decode?_render`: a value is read back from its text.
* `Json.not_mem_render`: the text of a value is one line.
-/

namespace DoxTriage

namespace Json

/-! ### A reader -/

/-- The character that an escape of one letter stands for. -/
def letterEscape? : Char → Option Char
  | '"' => some '"'
  | '\\' => some '\\'
  | '/' => some '/'
  | 'b' => some '\x08'
  | 'f' => some '\x0C'
  | 'n' => some '\n'
  | 'r' => some '\r'
  | 't' => some '\t'
  | _ => none

/-- The character with a number of several hexadecimal digits. Half of a character is none. -/
def ofCode? (digits : Text) : Option Char := do
  let values ← digits.mapM hexDigit?
  let code := values.foldl (fun code value => code * 16 + value) 0
  if code.isValidChar then some (Char.ofNat code) else none

/-- Read a text whose first quote has been read. -/
def readQuoted : Text → Option (Text × Text)
  | [] => none
  | '"' :: rest => some ([], rest)
  | '\\' :: 'u' :: a :: b :: c :: d :: s =>
    (ofCode? [a, b, c, d]).bind fun character =>
      (readQuoted s).map fun read => (character :: read.1, read.2)
  | '\\' :: c :: s =>
    (letterEscape? c).bind fun character =>
      (readQuoted s).map fun read => (character :: read.1, read.2)
  | c :: s =>
    if c < ' ' then none else (readQuoted s).map fun read => (c :: read.1, read.2)

/-- Read a number. No zero stands in front of other digits. -/
def readNumber (s : Text) : Option (Json × Text) :=
  let digits := s.takeWhile Char.isDigit
  let number := Nat.ofDigitChars 10 digits 0
  if digits = Text.decimal number then some (.number number, s.dropWhile Char.isDigit) else none

/-- Read one field of an object, given how to read its value. -/
def readField (readValue : Text → Option (Json × Text)) : Text → Option ((Text × Json) × Text)
  | [] => none
  | c :: s =>
    if c = '"' then do
      let (key, s) ← readQuoted s
      if s.head? = some ':' then do
        let (value, rest) ← readValue s.tail
        return ((key, value), rest)
      else none
    else none

mutual

/-- Read a value off the front of a text. Each value that is begun takes one from the fuel, so the
length of the text is enough. -/
def readValue : Nat → Text → Option (Json × Text)
  | 0, _ => none
  | _ + 1, [] => none
  | fuel + 1, c :: s =>
    if c = '"' then (readQuoted s).map fun read => (.text read.1, read.2)
    else if c = '[' then
      if s.head? = some ']' then some (.array [], s.tail)
      else do
        let (first, s) ← readValue fuel s
        let (others, rest) ← readItems fuel s
        return (.array (first :: others), rest)
    else if c = '\x7b' then
      if s.head? = some '\x7d' then some (.object [], s.tail)
      else do
        let (first, s) ← readField (readValue fuel) s
        let (others, rest) ← readFields fuel s
        return (.object (first :: others), rest)
    else readNumber (c :: s)

/-- Read the items of an array after the first one, and its bracket. -/
def readItems : Nat → Text → Option (List Json × Text)
  | 0, _ => none
  | _ + 1, [] => none
  | fuel + 1, c :: s =>
    if c = ']' then some ([], s)
    else if c = ',' then do
      let (item, s) ← readValue fuel s
      let (items, rest) ← readItems fuel s
      return (item :: items, rest)
    else none

/-- Read the fields of an object after the first one, and its brace. -/
def readFields : Nat → Text → Option (List (Text × Json) × Text)
  | 0, _ => none
  | _ + 1, [] => none
  | fuel + 1, c :: s =>
    if c = '\x7d' then some ([], s)
    else if c = ',' then do
      let (field, s) ← readField (readValue fuel) s
      let (fields, rest) ← readFields fuel s
      return (field :: fields, rest)
    else none

end

/-- The value that a text writes. -/
def decode? (s : Text) : Option Json :=
  match readValue s.length s with
  | some (value, []) => some value
  | _ => none

/-! ### Texts -/

theorem ofCode?_control : ∀ n < 32,
    ofCode? (['0', '0'] ++ twoDigits n) = some (Char.ofNat n) := by
  decide +kernel

/-- A character is read back, whatever way it is written. -/
theorem readQuoted_escapeChar (c : Char) (s : Text) :
    readQuoted (escapeChar c ++ s) = (readQuoted s).map fun read => (c :: read.1, read.2) := by
  unfold escapeChar
  split_ifs with hquote hbackslash hbackspace htab hfeed hform hreturn hcontrol
  · subst hquote; rfl
  · subst hbackslash; rfl
  · subst hbackspace; rfl
  · subst htab; rfl
  · subst hfeed; rfl
  · subst hform; rfl
  · subst hreturn; rfl
  · have hcode := ofCode?_control c.toNat hcontrol
    rw [Char.ofNat_toNat] at hcode
    simp only [twoDigits, List.cons_append, List.nil_append] at hcode ⊢
    rw [readQuoted, hcode]
    rfl
  · rw [List.singleton_append, readQuoted, if_neg hcontrol]
    all_goals simp_all

theorem readQuoted_quote (s rest : Text) :
    readQuoted (s.flatMap escapeChar ++ '"' :: rest) = some (s, rest) := by
  induction s with
  | nil => rfl
  | cons c s ih =>
    rw [List.flatMap_cons, List.append_assoc, readQuoted_escapeChar, ih]
    rfl

/-! ### Values -/

/-- What follows a number does not go on with it. -/
def EndsNumber (rest : Text) : Prop :=
  ∀ c ∈ rest.head?, c.isDigit = false

theorem endsNumber_cons {c : Char} (h : c.isDigit = false) (rest : Text) :
    EndsNumber (c :: rest) := by
  intro d hd
  cases hd
  exact h

theorem readNumber_decimal (n : Nat) {rest : Text} (h : EndsNumber rest) :
    readNumber (Text.decimal n ++ rest) = some (.number n, rest) := by
  have hdigits : ∀ c ∈ Text.decimal n, c.isDigit = true := fun c => Text.isDigit_of_mem_decimal
  have hspan : (Text.decimal n ++ rest).takeWhile Char.isDigit = Text.decimal n ∧
      (Text.decimal n ++ rest).dropWhile Char.isDigit = rest := by
    cases rest with
    | nil =>
      rw [List.takeWhile_append_of_pos hdigits, List.dropWhile_append_of_pos hdigits]
      exact ⟨List.append_nil _, rfl⟩
    | cons c rest =>
      have hc := h c rfl
      exact ⟨Text.takeWhile_span hdigits hc, Text.dropWhile_span hdigits hc⟩
  have hvalue : Nat.ofDigitChars 10 (Text.decimal n) 0 = n := Nat.ofDigitChars_ten_toDigits
  simp only [readNumber, hspan, hvalue, if_true]

theorem exists_cons_decimal (n : Nat) :
    ∃ c s, Text.decimal n = c :: s ∧ c.isDigit = true := by
  obtain ⟨c, s, hs⟩ := List.exists_cons_of_ne_nil (Nat.toDigits_ne_nil : Text.decimal n ≠ [])
  have hmem : c ∈ Text.decimal n := List.mem_of_mem_head? (congrArg List.head? hs)
  exact ⟨c, s, hs, Text.isDigit_of_mem_decimal hmem⟩

/-- What is written for a value begins like no end of an array or object. -/
theorem exists_cons_render (value : Json) :
    ∃ c s, value.render = c :: s ∧ c ≠ ']' ∧ c ≠ '\x7d' := by
  cases value with
  | text s => exact ⟨'"', _, rfl, by decide, by decide⟩
  | number n =>
    obtain ⟨c, s, hs, hc⟩ := exists_cons_decimal n
    refine ⟨c, s, hs, ?_, ?_⟩ <;> (rintro rfl; exact absurd hc (by decide))
  | array items => exact ⟨'[', _, rfl, by decide, by decide⟩
  | object fields => exact ⟨'\x7b', _, rfl, by decide, by decide⟩

/-- The items of an array after the first one, as they are written. -/
def itemsText (items : List Json) : Text :=
  (renderItems items).flatMap ([','] ++ ·)

/-- The fields of an object after the first one, as they are written. -/
def fieldsText (fields : List (Text × Json)) : Text :=
  (renderFields fields).flatMap ([','] ++ ·)

theorem itemsText_cons (item : Json) (items : List Json) :
    itemsText (item :: items) = ',' :: (item.render ++ itemsText items) := rfl

theorem fieldsText_cons (key : Text) (value : Json) (fields : List (Text × Json)) :
    fieldsText ((key, value) :: fields) =
      ',' :: (quote key ++ ':' :: value.render ++ fieldsText fields) := rfl

theorem endsNumber_itemsText (items : List Json) (rest : Text) :
    EndsNumber (itemsText items ++ ']' :: rest) := by
  cases items with
  | nil => exact endsNumber_cons (by decide) _
  | cons item items => exact endsNumber_cons (by decide) _

theorem endsNumber_fieldsText (fields : List (Text × Json)) (rest : Text) :
    EndsNumber (fieldsText fields ++ '\x7d' :: rest) := by
  cases fields with
  | nil => exact endsNumber_cons (by decide) _
  | cons field fields => exact endsNumber_cons (by decide) _

theorem render_array_cons (item : Json) (items : List Json) :
    (Json.array (item :: items)).render = '[' :: (item.render ++ itemsText items ++ [']']) := by
  rw [render, renderItems, Text.join_cons]
  rfl

theorem render_object_cons (key : Text) (value : Json) (fields : List (Text × Json)) :
    (Json.object ((key, value) :: fields)).render =
      '\x7b' :: (quote key ++ ':' :: value.render ++ fieldsText fields ++ ['\x7d']) := by
  rw [render, renderFields, Text.join_cons]
  rfl

/-- A number is read as a number, since it begins with a digit. -/
theorem readValue_decimal (n fuel : Nat) {rest : Text} (h : EndsNumber rest) :
    readValue (fuel + 1) (Text.decimal n ++ rest) = some (.number n, rest) := by
  have hread := readNumber_decimal n h
  obtain ⟨c, s, hs, hc⟩ := exists_cons_decimal n
  have hquote : c ≠ '"' := by rintro rfl; exact absurd hc (by decide)
  have hbracket : c ≠ '[' := by rintro rfl; exact absurd hc (by decide)
  have hbrace : c ≠ '\x7b' := by rintro rfl; exact absurd hc (by decide)
  rw [hs, List.cons_append] at hread ⊢
  rw [readValue, if_neg hquote, if_neg hbracket, if_neg hbrace, hread]

/-- A field is read back if its value is. -/
theorem readField_quote {readValue : Text → Option (Json × Text)} {s rest : Text} {value : Json}
    (h : readValue s = some (value, rest)) (key : Text) :
    readField readValue (quote key ++ ':' :: s) = some ((key, value), rest) := by
  rw [quote, List.cons_append, List.cons_append, List.append_assoc, List.singleton_append,
    readField, if_pos rfl, readQuoted_quote]
  simp only [Option.bind_eq_bind, Option.bind_some, List.head?_cons, if_true, List.tail_cons, h]
  rfl

mutual

/-- A value is read back, if the fuel is as much as its text is long. -/
theorem readValue_render : ∀ (value : Json) (fuel : Nat) (rest : Text),
    value.render.length ≤ fuel → EndsNumber rest →
      readValue fuel (value.render ++ rest) = some (value, rest)
  | value, 0, _, hfuel, _ => by
    obtain ⟨c, s, hs, -⟩ := exists_cons_render value
    rw [hs] at hfuel
    exact absurd hfuel (by simp)
  | .text s, fuel + 1, rest, _, _ => by
    rw [render, quote, List.cons_append, List.cons_append, List.append_assoc,
      List.singleton_append, readValue, if_pos rfl, readQuoted_quote]
    rfl
  | .number n, fuel + 1, rest, _, hrest => by
    rw [render, readValue_decimal n fuel hrest]
  | .array [], fuel + 1, rest, _, _ => rfl
  | .array (item :: items), fuel + 1, rest, hfuel, _ => by
    rw [render_array_cons, List.length_cons, List.length_append, List.length_append] at hfuel
    obtain ⟨c, s, hs, hc, -⟩ := exists_cons_render item
    have hitem := readValue_render item fuel (itemsText items ++ ']' :: rest) (by omega)
      (endsNumber_itemsText items rest)
    have hitems := readItems_render items fuel rest (by simp at hfuel; omega)
    -- An item comes next, so the array is not taken for an empty one.
    have hhead : (item.render ++ (itemsText items ++ ']' :: rest)).head? ≠ some ']' := by
      rw [hs]
      simpa using hc
    rw [render_array_cons, List.cons_append, List.append_assoc, List.append_assoc,
      List.singleton_append, readValue, if_neg (by decide), if_pos rfl, if_neg hhead, hitem]
    simp only [Option.bind_eq_bind, Option.bind_some, hitems]
    rfl
  | .object [], fuel + 1, rest, _, _ => rfl
  | .object ((key, value) :: fields), fuel + 1, rest, hfuel, _ => by
    rw [render_object_cons, List.length_cons, List.length_append, List.length_append,
      List.length_append, List.length_cons, List.length_singleton] at hfuel
    have hvalue := readValue_render value fuel (fieldsText fields ++ '\x7d' :: rest) (by omega)
      (endsNumber_fieldsText fields rest)
    have hfields := readFields_render fields fuel rest (by omega)
    have hhead : (quote key ++ ':' :: (value.render ++ (fieldsText fields ++ '\x7d' :: rest))).head?
        ≠ some '\x7d' := by
      rw [quote]
      simp
    rw [render_object_cons, List.cons_append, List.append_assoc, List.append_assoc,
      List.append_assoc, List.cons_append, List.singleton_append, readValue, if_neg (by decide),
      if_neg (by decide), if_pos rfl, if_neg hhead, readField_quote hvalue]
    simp only [Option.bind_eq_bind, Option.bind_some, hfields]
    rfl

/-- The items of an array after the first one are read back. -/
theorem readItems_render : ∀ (items : List Json) (fuel : Nat) (rest : Text),
    (itemsText items).length < fuel →
      readItems fuel (itemsText items ++ ']' :: rest) = some (items, rest)
  | _, 0, _, hfuel => absurd hfuel (Nat.not_lt_zero _)
  | [], fuel + 1, rest, _ => rfl
  | item :: items, fuel + 1, rest, hfuel => by
    rw [itemsText_cons, List.length_cons, List.length_append] at hfuel
    have hitem := readValue_render item fuel (itemsText items ++ ']' :: rest) (by omega)
      (endsNumber_itemsText items rest)
    have hitems := readItems_render items fuel rest (by omega)
    rw [itemsText_cons, List.cons_append, List.append_assoc, readItems, if_neg (by decide),
      if_pos rfl, hitem]
    simp only [Option.bind_eq_bind, Option.bind_some, hitems]
    rfl

/-- The fields of an object after the first one are read back. -/
theorem readFields_render : ∀ (fields : List (Text × Json)) (fuel : Nat) (rest : Text),
    (fieldsText fields).length < fuel →
      readFields fuel (fieldsText fields ++ '\x7d' :: rest) = some (fields, rest)
  | _, 0, _, hfuel => absurd hfuel (Nat.not_lt_zero _)
  | [], fuel + 1, rest, _ => rfl
  | (key, value) :: fields, fuel + 1, rest, hfuel => by
    rw [fieldsText_cons, List.length_cons, List.length_append, List.length_append,
      List.length_cons] at hfuel
    have hvalue := readValue_render value fuel (fieldsText fields ++ '\x7d' :: rest) (by omega)
      (endsNumber_fieldsText fields rest)
    have hfields := readFields_render fields fuel rest (by omega)
    rw [fieldsText_cons, List.cons_append, List.append_assoc, List.append_assoc, List.cons_append,
      readFields, if_neg (by decide), if_pos rfl, readField_quote hvalue]
    simp only [Option.bind_eq_bind, Option.bind_some, hfields]
    rfl

end

/-- **Nothing is lost**: a value is read back from its text. -/
theorem decode?_render (value : Json) : decode? value.render = some value := by
  have hend : EndsNumber [] := fun c hc => by cases hc
  have hread := readValue_render value value.render.length [] (Nat.le_refl _) hend
  rw [List.append_nil] at hread
  rw [decode?, hread]

/-! ### One line -/

section OneLine

variable {c : Char}

theorem ne_of_lt (hc : c < ' ') {d : Char} (hd : ¬ d < ' ') : c ≠ d := by
  rintro rfl
  exact hd hc

theorem not_mem_singleton_of_lt (hc : c < ' ') {d : Char} (hd : ¬ d < ' ') : c ∉ [d] :=
  mt List.mem_singleton.1 (ne_of_lt hc hd)

theorem isDigit_of_lt (hc : c < ' ') : c.isDigit = false := by
  rw [Char.isDigit, Bool.and_eq_false_iff, decide_eq_false_iff_not]
  left
  intro hzero
  exact absurd (UInt32.lt_of_le_of_lt hzero (show c.val < ' '.val from hc)) (by decide)

theorem not_mem_escapeChar (hc : c < ' ') (d : Char) : c ∉ escapeChar d := by
  -- A Boolean test goes through the list; `∀ e ∈ _` can be decided by going through all characters.
  have hwritten : (escapeChar d).all fun e => ¬ e < ' ' := by
    have hcontrol : ∀ n < 32,
        (['\\', 'u', '0', '0'] ++ twoDigits n).all fun e => ¬ e < ' ' := by
      decide +kernel
    unfold escapeChar
    split_ifs with _ _ _ _ _ _ _ hd
    all_goals first
      | decide
      | exact hcontrol d.toNat hd
      | simpa using hd
  exact fun hmem => of_decide_eq_true (List.all_eq_true.1 hwritten c hmem) hc

theorem not_mem_quote (hc : c < ' ') (s : Text) : c ∉ quote s := by
  have hquote : ¬ '"' < ' ' := by decide
  refine List.not_mem_cons_of_ne_of_not_mem (ne_of_lt hc hquote)
    (Text.not_mem_append (fun hmem => ?_) (not_mem_singleton_of_lt hc hquote))
  obtain ⟨d, -, hd⟩ := List.mem_flatMap.1 hmem
  exact not_mem_escapeChar hc d hd

/-- Between two brackets there are only commas and what is put there. -/
theorem not_mem_brackets (hc : c < ' ') {first last : Char} (hfirst : ¬ first < ' ')
    (hlast : ¬ last < ' ') {parts : List Text} (hparts : ∀ part ∈ parts, c ∉ part) :
    c ∉ first :: Text.join [','] parts ++ [last] := by
  have hcomma : c ∉ [','] := not_mem_singleton_of_lt hc (by decide)
  exact List.not_mem_cons_of_ne_of_not_mem (ne_of_lt hc hfirst) (Text.not_mem_append
    (Text.not_mem_join hcomma hparts) (not_mem_singleton_of_lt hc hlast))

mutual

/-- No character below the space is in the text of a value. -/
theorem not_mem_render (hc : c < ' ') : ∀ value : Json, c ∉ value.render
  | .text s => not_mem_quote hc s
  | .number n => Text.not_mem_decimal (isDigit_of_lt hc) n
  | .array items =>
    not_mem_brackets hc (by decide) (by decide) (not_mem_of_mem_renderItems hc items)
  | .object fields =>
    not_mem_brackets hc (by decide) (by decide) (not_mem_of_mem_renderFields hc fields)

theorem not_mem_of_mem_renderItems (hc : c < ' ') :
    ∀ items : List Json, ∀ item ∈ renderItems items, c ∉ item
  | [] => fun _ h => absurd h List.not_mem_nil
  | item :: items =>
    List.forall_mem_cons.2 ⟨not_mem_render hc item, not_mem_of_mem_renderItems hc items⟩

theorem not_mem_of_mem_renderFields (hc : c < ' ') :
    ∀ fields : List (Text × Json), ∀ field ∈ renderFields fields, c ∉ field
  | [] => fun _ h => absurd h List.not_mem_nil
  | (key, value) :: fields => by
    refine List.forall_mem_cons.2 ⟨?_, not_mem_of_mem_renderFields hc fields⟩
    exact Text.not_mem_append (not_mem_quote hc key)
      (List.not_mem_cons_of_ne_of_not_mem (ne_of_lt hc (by decide)) (not_mem_render hc value))

end

end OneLine

end Json

end DoxTriage
