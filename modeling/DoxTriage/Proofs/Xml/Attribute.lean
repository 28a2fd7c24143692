import DoxTriage.Proofs.Text.Span
import DoxTriage.Proofs.Xml.Content
import DoxTriage.Proofs.Xml.Entity
import DoxTriage.Xml.Attribute

/-!
# The attributes of a written tag

A start tag is written with one space in front of each attribute and with its values in double
quotes, so reading it is a sequence of spans: up to the space, up to the equals sign, up to the
quote. The reader keeps the places of the keys it has read, for its faults. Here the keys are
different, so that only the list of keys matters, and the induction is over the attributes with any
earlier keys that do not come again.

## Main results

* `Xml.Start.name_tag`, `Xml.Start.attributes_tag`: the name and the attributes of a written tag are
  read back.
-/

namespace DoxTriage

namespace Xml

theorem ne_of_isNamePart {c d : Char} (hc : isNamePart c = true) (hd : isNamePart d = false) :
    c ≠ d := by
  rintro rfl
  exact Bool.false_ne_true (hd.symm.trans hc)

theorem isSpace_of_isNamePart {c : Char} (h : isNamePart c = true) : isSpace c = false := by
  rw [isNamePart, Bool.and_eq_true, Bool.not_eq_true'] at h
  exact h.1

theorem isKeyPart_of_isNamePart {c : Char} (h : isNamePart c = true) : isKeyPart c = true := by
  have heq : c ≠ '=' := ne_of_isNamePart h (by decide)
  simp [isKeyPart, heq, isSpace_of_isNamePart h]

/-- A name is a first character and others. -/
theorem Name.exists_cons (name : Name) :
    ∃ c s, name.text = c :: s ∧ isNamePart c = true ∧ ∀ d ∈ s, isNamePart d = true := by
  obtain ⟨c, s, h⟩ := List.exists_cons_of_ne_nil name.ne_nil
  have hparts := name.isNamePart_of_mem
  rw [h, List.forall_mem_cons] at hparts
  exact ⟨c, s, h, hparts⟩

/-- The tag that a start tag is read as. -/
def Start.tag (start : Start) : Tag := ⟨start.print⟩

/-- An attribute with its value as it is written. -/
def Start.written (item : Name × Text) : Attribute :=
  ⟨item.1.text, escape item.2⟩

/-! ### One attribute -/

theorem skipSpaces_cons {c : Char} (hc : isSpace c = false) (place : Nat) (s : Text) :
    skipSpaces place (c :: s) = (place, c :: s) := by
  simp [skipSpaces, hc]

theorem readValue_print (length keyPlace : Nat) (key : Text) (place : Nat) (value rest : Text) :
    ∃ after, readValue length keyPlace key place ('"' :: escape value ++ '"' :: rest) =
      .found keyPlace ⟨key, escape value⟩ after rest := by
  have hquote : '"' ∉ escape value := not_mem_escape (by decide) value
  refine ⟨place + Text.utf8Length (escape value) + 2, ?_⟩
  rw [readValue, List.cons_append, skipSpaces_cons (by decide)]
  simp only [true_or, if_pos, Text.takeWhile_ne_span hquote, Text.dropWhile_ne_span hquote]

theorem readAttribute_print (length : Nat) {earlier : List (Text × Nat)} (place : Nat)
    {item : Name × Text} (hnew : earlier.lookup item.1.text = none) (rest : Text) :
    ∃ keyPlace after, readAttribute length earlier place (printAttribute item ++ rest) =
      .found keyPlace (Start.written item) after rest := by
  obtain ⟨c, s, hname, hc, hs⟩ := item.1.exists_cons
  have hkey : ∀ d ∈ s, isKeyPart d = true := fun d hd => isKeyPart_of_isNamePart (hs d hd)
  have hprint : printAttribute item ++ rest =
      ' ' :: c :: (s ++ '=' :: ('"' :: escape item.2 ++ '"' :: rest)) := by
    simp [printAttribute, hname]
  have hspace : ∀ t, skipSpaces place (' ' :: c :: t) = (place + 1, c :: t) := by
    have hblank : isSpace ' ' = true := by decide
    intro t
    simp [skipSpaces, hblank, isSpace_of_isNamePart hc]
  have hstop : isKeyPart '=' = false := by decide
  rw [hprint, readAttribute, hspace]
  simp only [Text.takeWhile_span hkey hstop, Text.dropWhile_span hkey hstop, ← hname]
  obtain ⟨after, hvalue⟩ := readValue_print length (place + 1) item.1.text
    (place + 1 + Text.utf8Length item.1.text + 1) item.2 rest
  refine ⟨place + 1, after, ?_⟩
  rw [readAfterKey, skipSpaces_cons (by decide)]
  simp only [if_pos, hnew]
  exact hvalue

/-! ### All attributes -/

theorem lookup_eq_none_of_cons {earlier : List (Text × Nat)} {key other : Text} {place : Nat}
    (hne : other ≠ key) (h : earlier.lookup other = none) :
    ((key, place) :: earlier).lookup other = none := by
  rw [List.lookup_cons, beq_eq_false_iff_ne.2 hne]
  exact h

theorem attributesFrom_print (length : Nat) (items : List (Name × Text))
    (hnodup : (items.map (·.1.text)).Nodup) (earlier : List (Text × Nat)) (place : Nat)
    (hnew : ∀ item ∈ items, earlier.lookup item.1.text = none) :
    attributesFrom length earlier place (items.flatMap printAttribute) =
      (items.map Start.written, none) := by
  induction items generalizing earlier place with
  | nil =>
    rw [List.flatMap_nil, attributesFrom]
    rfl
  | cons item items ih =>
    rw [List.map_cons, List.nodup_cons] at hnodup
    obtain ⟨hfirst, hrest⟩ := List.forall_mem_cons.1 hnew
    obtain ⟨keyPlace, after, hread⟩ :=
      readAttribute_print length place hfirst (items.flatMap printAttribute)
    have hlater := ih hnodup.2 ((item.1.text, keyPlace) :: earlier) after fun other hother => by
      refine lookup_eq_none_of_cons (fun heq => hnodup.1 ?_) (hrest other hother)
      exact heq ▸ List.mem_map_of_mem hother
    rw [List.flatMap_cons, attributesFrom]
    split
    · next h => rw [hread] at h; cases h
    · next h => rw [hread] at h; cases h
    · next h =>
      rw [hread] at h
      cases h
      have hkey : (Start.written item).key = item.1.text := rfl
      simp only [hkey, hlater, List.map_cons]

namespace Start

theorem not_isSpace_of_mem_name (start : Start) : ∀ c ∈ start.name.text, (! isSpace c) = true := by
  intro c hc
  rw [isSpace_of_isNamePart (start.name.isNamePart_of_mem c hc)]
  rfl

/-- The name of a written tag is read back. -/
theorem name_tag (start : Start) : start.tag.name = start.name.text := by
  rw [tag, Tag.name, print, List.takeWhile_append_of_pos start.not_isSpace_of_mem_name]
  cases start.attributes with
  | nil => exact List.append_nil _
  | cons item items => exact List.append_nil _

theorem dropWhile_print (start : Start) :
    start.print.dropWhile (! isSpace ·) = start.attributes.flatMap printAttribute := by
  rw [print, List.dropWhile_append_of_pos start.not_isSpace_of_mem_name]
  cases start.attributes with
  | nil => rfl
  | cons item items => rfl

/-- The attributes of a written tag are read back, as they are written. -/
theorem attributes_tag (start : Start) :
    start.tag.attributes = (start.attributes.map written, none) := by
  rw [Tag.attributes, tag, start.dropWhile_print]
  exact attributesFrom_print _ _ start.nodup_keys _ _ fun _ _ => rfl

end Start

end Xml

end DoxTriage
