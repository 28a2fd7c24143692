import DoxTriage.Proofs.FirstFailure
import DoxTriage.Xml.Entity

/-!
# Escaped text is read back

Unescaping keeps track of where it is, because its faults say where. Its success does not depend on
that: an escaped text in front of anything is read back as the text, and what follows is read from
some later place. The law is about one character first, and a character that has a name is read by
spelling the name.

A text that breaks off can still be read unless an entity is broken in two: an ampersand without a
semicolon after it is the one thing that a longer text can repair.

## Main definitions

* `Xml.Unterminated`: a text that ends within an entity.

## Main results

* `Xml.unescape_escape`: an escaped text is read back.
* `Xml.not_mem_escape`: an escaped text has no angle bracket and no quote in it.
* `Xml.escape_append`: escaping goes character by character.
* `Xml.unescape_eq_error_iff_of_prefix`: where a text may break off.
-/

namespace DoxTriage

namespace Xml

/-! ### Escaping -/

@[simp] theorem escape_nil : escape [] = [] := rfl

theorem escape_cons (c : Char) (s : Text) : escape (c :: s) = escapeChar c ++ escape s := rfl

theorem escape_append (s t : Text) : escape (s ++ t) = escape s ++ escape t :=
  List.flatMap_append

/-- A character is written as an entity with its name, or it has no name and stands for itself. -/
theorem escapeChar_cases (c : Char) :
    (∃ name, (name, c) ∈ namedCharacters ∧ escapeChar c = '&' :: name ++ [';']) ∨
      (∀ named ∈ namedCharacters, named.2 ≠ c) ∧ escapeChar c = [c] := by
  rw [escapeChar]
  cases hfind : namedCharacters.find? (·.2 = c) with
  | none =>
    refine .inr ⟨fun named hnamed heq => ?_, rfl⟩
    exact List.find?_eq_none.1 hfind named hnamed (decide_eq_true heq)
  | some named =>
    have hc : named.2 = c := by simpa using List.find?_some hfind
    refine .inl ⟨named.1, ?_, rfl⟩
    rw [← hc]
    exact List.mem_of_find?_eq_some hfind

theorem escapeChar_ne_nil (c : Char) : escapeChar c ≠ [] := by
  rcases escapeChar_cases c with ⟨name, -, h⟩ | ⟨-, h⟩ <;> rw [h] <;> exact List.cons_ne_nil _ _

theorem escape_eq_nil_iff {s : Text} : escape s = [] ↔ s = [] := by
  cases s with
  | nil => exact iff_of_true rfl rfl
  | cons c s =>
    refine iff_of_false (fun h => ?_) (List.cons_ne_nil c s)
    exact escapeChar_ne_nil c (List.append_eq_nil_iff.1 h).1

theorem not_mem_escapeChar {special : Char} (hspecial : special ∈ ['<', '>', '"', '\''])
    (c : Char) : special ∉ escapeChar c := by
  rcases escapeChar_cases c with ⟨name, hname, h⟩ | ⟨hnone, h⟩
  · have hspelling : ∀ named ∈ namedCharacters, ∀ special ∈ ['<', '>', '"', '\''],
        special ∉ '&' :: named.1 ++ [';'] := by simp [namedCharacters]
    rw [h]
    exact hspelling _ hname special hspecial
  · have hnamed : ∀ special ∈ ['<', '>', '"', '\''], ∃ named ∈ namedCharacters,
        named.2 = special := by simp [namedCharacters]
    obtain ⟨named, hmem, rfl⟩ := hnamed special hspecial
    rw [h, List.mem_singleton]
    exact hnone named hmem

/-- An escaped text has no angle bracket and no quote in it. -/
theorem not_mem_escape {special : Char} (hspecial : special ∈ ['<', '>', '"', '\'']) (s : Text) :
    special ∉ escape s := by
  intro hmem
  obtain ⟨c, -, hc⟩ := List.mem_flatMap.1 hmem
  exact not_mem_escapeChar hspecial c hc

/-! ### Unescaping -/

/-- A name is spelled up to the semicolon, and then the entity is known. -/
theorem unescapeFrom_spelling {length start : Nat} {c : Char} {name : Text}
    (hname : ∀ c ∈ name, c ≠ '&' ∧ c ≠ ';') (place : Nat) (seen rest : Text)
    (hcharacter : ∀ stop, entityCharacter start stop (seen.reverse ++ name) = .ok c) :
    ∃ after, unescapeFrom length place (some (start, seen)) (name ++ ';' :: rest) =
      (unescapeFrom length after none rest).map (c :: ·) := by
  induction name generalizing place seen with
  | nil =>
    rw [List.append_nil] at hcharacter
    refine ⟨place + (';' : Char).utf8Size, ?_⟩
    rw [List.nil_append, unescapeFrom]
    simp [hcharacter]
  | cons letter name ih =>
    obtain ⟨hletter, hname⟩ := List.forall_mem_cons.1 hname
    obtain ⟨after, hafter⟩ := ih hname (place + letter.utf8Size) (letter :: seen) fun stop => by
      rw [List.reverse_cons, List.append_assoc]
      exact hcharacter stop
    refine ⟨after, ?_⟩
    rw [List.cons_append, unescapeFrom]
    simp only [if_neg hletter.1, if_neg hletter.2]
    exact hafter

theorem entityCharacter_of_mem {name : Text} {c : Char} (h : (name, c) ∈ namedCharacters)
    (start stop : Nat) : entityCharacter start stop name = .ok c := by
  have hnumber : ∀ named ∈ namedCharacters, named.1.head? ≠ some '#' := by decide
  have hlookup : ∀ named ∈ namedCharacters, namedCharacters.lookup named.1 = some named.2 := by
    decide
  rw [entityCharacter, if_neg (hnumber _ h), hlookup _ h]

theorem unescapeFrom_escapeChar (length place : Nat) (c : Char) (rest : Text) :
    ∃ after, unescapeFrom length place none (escapeChar c ++ rest) =
      (unescapeFrom length after none rest).map (c :: ·) := by
  rcases escapeChar_cases c with ⟨name, hname, h⟩ | ⟨hnone, h⟩
  · have hletters : ∀ named ∈ namedCharacters, ∀ c ∈ named.1, c ≠ '&' ∧ c ≠ ';' := by
      simp [namedCharacters]
    obtain ⟨after, hafter⟩ := unescapeFrom_spelling (hletters _ hname)
      (place + ('&' : Char).utf8Size) [] rest (entityCharacter_of_mem hname place)
    refine ⟨after, ?_⟩
    rw [h, List.append_assoc, List.cons_append, unescapeFrom]
    exact hafter
  · have hamp : c ≠ '&' := (hnone ("amp".toList, '&') (by decide)).symm
    refine ⟨place + c.utf8Size, ?_⟩
    rw [h, List.singleton_append, unescapeFrom]
    simp only [if_neg hamp]

/-- In front of anything, an escaped text is read back, and what follows is read from some place
on. -/
theorem unescapeFrom_escape (length place : Nat) (s rest : Text) :
    ∃ after, unescapeFrom length place none (escape s ++ rest) =
      (unescapeFrom length after none rest).map (s ++ ·) := by
  induction s generalizing place with
  | nil =>
    refine ⟨place, ?_⟩
    rw [escape_nil, List.nil_append]
    cases unescapeFrom length place none rest <;> rfl
  | cons c s ih =>
    obtain ⟨next, hnext⟩ := unescapeFrom_escapeChar length place c (escape s ++ rest)
    obtain ⟨after, hafter⟩ := ih next
    refine ⟨after, ?_⟩
    rw [escape_cons, List.append_assoc, hnext, hafter]
    cases unescapeFrom length after none rest <;> rfl

/-- An escaped text is read back. -/
theorem unescape_escape (s : Text) : unescape (escape s) = .ok s := by
  obtain ⟨after, h⟩ := unescapeFrom_escape (Text.utf8Length (escape s)) 0 s []
  rw [List.append_nil] at h
  rw [unescape, h, unescapeFrom]
  exact congrArg Except.ok (List.append_nil s)

/-! ### Texts that break off -/

/-- The text ends within an entity. -/
def Unterminated (raw : Text) : Prop :=
  ∃ before name, raw = before ++ '&' :: name ∧ ';' ∉ name

theorem Unterminated.cons {raw : Text} (h : Unterminated raw) (c : Char) :
    Unterminated (c :: raw) := by
  obtain ⟨before, name, rfl, hname⟩ := h
  exact ⟨c :: before, name, rfl, hname⟩

/-- What one character does. It is a fault whatever comes after it, or it leaves an entity open, or
a character has been read after it and no entity is open. -/
theorem unescapeFrom_cons_cases (place : Nat) (opened : Option (Nat × Text)) (c : Char) :
    (∀ length s, ∃ fault, unescapeFrom length place opened (c :: s) = .error fault) ∨
      (∃ next entity, (opened = none ∧ c = '&' ∨ opened ≠ none ∧ c ≠ ';') ∧ ∀ length s,
        unescapeFrom length place opened (c :: s) = unescapeFrom length next (some entity) s) ∨
      ∃ next d, (opened = none ∧ c ≠ '&' ∨ opened ≠ none ∧ c = ';') ∧ ∀ length s,
        unescapeFrom length place opened (c :: s) =
          (unescapeFrom length next none s).map (d :: ·) := by
  by_cases hamp : c = '&'
  · cases opened with
    | none => exact .inr (.inl ⟨_, _, .inl ⟨rfl, hamp⟩, fun _ _ => if_pos hamp⟩)
    | some entity => exact .inl fun _ _ => ⟨_, if_pos hamp⟩
  cases opened with
  | none => exact .inr (.inr ⟨_, c, .inl ⟨rfl, hamp⟩, fun _ _ => if_neg hamp⟩)
  | some entity =>
    by_cases hend : c = ';'
    · cases hcharacter : entityCharacter entity.1 place entity.2.reverse with
      | error fault =>
        refine .inl fun length s => ⟨fault, ?_⟩
        simp only [unescapeFrom, if_neg hamp, if_pos hend, hcharacter]
      | ok d =>
        refine .inr (.inr ⟨place + c.utf8Size, d, .inr ⟨Option.some_ne_none _, hend⟩,
          fun length s => ?_⟩)
        simp only [unescapeFrom, if_neg hamp, if_pos hend, hcharacter]
    · refine .inr (.inl ⟨place + c.utf8Size, (entity.1, c :: entity.2),
        .inr ⟨Option.some_ne_none _, hend⟩, fun length s => ?_⟩)
      simp only [unescapeFrom, if_neg hamp, if_neg hend]

/-- An entity that has been opened needs a semicolon. -/
theorem unescapeFrom_opened_of_not_mem {name : Text} (h : ';' ∉ name) (length place : Nat)
    (entity : Nat × Text) :
    ∃ fault, unescapeFrom length place (some entity) name = .error fault := by
  induction name generalizing place entity with
  | nil => exact ⟨_, rfl⟩
  | cons c name ih =>
    rw [List.mem_cons, not_or] at h
    rcases unescapeFrom_cons_cases place (some entity) c with
      hfault | ⟨next, other, -, hopen⟩ | ⟨next, d, ⟨hnone, -⟩ | ⟨-, hend⟩, -⟩
    · exact hfault length name
    · rw [hopen]
      exact ih h.2 next other
    · cases hnone
    · exact absurd hend.symm h.1

theorem unescapeFrom_of_unterminated {raw : Text} (h : Unterminated raw) (length place : Nat)
    (opened : Option (Nat × Text)) :
    ∃ fault, unescapeFrom length place opened raw = .error fault := by
  obtain ⟨before, name, rfl, hname⟩ := h
  induction before generalizing place opened with
  | nil =>
    rcases unescapeFrom_cons_cases place opened '&' with
      hfault | ⟨next, entity, -, hopen⟩ | ⟨next, d, ⟨-, hamp⟩ | ⟨-, hend⟩, -⟩
    · exact hfault length name
    · rw [List.nil_append, hopen]
      exact unescapeFrom_opened_of_not_mem hname length next entity
    · exact absurd rfl hamp
    · exact absurd hend (by decide)
  | cons c before ih =>
    rw [List.cons_append]
    rcases unescapeFrom_cons_cases place opened c with
      hfault | ⟨next, entity, -, hopen⟩ | ⟨next, d, -, hread⟩
    · exact hfault length _
    · rw [hopen]
      exact ih next (some entity)
    · obtain ⟨fault, hfault⟩ := ih next none
      exact ⟨fault, by rw [hread, hfault]; rfl⟩

/-- A beginning of a text that can be unescaped can be unescaped, unless it ends within an entity.
The induction is on the beginning, and an entity that is open needs a semicolon in it. -/
theorem unescapeFrom_of_append {raw rest s : Text} {length place : Nat}
    {opened : Option (Nat × Text)}
    (h : unescapeFrom length place opened (raw ++ rest) = .ok s) (other : Nat) :
    (∃ t, unescapeFrom other place opened raw = .ok t) ∨ Unterminated raw ∨
      opened ≠ none ∧ ';' ∉ raw := by
  induction raw generalizing place opened s with
  | nil =>
    cases opened with
    | none => exact .inl ⟨[], rfl⟩
    | some entity => exact .inr (.inr ⟨Option.some_ne_none _, List.not_mem_nil⟩)
  | cons c raw ih =>
    rw [List.cons_append] at h
    rcases unescapeFrom_cons_cases place opened c with
      hfault | ⟨next, entity, hwhy, hopen⟩ | ⟨next, d, -, hread⟩
    · obtain ⟨fault, hfault⟩ := hfault length (raw ++ rest)
      cases hfault.symm.trans h
    · rw [hopen] at h ⊢
      rcases ih h with hok | hbroken | ⟨-, hnone⟩
      · exact .inl hok
      · exact .inr (.inl (hbroken.cons c))
      · -- the entity is the one that `c` opens, or it has been open before
        obtain ⟨-, rfl⟩ | ⟨hopened, hne⟩ := hwhy
        · exact .inr (.inl ⟨[], raw, rfl, hnone⟩)
        · exact .inr (.inr ⟨hopened, List.not_mem_cons_of_ne_of_not_mem hne.symm hnone⟩)
    · rw [hread] at h ⊢
      obtain ⟨later, hlater, -⟩ := Except.map_eq_ok_iff.1 h
      rcases ih hlater with ⟨t, ht⟩ | hbroken | ⟨hopened, -⟩
      · exact .inl ⟨d :: t, by rw [ht]; rfl⟩
      · exact .inr (.inl (hbroken.cons c))
      · exact absurd rfl hopened

/-- **Where a text may break off.** A beginning of a text that can be unescaped cannot be unescaped
if and only if it ends within an entity. -/
theorem unescape_eq_error_iff_of_prefix {raw whole s : Text} (h : unescape whole = .ok s)
    (hraw : raw <+: whole) : (∃ fault, unescape raw = .error fault) ↔ Unterminated raw := by
  constructor
  · rintro ⟨fault, hfault⟩
    obtain ⟨rest, rfl⟩ := hraw
    rcases unescapeFrom_of_append h (Text.utf8Length raw) with ⟨t, ht⟩ | hbroken | ⟨hopened, -⟩
    · cases hfault.symm.trans ht
    · exact hbroken
    · exact absurd rfl hopened
  · intro hbroken
    exact unescapeFrom_of_unterminated hbroken _ 0 none

end Xml

end DoxTriage
