import DoxTriage.Proofs.FirstFailure
import DoxTriage.Warning.EmptyBlock

/-!
# Where the log of empty blocks goes wrong

The blocks of the log are read from a list of numbered lines without the blank ones. The failure
says the same about the log as it is written: it names the first line that is neither blank nor
lists a block, by its text and by its place among *all* lines, counted from one. If there is no such
line then each line that is not blank gives a block, and the numbers do not matter.

## Main definitions

* `EmptyBlock.FirstMalformed`: the first bad line of several, and how many lines stand before it.

## Main results

* `EmptyBlock.ofLog_eq_error_iff`: the failure of a log names its first bad line.
* `EmptyBlock.ofLog_eq_ok_iff`: the blocks of a log are those of its lines.
-/

namespace DoxTriage

namespace EmptyBlock

/-- The first line that is neither blank nor lists a block. `place` is the number of lines before
it. -/
structure FirstMalformed (lines : List Text) (place : Nat) (line : Text) : Prop where
  getElem?_eq : lines[place]? = some line
  not_blank : Text.isBlankLine line = false
  malformed : ofLine? line = none
  earlier : ∀ other ∈ lines.take place,
    Text.isBlankLine other = true ∨ ∃ block, ofLine? other = some block

variable {first line : Text} {lines : List Text} {place : Nat}

theorem not_firstMalformed_nil : ¬ FirstMalformed [] place line := by
  intro h
  cases h.getElem?_eq

theorem firstMalformed_zero :
    FirstMalformed (first :: lines) 0 line ↔
      first = line ∧ Text.isBlankLine line = false ∧ ofLine? line = none := by
  constructor
  · intro h
    exact ⟨Option.some.inj h.getElem?_eq, h.not_blank, h.malformed⟩
  · rintro ⟨rfl, hblank, hnone⟩
    exact ⟨rfl, hblank, hnone, fun other hother => absurd hother List.not_mem_nil⟩

theorem firstMalformed_succ :
    FirstMalformed (first :: lines) (place + 1) line ↔
      (Text.isBlankLine first = true ∨ ∃ block, ofLine? first = some block) ∧
        FirstMalformed lines place line := by
  constructor
  · intro h
    obtain ⟨hfirst, hlines⟩ := List.forall_mem_cons.1 h.earlier
    exact ⟨hfirst, h.getElem?_eq, h.not_blank, h.malformed, hlines⟩
  · rintro ⟨hfirst, h⟩
    exact ⟨h.getElem?_eq, h.not_blank, h.malformed, List.forall_mem_cons.2 ⟨hfirst, h.earlier⟩⟩

variable {log : Path} {failure : Failure}

theorem ofNumberedLine_eq_error_iff {n : Nat} :
    ofNumberedLine log line n = .error failure ↔
      ofLine? line = none ∧ failure = .malformedLine log n line := by
  rw [ofNumberedLine]
  cases ofLine? line with
  | some block => simp
  | none => simp [eq_comm]

theorem ofNumberedLine_eq_ok_iff {n : Nat} {block : EmptyBlock} :
    ofNumberedLine log line n = .ok block ↔ ofLine? line = some block := by
  rw [ofNumberedLine]
  cases ofLine? line <;> simp

/-- The induction is on the lines, with the number of the first of them left open. -/
theorem failsFirst_zipIdx_iff (n : Nat) :
    FailsFirst (fun numbered : Text × Nat => ofNumberedLine log numbered.1 numbered.2)
        ((lines.zipIdx n).filter (! Text.isBlankLine ·.1)) failure ↔
      ∃ place line, FirstMalformed lines place line ∧
        failure = .malformedLine log (n + place) line := by
  induction lines generalizing n with
  | nil =>
    refine iff_of_false not_failsFirst_nil ?_
    rintro ⟨place, line, h, -⟩
    exact not_firstMalformed_nil h
  | cons first lines ih =>
    -- what the lines after the first one contribute
    have hlater : (∃ place line, FirstMalformed (first :: lines) (place + 1) line ∧
          failure = .malformedLine log (n + (place + 1)) line) ↔
        (Text.isBlankLine first = true ∨ ∃ block, ofLine? first = some block) ∧
          ∃ place line, FirstMalformed lines place line ∧
            failure = .malformedLine log (n + 1 + place) line := by
      simp only [firstMalformed_succ, and_assoc, exists_and_left, Nat.add_assoc, Nat.add_comm 1]
    have hfront : (∃ line, FirstMalformed (first :: lines) 0 line ∧
          failure = .malformedLine log (n + 0) line) ↔
        Text.isBlankLine first = false ∧ ofLine? first = none ∧
          failure = .malformedLine log n first := by
      simp only [firstMalformed_zero, and_assoc, exists_eq_left', Nat.add_zero]
    rw [List.zipIdx_cons, ← Nat.or_exists_add_one, hlater, hfront, ← ih, List.filter_cons]
    cases hblank : Text.isBlankLine first with
    | true => simp
    | false =>
      simp only [Bool.not_false, if_true, failsFirst_cons, ofNumberedLine_eq_error_iff,
        ofNumberedLine_eq_ok_iff, Bool.false_eq_true, false_or, true_and]

/-- **The failure of a log** names its first bad line. -/
theorem ofLog_eq_error_iff {content : Text} :
    ofLog log content = .error failure ↔
      ∃ place line, FirstMalformed (Text.lines content) place line ∧
        failure = .malformedLine log (place + 1) line := by
  rw [ofLog, mapM_eq_error_iff, failsFirst_zipIdx_iff]
  simp only [Nat.add_comm 1]

/-- **The blocks of a log** are those of its lines, one for each line that is not blank. -/
theorem ofLog_eq_ok_iff {content : Text} {blocks : List EmptyBlock} :
    ofLog log content = .ok blocks ↔
      List.Forall₂ (fun line block => ofLine? line = some block)
        ((Text.lines content).filter (! Text.isBlankLine ·)) blocks := by
  have hlines : (Text.lines content).filter (! Text.isBlankLine ·) =
      (((Text.lines content).zipIdx 1).filter (! Text.isBlankLine ·.1)).map Prod.fst := by
    conv_lhs => rw [← List.zipIdx_map_fst 1 (Text.lines content), List.filter_map]
    rfl
  rw [ofLog, mapM_eq_ok_iff, hlines, List.forall₂_map_left_iff]
  simp only [ofNumberedLine_eq_ok_iff]

/-- A log fails if one of its lines should not be in it. -/
theorem exists_ofLog_eq_error_iff {content : Text} :
    (∃ failure, ofLog log content = .error failure) ↔
      ∃ line ∈ Text.lines content, Text.isBlankLine line = false ∧ ofLine? line = none := by
  constructor
  · rintro ⟨failure, h⟩
    obtain ⟨place, line, hfirst, -⟩ := ofLog_eq_error_iff.1 h
    exact ⟨line, List.mem_of_getElem? hfirst.getElem?_eq, hfirst.not_blank, hfirst.malformed⟩
  · rintro ⟨line, hmem, hblank, hnone⟩
    cases hread : ofLog log content with
    | error failure => exact ⟨failure, rfl⟩
    | ok blocks =>
      have hlines := ofLog_eq_ok_iff.1 hread
      have hkept : line ∈ (Text.lines content).filter (! Text.isBlankLine ·) :=
        List.mem_filter.2 ⟨hmem, by rw [hblank]; rfl⟩
      obtain ⟨block, -, hblock⟩ := exists_of_forall₂ hlines hkept
      cases hnone.symm.trans hblock

end EmptyBlock

end DoxTriage
