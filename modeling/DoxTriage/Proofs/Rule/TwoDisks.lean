import DoxTriage.Proofs.Rule.Shape

/-!
# Rules on two disks

What a rule says is a function of the record and of the disk, and of the disk it needs little: the
declarations of one source file, and these only if the record complains about an argument. Two disks
that have the same declarations for such records are therefore the same to the rules. The agreement
is handed up, from an input to the declarations of a source file, to the opinion of a rule, to a
verdict, to what is retained.

A disk on which more can be loaded than on another one is the same to rules that have succeeded on
the other one. Each record that complains has been judged there, and so its declarations were among
what could be loaded.

## Main results

* `SymbolIndex.load_congr_of_read`: declarations depend on the documents of their source file.
* `Rule.fst_retain_congr`: what is retained depends on the source files of complaints.
* `Rule.fst_retain_eq_ok_of_load`: rules that succeed still do when more can be loaded.
-/

namespace DoxTriage

variable {disk other : Disk}

/-! ### Reading -/

theorem Disk.readInput_congr {input : Path} (h : other.read input = disk.read input) :
    other.readInput input = disk.readInput input := by
  rw [readInput, readInput, h]

/-- The declarations of a source file are those in its documents, and no others are opened. -/
theorem SymbolIndex.load_congr_of_read {index : SymbolIndex} {file : Text}
    (h : ∀ document ∈ index.documents.documentsOf file, other.read document = disk.read document) :
    index.load other file = index.load disk file := by
  refine mapM_congr_of_mem fun document hdocument => ?_
  rw [readDocument, readDocument, Disk.readInput_congr (h document hdocument)]

/-! ### Judging -/

namespace Rule

variable {origin : SymbolIndex}

/-- A rule asks for declarations when a record complains about an argument, and never else. -/
theorem opinion_congr (hnew : origin.known = []) {record : Record}
    (hload : (∃ name, Complains record.headline name) →
      origin.load other record.file = origin.load disk record.file) (rule : Rule) :
    opinion other origin record rule = opinion disk origin record rule := by
  cases rule with
  | argumentNotFound =>
    by_cases hcomplains : ∃ name, Complains record.headline name
    · obtain ⟨name, hname⟩ := hcomplains
      have hargument := missingArgument?_of_complains hname
      rw [opinion_argumentNotFound hnew hargument, opinion_argumentNotFound hnew hargument,
        hload ⟨name, hname⟩]
    · rw [opinion, opinion, suppresses_argumentNotFound_of_not_complains hcomplains,
        suppresses_argumentNotFound_of_not_complains hcomplains]
  | groupConflict => rfl
  | undeclaredSymbol => rfl
  | noUniqueMember => rfl
  | undocumentedParameters => rfl

theorem verdict_congr (hnew : origin.known = []) {record : Record}
    (hload : (∃ name, Complains record.headline name) →
      origin.load other record.file = origin.load disk record.file) (rules : List Rule) :
    verdict other origin rules record = verdict disk origin rules record := by
  induction rules with
  | nil => rfl
  | cons rule rules ih =>
    rw [verdict_cons hnew, verdict_cons hnew, opinion_congr hnew hload, ih]

/-- What is retained of some records, or the failure, depends on the source files that they complain
about. -/
theorem fst_retain_congr (hnew : origin.known = []) {records : List Record}
    (hload : ∀ record ∈ records, (∃ name, Complains record.headline name) →
      origin.load other record.file = origin.load disk record.file) (rules : List Rule) :
    (retain other rules records origin).1 = (retain disk rules records origin).1 := by
  induction records with
  | nil => rfl
  | cons record records ih =>
    obtain ⟨hrecord, hrecords⟩ := List.forall_mem_cons.1 hload
    rw [fst_retain_cons hnew, fst_retain_cons hnew, verdict_congr hnew hrecord, ih hrecords]

/-- What is retained is the same on another disk if there, too, what can be loaded here can. -/
theorem fst_retain_eq_ok_of_load (hnew : origin.known = []) {rules : List Rule}
    (hfifth : argumentNotFound ∈ rules) {records kept : List Record}
    (hload : ∀ file found, origin.load disk file = .ok found → origin.load other file = .ok found)
    (h : (retain disk rules records origin).1 = .ok kept) :
    (retain other rules records origin).1 = .ok kept := by
  obtain ⟨hverdict, -⟩ := (fst_retain_eq_ok_iff hnew).1 h
  rw [← h]
  refine fst_retain_congr hnew (fun record hrecord hcomplains => ?_) rules
  cases hfound : origin.load disk record.file with
  | ok found => exact hload record.file found hfound
  | error failure =>
    obtain ⟨dropping, hdropping⟩ := hverdict record hrecord
    have hfails := (verdict_eq_error_iff hnew hfifth).2 ⟨hcomplains, hfound⟩
    cases hdropping.symm.trans hfails

end Rule

end DoxTriage
