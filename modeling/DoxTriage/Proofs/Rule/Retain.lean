import DoxTriage.Proofs.FirstFailure
import DoxTriage.Proofs.SymbolIndex.Question
import DoxTriage.Rule

/-!
# Retaining records is filtering them

The rules go through the records with one index that knows more and more, and a question can fail.
On an unchanged disk none of this shows. Every question is settled, so every record gets the verdict
that it would get if it were the only one; and if no verdict fails, then what is left is what a
filter with these verdicts leaves.

Rules are asked in order until one drops the record, so a verdict says something about all rules
only when there is none that drops it: then each of them has been asked and has answered no.

## Main definitions

* `Rule.opinion`: what one rule says about a record, with a new index.
* `Rule.verdict`: the rule that drops a record, if there is one, with a new index.
* `Rule.spares`: no rule drops the record, and none fails.

## Main results

* `Rule.settled_classify`: a verdict is settled.
* `Rule.verdict_eq_none_iff`: no rule drops a record when each of them says so.
* `Rule.fst_retain_eq_ok_iff`: what is retained is a filter.
-/

namespace DoxTriage

namespace Rule

open SymbolIndex (Query)

variable {disk : Disk} {origin : SymbolIndex}

/-- What a rule says about a record, with a new index. -/
def opinion (disk : Disk) (origin : SymbolIndex) (record : Record) (rule : Rule) :
    Except Failure Bool :=
  (rule.suppresses disk record origin).1

/-- The first of several rules that drops a record, with a new index. -/
def verdict (disk : Disk) (origin : SymbolIndex) (rules : List Rule) (record : Record) :
    Except Failure (Option Rule) :=
  (classify disk rules record origin).1

/-- No rule drops the record, and none fails. -/
def spares (disk : Disk) (origin : SymbolIndex) (rules : List Rule) (record : Record) : Bool :=
  match verdict disk origin rules record with
  | .ok none => true
  | _ => false

/-! ### Settled verdicts -/

theorem classify_cons (rule : Rule) (rules : List Rule) (record : Record) :
    classify disk (rule :: rules) record = rule.suppresses disk record >>= fun drops =>
      if drops then pure (some rule) else classify disk rules record := rfl

theorem retain_cons (rules : List Rule) (record : Record) (records : List Record) :
    retain disk rules (record :: records) = classify disk rules record >>= fun verdict =>
      (fun kept => if verdict.isNone then record :: kept else kept) <$>
        retain disk rules records := by
  simp only [map_eq_pure_bind]
  rfl

theorem settled_suppresses (hnew : origin.known = []) (rule : Rule) (record : Record) :
    Query.Settled disk origin (rule.suppresses disk record) (opinion disk origin record rule) := by
  have hpure : ∀ drops : Bool, Query.Settled disk origin (pure drops) (.ok drops) :=
    Query.Settled.pure disk origin
  cases rule with
  | argumentNotFound =>
    rw [opinion, suppresses]
    cases missingArgument? record.headline with
    | none => exact hpure false
    | some name =>
      have hnearest := SymbolIndex.settled_nearest disk origin record.file record.line
      exact (hnearest.map (confirms name)).of_new hnew
  | groupConflict => exact hpure _
  | undeclaredSymbol => exact hpure _
  | noUniqueMember => exact hpure _
  | undocumentedParameters => exact hpure _

/-- The rules are asked in order until one drops the record. -/
theorem settled_classify_cons (hnew : origin.known = []) (rule : Rule) {rules : List Rule}
    {record : Record} {later : Except Failure (Option Rule)}
    (hlater : Query.Settled disk origin (classify disk rules record) later) :
    Query.Settled disk origin (classify disk (rule :: rules) record)
      (opinion disk origin record rule >>= fun drops =>
        if drops then .ok (some rule) else later) := by
  rw [classify_cons]
  refine (settled_suppresses hnew rule record).bind fun drops _ => ?_
  cases drops with
  | true => exact .pure disk origin (some rule)
  | false => exact hlater

/-- A verdict does not depend on what was asked before. -/
theorem settled_classify (hnew : origin.known = []) (rules : List Rule) (record : Record) :
    Query.Settled disk origin (classify disk rules record)
      (verdict disk origin rules record) := by
  induction rules with
  | nil => exact .pure disk origin none
  | cons rule rules ih => exact (settled_classify_cons hnew rule ih).of_new hnew

theorem verdict_cons (hnew : origin.known = []) (rule : Rule) (rules : List Rule)
    (record : Record) :
    verdict disk origin (rule :: rules) record =
      opinion disk origin record rule >>= fun drops =>
        if drops then .ok (some rule) else verdict disk origin rules record :=
  (settled_classify_cons hnew rule (settled_classify hnew rules record)).fst_eq hnew

theorem settled_retain_cons (hnew : origin.known = []) {rules : List Rule} (record : Record)
    {records : List Record} {later : Except Failure (List Record)}
    (hlater : Query.Settled disk origin (retain disk rules records) later) :
    Query.Settled disk origin (retain disk rules (record :: records))
      (verdict disk origin rules record >>= fun dropping =>
        later.map fun kept => if dropping.isNone then record :: kept else kept) := by
  rw [retain_cons]
  exact (settled_classify hnew rules record).bind fun dropping _ => hlater.map _

/-- What is retained does not depend on what was asked before. -/
theorem settled_retain (hnew : origin.known = []) (rules : List Rule) (records : List Record) :
    Query.Settled disk origin (retain disk rules records)
      (retain disk rules records origin).1 := by
  induction records with
  | nil => exact .pure disk origin []
  | cons record records ih => exact (settled_retain_cons hnew record ih).of_new hnew

theorem fst_retain_cons (hnew : origin.known = []) (rules : List Rule) (record : Record)
    (records : List Record) :
    (retain disk rules (record :: records) origin).1 =
      verdict disk origin rules record >>= fun dropping =>
        (retain disk rules records origin).1.map fun kept =>
          if dropping.isNone then record :: kept else kept :=
  (settled_retain_cons hnew record (settled_retain hnew rules records)).fst_eq hnew

/-! ### What a verdict says -/

theorem verdict_eq_none_iff (hnew : origin.known = []) {rules : List Rule} {record : Record} :
    verdict disk origin rules record = .ok none ↔
      ∀ rule ∈ rules, opinion disk origin record rule = .ok false := by
  induction rules with
  | nil => exact iff_of_true rfl fun rule hrule => absurd hrule List.not_mem_nil
  | cons rule rules ih =>
    rw [verdict_cons hnew, List.forall_mem_cons, ← ih]
    rcases opinion disk origin record rule with failure | drops
    · constructor
      · intro h
        cases h
      · rintro ⟨h, -⟩
        cases h
    · cases drops with
      | true => simp [bind, Except.bind]
      | false => simp [bind, Except.bind]

theorem of_verdict_eq_some (hnew : origin.known = []) {rules : List Rule} {record : Record}
    {rule : Rule} (h : verdict disk origin rules record = .ok (some rule)) :
    rule ∈ rules ∧ opinion disk origin record rule = .ok true := by
  induction rules with
  | nil => cases h
  | cons first rules ih =>
    rw [verdict_cons hnew] at h
    cases hopinion : opinion disk origin record first with
    | error failure =>
      rw [hopinion] at h
      cases h
    | ok drops =>
      rw [hopinion] at h
      cases drops with
      | true =>
        cases h
        exact ⟨List.mem_cons_self .., hopinion⟩
      | false =>
        obtain ⟨hmem, htrue⟩ := ih h
        exact ⟨List.mem_cons_of_mem _ hmem, htrue⟩

theorem spares_eq {rules : List Rule} {record : Record} {dropping : Option Rule}
    (h : verdict disk origin rules record = .ok dropping) :
    spares disk origin rules record = dropping.isNone := by
  rw [spares, h]
  cases dropping <;> rfl

/-- A record with a verdict is spared unless some rule drops it. -/
theorem spares_iff_of_verdict (hnew : origin.known = []) {rules : List Rule} {record : Record}
    {dropping : Option Rule} (h : verdict disk origin rules record = .ok dropping) :
    spares disk origin rules record = true ↔
      ¬ ∃ rule ∈ rules, opinion disk origin record rule = .ok true := by
  rw [spares_eq h]
  cases dropping with
  | none =>
    refine iff_of_true rfl ?_
    rintro ⟨rule, hrule, htrue⟩
    rw [(verdict_eq_none_iff hnew).1 h rule hrule] at htrue
    cases htrue
  | some rule =>
    refine iff_of_false Bool.false_ne_true fun hno => hno ⟨rule, ?_⟩
    exact of_verdict_eq_some hnew h

/-! ### Keys -/

/-- Rules look at the key of a record, and not at its contexts. -/
theorem classify_key (disk : Disk) (rules : List Rule) (record : Record) :
    classify disk rules ⟨record.toKey, []⟩ = classify disk rules record := by
  induction rules with
  | nil => rfl
  | cons rule rules ih =>
    have hrule : rule.suppresses disk ⟨record.toKey, []⟩ = rule.suppresses disk record := rfl
    rw [classify_cons, classify_cons, hrule, ih]

theorem verdict_key (rules : List Rule) (record : Record) :
    verdict disk origin rules ⟨record.toKey, []⟩ = verdict disk origin rules record := by
  rw [verdict, verdict, classify_key]

theorem spares_key (rules : List Rule) (record : Record) :
    spares disk origin rules ⟨record.toKey, []⟩ = spares disk origin rules record := by
  rw [spares, spares, verdict_key]

/-! ### What is retained -/

/-- **Retaining is filtering**: the rules leave some of the records if and only if every record has
a verdict, and then they leave those that are spared. -/
theorem fst_retain_eq_ok_iff (hnew : origin.known = []) {rules : List Rule}
    {records kept : List Record} :
    (retain disk rules records origin).1 = .ok kept ↔
      (∀ record ∈ records, ∃ dropping, verdict disk origin rules record = .ok dropping) ∧
        kept = records.filter (spares disk origin rules) := by
  induction records generalizing kept with
  | nil =>
    have hnone : (retain disk rules [] origin).1 = .ok [] := rfl
    rw [hnone, Except.ok.injEq, List.filter_nil]
    constructor
    · rintro rfl
      exact ⟨fun record hrecord => absurd hrecord List.not_mem_nil, rfl⟩
    · rintro ⟨-, rfl⟩
      rfl
  | cons record records ih =>
    rw [fst_retain_cons hnew, List.forall_mem_cons, List.filter_cons]
    constructor
    · intro h
      rcases hverdict : verdict disk origin rules record with failure | dropping
      · rw [hverdict] at h
        cases h
      · rcases hlater : (retain disk rules records origin).1 with failure | others
        · rw [hverdict, hlater] at h
          cases h
        · rw [hverdict, hlater] at h
          obtain ⟨hall, rfl⟩ := ih.1 hlater
          cases h
          rw [spares_eq hverdict]
          exact ⟨⟨⟨dropping, rfl⟩, hall⟩, rfl⟩
    · rintro ⟨⟨⟨dropping, hverdict⟩, hall⟩, rfl⟩
      rw [hverdict, ih.2 ⟨hall, rfl⟩, spares_eq hverdict]
      rfl

/-- The rules fail as they fail on the first record that has no verdict. -/
theorem fst_retain_eq_error_iff (hnew : origin.known = []) {rules : List Rule}
    {records : List Record} {failure : Failure} :
    (retain disk rules records origin).1 = .error failure ↔
      FailsFirst (verdict disk origin rules) records failure := by
  induction records with
  | nil => exact iff_of_false (fun h => by cases h) not_failsFirst_nil
  | cons record records ih =>
    rw [fst_retain_cons hnew, Except.bind_eq_error_iff, failsFirst_cons, ← ih]
    simp only [Except.map_eq_error_iff, exists_and_right]

/-- Whatever the index knows, some of the records are retained, in their order. -/
theorem sublist_of_retain {index : SymbolIndex} {rules : List Rule} {records kept : List Record}
    (h : (retain disk rules records index).1 = .ok kept) : kept.Sublist records := by
  induction records generalizing index kept with
  | nil =>
    cases h
    exact List.Sublist.slnil
  | cons record records ih =>
    rw [retain_cons, Query.bind_apply] at h
    rcases hverdict : classify disk rules record index with ⟨failure | dropping, after⟩
    · rw [hverdict] at h
      cases h
    · rw [hverdict] at h
      simp only [Query.map_apply] at h
      obtain ⟨others, hothers, rfl⟩ := Except.map_eq_ok_iff.1 h
      split
      · exact (ih hothers).cons_cons record
      · exact (ih hothers).cons record

/-! ### The fifth rule -/

/-- The fifth rule loads the declarations of the source file and looks for the name in them. -/
theorem opinion_argumentNotFound (hnew : origin.known = []) {record : Record} {name : Text}
    (hname : missingArgument? record.headline = some name) :
    opinion disk origin record argumentNotFound =
      (origin.load disk record.file).map fun found =>
        confirms name (SymbolIndex.candidates record.line found) := by
  have hunknown : origin.known.lookup record.file = none := by rw [hnew]; rfl
  rw [opinion, suppresses, hname]
  simp only [SymbolIndex.nearest, Query.map_apply]
  rw [SymbolIndex.fst_declarations_of_unknown hunknown]
  cases origin.load disk record.file <;> rfl

end Rule

end DoxTriage
