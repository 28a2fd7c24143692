import DoxTriage.Proofs.Rule.MissingArgument
import DoxTriage.Proofs.Rule.Retain

/-!
# Shapes of headlines, and the order of rules

Rules are asked one after the other, the first one that drops a record ends the questions, and so
does the first one that fails; one of the rules reads files, and what it reads stays known. That the
order of the rules makes no difference all the same has one reason. The sentences of the generator
that the rules know begin with five different letters, so a headline has the shape of one rule at
most. Every other rule says no without a look at the index, wherever it stands.

The rule with the shape may stand in a list several times. It is asked again only after it has said
no, and then it has read what it needs, so that it says no again and learns nothing
(`SymbolIndex.Query.Steady`).

## Main definitions

* `Rule.Recognises`: a headline has the shape of a rule.
* `SymbolIndex.Query.Steady`: asked again, a question has the same answer and leaves no trace.

## Main results

* `Rule.eq_of_recognises`: no headline has the shape of two rules.
* `Rule.classify_of_recognises`: the rule that recognises a headline decides alone.
* `Rule.decisions_of_same_rules`: order and repetition of rules do not matter.
-/

namespace DoxTriage

namespace Rule

open SymbolIndex (Query)

/-! ### Shapes -/

/-- A headline has the shape that a rule is about. -/
def Recognises : Rule → Text → Prop
  | .groupConflict, headline =>
    ∃ member, Text.isSolid member = true ∧
      headline = "member ".toList ++ member ++
        (" belongs to two different groups. The second one found here will be ignored.").toList
  | .undeclaredSymbol, headline =>
    ∃ symbol, Text.isSolid symbol = true ∧
      headline = "documented symbol `".toList ++ symbol ++
        "' was not declared or defined.".toList
  | .noUniqueMember, headline =>
    headline = "no uniquely matching class member found for ".toList
  | .undocumentedParameters, headline =>
    ∃ function : Text, function ≠ [] ∧ '\n' ∉ function ∧
      headline = "The following parameters of ".toList ++ function ++
        " are not documented:".toList
  | .argumentNotFound, headline => ∃ name, Complains headline name

/-- How the headlines begin that a rule recognises. -/
def opening : Rule → Text
  | .groupConflict => "member ".toList
  | .undeclaredSymbol => "documented symbol `".toList
  | .noUniqueMember => "no uniquely matching class member found for ".toList
  | .undocumentedParameters => "The following parameters of ".toList
  | .argumentNotFound => "argument '".toList

theorem opening_prefix_of_recognises {rule : Rule} {headline : Text}
    (h : rule.Recognises headline) : rule.opening <+: headline := by
  cases rule with
  | groupConflict =>
    obtain ⟨member, -, rfl⟩ := h
    exact ⟨_, (List.append_assoc ..).symm⟩
  | undeclaredSymbol =>
    obtain ⟨symbol, -, rfl⟩ := h
    exact ⟨_, (List.append_assoc ..).symm⟩
  | noUniqueMember =>
    cases h
    exact List.prefix_rfl
  | undocumentedParameters =>
    obtain ⟨function, -, -, rfl⟩ := h
    exact ⟨_, (List.append_assoc ..).symm⟩
  | argumentNotFound =>
    obtain ⟨name, -, command, -, rest, rfl⟩ := h
    rw [complaint_eq]
    exact List.prefix_append ..

theorem head?_of_recognises {rule : Rule} {headline : Text} (h : rule.Recognises headline) :
    headline.head? = rule.opening.head? := by
  have hne : rule.opening ≠ [] := by cases rule <;> decide
  obtain ⟨rest, rfl⟩ := opening_prefix_of_recognises h
  exact List.head?_append_of_ne_nil _ hne

/-- The sentences that the rules know begin with different letters. -/
theorem eq_of_head?_opening {rule other : Rule} :
    rule.opening.head? = other.opening.head? → rule = other := by
  cases rule <;> cases other <;> decide

/-- **No headline has the shape of two rules.** -/
theorem eq_of_recognises {rule other : Rule} {headline : Text} (h : rule.Recognises headline)
    (hother : other.Recognises headline) : rule = other :=
  eq_of_head?_opening ((head?_of_recognises h).symm.trans (head?_of_recognises hother))

/-! ### What a rule does with a headline -/

theorem any_between?_iff {p : Text → Bool} {front back s : Text} :
    (between? front back s).any p = true ↔
      ∃ inside, p inside = true ∧ s = front ++ inside ++ back := by
  rw [Option.any_eq_true]
  refine exists_congr fun inside => ?_
  rw [and_comm, between?, Option.bind_eq_some_iff]
  refine and_congr_right fun _ => ?_
  constructor
  · rintro ⟨tail, hfront, hback⟩
    rw [← List.append_eq_of_isPrefixOf?_eq_some hfront, List.append_assoc,
      List.append_eq_of_isSuffixOf?_eq_some hback]
  · rintro rfl
    exact ⟨inside ++ back, List.isPrefixOf?_eq_some_iff_append_eq.2 (List.append_assoc ..).symm,
      List.isSuffixOf?_eq_some_iff_append_eq.2 rfl⟩

theorem isGroupConflict_iff {headline : Text} :
    isGroupConflict headline = true ↔ groupConflict.Recognises headline :=
  any_between?_iff

theorem isUndeclaredSymbol_iff {headline : Text} :
    isUndeclaredSymbol headline = true ↔ undeclaredSymbol.Recognises headline :=
  any_between?_iff

theorem isNoUniqueMember_iff {headline : Text} :
    isNoUniqueMember headline = true ↔ noUniqueMember.Recognises headline :=
  decide_eq_true_iff

theorem isUndocumentedParameters_iff {headline : Text} :
    isUndocumentedParameters headline = true ↔ undocumentedParameters.Recognises headline := by
  rw [isUndocumentedParameters, any_between?_iff]
  simp only [Bool.and_eq_true, decide_eq_true_eq, Bool.not_eq_true', List.contains_eq_mem,
    decide_eq_false_iff_not, and_assoc]
  rfl

/-- Four rules decide by the shape of the headline, without the index. -/
theorem exists_suppresses_eq_pure {rule : Rule} (hrule : rule ≠ argumentNotFound) (disk : Disk)
    (record : Record) :
    ∃ drops : Bool, rule.suppresses disk record = pure drops ∧
      (drops = true ↔ rule.Recognises record.headline) := by
  cases rule with
  | groupConflict => exact ⟨_, rfl, isGroupConflict_iff⟩
  | undeclaredSymbol => exact ⟨_, rfl, isUndeclaredSymbol_iff⟩
  | noUniqueMember => exact ⟨_, rfl, isNoUniqueMember_iff⟩
  | undocumentedParameters => exact ⟨_, rfl, isUndocumentedParameters_iff⟩
  | argumentNotFound => exact absurd rfl hrule

variable {rule : Rule} {record : Record}

/-- A rule that does not recognise a headline says no, and does not look at the index. -/
theorem suppresses_of_not_recognises (h : ¬ rule.Recognises record.headline) (disk : Disk) :
    rule.suppresses disk record = pure false := by
  by_cases hrule : rule = argumentNotFound
  · subst hrule
    exact suppresses_argumentNotFound_of_not_complains h disk
  · obtain ⟨drops, hdrops, hshape⟩ := exists_suppresses_eq_pure hrule disk record
    rw [hdrops, Bool.eq_false_iff.2 fun htrue => h (hshape.1 htrue)]

/-- All rules but the fifth drop what they recognise. -/
theorem suppresses_of_recognises (h : rule.Recognises record.headline)
    (hrule : rule ≠ argumentNotFound) (disk : Disk) :
    rule.suppresses disk record = pure true := by
  obtain ⟨drops, hdrops, hshape⟩ := exists_suppresses_eq_pure hrule disk record
  rw [hdrops, hshape.2 h]

end Rule

/-! ### Questions that are asked again -/

namespace SymbolIndex

namespace Query

variable {α β : Type} {query : Query α}

/-- Asked again after an answer, the question has the same answer and leaves no trace. -/
def Steady (query : Query α) : Prop :=
  ∀ index a after, query index = (.ok a, after) → query after = (.ok a, after)

theorem Steady.pure (a : α) : Steady (Pure.pure a : Query α) := by
  intro index b after h
  rw [pure_apply] at h ⊢
  cases h
  rfl

theorem Steady.map (h : Steady query) (f : α → β) : Steady (f <$> query) := by
  intro index b after hb
  rw [map_apply] at hb ⊢
  rcases hquery : query index with ⟨_ | a, next⟩
  · rw [hquery] at hb
    cases hb
  · rw [hquery] at hb
    cases hb
    rw [h index a next hquery]
    rfl

/-- What comes after a steady question may take for granted that the index knows the answer. -/
theorem Steady.bind_congr (h : Steady query) {next other : α → Query β}
    (hnext : ∀ a index, query index = (.ok a, index) → next a index = other a index) :
    query >>= next = query >>= other := by
  funext index
  rw [bind_apply, bind_apply]
  rcases hquery : query index with ⟨_ | a, after⟩
  · rfl
  · exact hnext a after (h index a after hquery)

end Query

theorem steady_declarations (disk : Disk) (file : Text) :
    Query.Steady (declarations disk file) := by
  intro index found after h
  rcases declarations_cases disk file index with ⟨_, hknown, hd⟩ | ⟨_, _, _, hd⟩ | ⟨_, _, _, hd⟩
  · rw [hd] at h
    cases h
    exact hd
  · rw [hd] at h
    cases h
    exact declarations_of_known (by simp)
  · rw [hd] at h
    cases h

end SymbolIndex

namespace Rule

open SymbolIndex (Query)

variable {rule : Rule} {record : Record}

theorem steady_suppresses (disk : Disk) (rule : Rule) (record : Record) :
    Query.Steady (rule.suppresses disk record) := by
  by_cases hrule : rule = argumentNotFound
  · subst hrule
    rw [suppresses]
    cases missingArgument? record.headline with
    | none => exact .pure false
    | some name =>
      exact ((SymbolIndex.steady_declarations disk record.file).map _).map (confirms name)
  · obtain ⟨drops, hdrops, -⟩ := exists_suppresses_eq_pure hrule disk record
    rw [hdrops]
    exact .pure drops

/-! ### The rule that decides -/

/-- If no rule of a list recognises a headline, then none drops the record. -/
theorem classify_of_not_recognises {rules : List Rule}
    (h : ∀ rule ∈ rules, ¬ rule.Recognises record.headline) (disk : Disk) :
    classify disk rules record = pure none := by
  induction rules with
  | nil => rfl
  | cons first rules ih =>
    obtain ⟨hfirst, hrules⟩ := List.forall_mem_cons.1 h
    rw [classify_cons, suppresses_of_not_recognises hfirst, pure_bind]
    exact ih hrules

/-- **The rule that recognises a headline decides alone**, wherever it stands among the others and
however often. -/
theorem classify_of_recognises {rules : List Rule} (hmem : rule ∈ rules)
    (h : rule.Recognises record.headline) (disk : Disk) :
    classify disk rules record =
      (fun drops => if drops then some rule else none) <$> rule.suppresses disk record := by
  induction rules with
  | nil => cases hmem
  | cons first rules ih =>
    rw [classify_cons]
    by_cases hfirst : first = rule
    · subst hfirst
      rw [map_eq_pure_bind]
      refine (steady_suppresses disk first record).bind_congr fun drops index hknown => ?_
      cases drops with
      | true => rfl
      | false =>
        by_cases hlater : first ∈ rules
        · simp only [Bool.false_eq_true, if_false]
          rw [ih hlater, Query.map_apply, hknown]
          rfl
        · have hnone : ∀ other ∈ rules, ¬ other.Recognises record.headline :=
            fun other hother hshape => hlater (eq_of_recognises hshape h ▸ hother)
          rw [classify_of_not_recognises hnone]
          rfl
    · have hshape : ¬ first.Recognises record.headline :=
        fun hshape => hfirst (eq_of_recognises hshape h)
      rw [suppresses_of_not_recognises hshape, pure_bind]
      exact ih ((List.mem_cons.1 hmem).resolve_left (Ne.symm hfirst))

/-- The fifth rule decides about a complaint by the declarations of the source file. -/
theorem verdict_of_complains {disk : Disk} {origin : SymbolIndex} (hnew : origin.known = [])
    {rules : List Rule} (hmem : argumentNotFound ∈ rules) {name : Text}
    (hname : Complains record.headline name) :
    verdict disk origin rules record = (origin.load disk record.file).map fun found =>
      if confirms name (SymbolIndex.candidates record.line found) then some argumentNotFound
      else none := by
  rw [verdict, classify_of_recognises hmem ⟨name, hname⟩, Query.map_apply, ← opinion,
    opinion_argumentNotFound hnew (missingArgument?_of_complains hname)]
  cases origin.load disk record.file <;> rfl

/-- Rules with the fifth among them fail on a record if and only if it has the fifth rule's shape
and the declarations of its source file cannot be loaded. -/
theorem verdict_eq_error_iff {disk : Disk} {origin : SymbolIndex} (hnew : origin.known = [])
    {rules : List Rule} (hmem : argumentNotFound ∈ rules) {failure : Failure} :
    verdict disk origin rules record = .error failure ↔
      (∃ name, Complains record.headline name) ∧
        origin.load disk record.file = .error failure := by
  by_cases hfifth : argumentNotFound.Recognises record.headline
  · obtain ⟨name, hname⟩ := hfifth
    rw [verdict_of_complains hnew hmem hname, Except.map_eq_error_iff]
    exact (and_iff_right ⟨name, hname⟩).symm
  · refine iff_of_false (fun h => ?_) fun h => hfifth h.1
    by_cases hsome : ∃ rule ∈ rules, rule.Recognises record.headline
    · obtain ⟨rule, hrule, hshape⟩ := hsome
      have hne : rule ≠ argumentNotFound := fun heq => hfifth (heq ▸ hshape)
      rw [verdict, classify_of_recognises hrule hshape, suppresses_of_recognises hshape hne] at h
      cases h
    · rw [verdict, classify_of_not_recognises fun rule hrule hshape =>
        hsome ⟨rule, hrule, hshape⟩] at h
      cases h

variable {rules others : List Rule}

/-- Two lists of the same rules give one verdict, and leave an index in one state. -/
theorem classify_congr (h : ∀ rule, rule ∈ rules ↔ rule ∈ others) (disk : Disk)
    (record : Record) : classify disk rules record = classify disk others record := by
  by_cases hsome : ∃ rule ∈ rules, rule.Recognises record.headline
  · obtain ⟨rule, hmem, hshape⟩ := hsome
    rw [classify_of_recognises hmem hshape, classify_of_recognises ((h rule).1 hmem) hshape]
  · have hnone : ∀ rule ∈ rules, ¬ rule.Recognises record.headline :=
      fun rule hmem hshape => hsome ⟨rule, hmem, hshape⟩
    rw [classify_of_not_recognises hnone,
      classify_of_not_recognises fun rule hmem => hnone rule ((h rule).2 hmem)]

theorem retain_congr (h : ∀ rule, rule ∈ rules ↔ rule ∈ others) (disk : Disk)
    (records : List Record) : retain disk rules records = retain disk others records := by
  induction records with
  | nil => rfl
  | cons record records ih => rw [retain_cons, retain_cons, classify_congr h, ih]

/-- **Order and repetition of rules do not matter**, not even when one fails. No headline has the
shape of two rules, and a rule says no to a headline that has not its shape, whatever is on the disk
and in the index. So two lists of the same rules come to the same verdict on every record, or fail
in the same way, and they leave the index in the same state; and they retain the same records. -/
theorem decisions_of_same_rules {rules others : List Rule}
    (h : ∀ rule, rule ∈ rules ↔ rule ∈ others) :
    (∀ (headline : Text) (rule other : Rule),
        rule.Recognises headline → other.Recognises headline → rule = other) ∧
      (∀ (disk : Disk) (rule : Rule) (record : Record), ¬ rule.Recognises record.headline →
        ∀ index, rule.suppresses disk record index = (.ok false, index)) ∧
      ∀ disk : Disk,
        (∀ (record : Record) (index : SymbolIndex),
          classify disk rules record index = classify disk others record index) ∧
        ∀ (records : List Record) (index : SymbolIndex),
          retain disk rules records index = retain disk others records index := by
  refine ⟨fun headline rule other => eq_of_recognises, ?_, fun disk => ⟨?_, ?_⟩⟩
  · intro disk rule record hshape index
    rw [suppresses_of_not_recognises hshape, Query.pure_apply]
  · intro record index
    rw [classify_congr h]
  · intro records index
    rw [retain_congr h]

/-- The fifth rule twice and in front, against the usual order: a complaint is kept after both of
its questions, and without the document both lists fail. -/
theorem decisions_of_same_rules_reversed :
    let page : Path := ⟨"d.xml".toList⟩
    let text : Text := "<memberdef><argsstring>(int a)</argsstring>".toList ++
      "<location file='f' line='8'/></memberdef>".toList
    let bare : Disk := ⟨fun _ => none, []⟩
    let disk := bare.put page (.file text)
    let index : SymbolIndex := { documents := ⟨[⟨"f".toList, [page]⟩]⟩, marker := [] }
    let conflict : Record := ⟨⟨"f".toList, 2, ("member g belongs to two different groups. " ++
      "The second one found here will be ignored.").toList⟩, []⟩
    let complaint : Record := ⟨⟨"f".toList, 5, ("argument 'b' of command @param is not found in " ++
      "the argument list of g(int a)").toList⟩, []⟩
    let rules : List Rule := [.argumentNotFound, .groupConflict, .argumentNotFound]
    let others : List Rule := [.groupConflict, .argumentNotFound]
    let after := { index with known := [("f".toList, [#[⟨8, "(int a)".toList⟩]])] }
    (∀ rule, rule ∈ rules ↔ rule ∈ others) ∧
      (retain disk rules [conflict, complaint] index).1 = .ok [complaint] ∧
      (retain disk rules [conflict, complaint] index).2 = after ∧
      (classify bare rules complaint index).1 = .error (.missingInput page) := by
  intro page text bare disk index conflict complaint rules others after
  have hsame : ∀ rule, rule ∈ rules ↔ rule ∈ others := by
    intro rule
    simp only [rules, others, List.mem_cons, List.not_mem_nil, or_false]
    tauto
  obtain ⟨-, -, hdecisions⟩ := decisions_of_same_rules hsame
  rw [(hdecisions disk).2, (hdecisions bare).1]
  exact ⟨hsame, by decide +kernel, by decide +kernel, by decide +kernel⟩

end Rule

end DoxTriage
