import DoxTriage.Proofs.Rule.Shape
import DoxTriage.Proofs.Triage.Accounting
import DoxTriage.Proofs.Warning.Log

/-!
# Warnings of a fixed shape are not reported

Four rules have a fixed shape, with one gap at most for a name or a list of parameters. They decide
alone: a headline of the shape is dropped without a question to the index, so nothing can fail, and
a headline that is different in any way is not dropped by that rule. A name in the gap may have the
words of the shape in it again, which makes no difference, because there is only one beginning and
one end.

On the way from a log to a record a headline can only lose a return. None of the shapes has one at
its end. So a row of a log that begins a record with such a message becomes a warning with this very
headline, whatever the line ends are and whatever goes on below it, and no record of its key is
reported.

## Main results

* `Rule.classify_of_recognises_fixed`: a headline of a fixed shape is dropped at once.
* `Warning.exists_mem_ofLog`: a row of a log that begins a record becomes a warning.
* `Rule.fixed_shapes_decide`: what the rules with fixed shapes drop, and that it is not reported.
-/

namespace DoxTriage

/-! ### From a row to a warning -/

namespace Warning

variable {content row line : Text} {lines : List Text} {start : Start} {number : Nat}

theorem headline_eq_of_message {warning : Warning} {first : Text} {others : List Text}
    (hfirst : '\n' ∉ first) (h : warning.message = first ++ others.flatMap ('\n' :: ·)) :
    warning.headline = Text.dropReturn first := by
  cases others with
  | nil =>
    rw [headline, h, List.flatMap_nil, List.append_nil, Text.pieces, Text.split_of_not_mem hfirst]
    rfl
  | cons second others =>
    rw [headline, h, List.flatMap_cons, List.cons_append, Text.pieces,
      Text.split_append_separator, Text.split_of_not_mem hfirst]
    rfl

/-- Each line that begins a record has its warning, with the lines after it that go on. -/
theorem exists_mem_ofLines (hmem : line ∈ lines) (hstart : IsStart line) :
    ∃ later, ∃ warning ∈ ofLines lines, ofRecord? line later = some warning := by
  obtain ⟨before, later, rfl⟩ := List.append_of_mem hmem
  obtain ⟨warning, hwarning⟩ := (exists_ofRecord?_iff later).2 hstart
  refine ⟨later, warning, ?_, hwarning⟩
  induction before with
  | nil =>
    rw [List.nil_append, ofLines, hwarning]
    exact List.mem_cons_self ..
  | cons first before ih =>
    rw [List.cons_append, ofLines]
    exact List.mem_append_right _ (ih (List.mem_append_right _ (List.mem_cons_self ..)))

theorem Start.Splits.suffix (h : Start.Splits line start) : start.message <:+ line := by
  refine ⟨Start.mark ++ (start.file ++ ':' :: (start.digits ++ Start.sign)), ?_⟩
  rw [h.line_eq]
  simp

/-- **A row of a log that begins a record becomes a warning** with the message for its headline,
whatever goes on below it, if the message has no return at its end. -/
theorem exists_mem_ofLog (hrow : Text.IsRow content row) (hstart : Start.Shortest row start)
    (hnumber : start.Numbered number) (hreturn : start.message.getLast? ≠ some '\r') :
    ∃ warning ∈ ofLog content, warning.file = start.file ∧ warning.line = number ∧
      warning.headline = start.message := by
  obtain ⟨front, hfront⟩ := hstart.suffix
  have hne : row ≠ [] := by
    rintro rfl
    exact hstart.message_ne_nil (List.append_eq_nil_iff.1 hfront).2
  have hend : row.getLast? ≠ some '\r' := by
    rwa [← hfront, List.getLast?_append_of_ne_nil _ hstart.message_ne_nil]
  have hline : '\n' ∉ start.message := fun hc => hrow.1 (hstart.suffix.subset hc)
  obtain ⟨later, warning, hmem, hwarning⟩ := exists_mem_ofLines
    (Text.mem_lines_of_isRow hrow hne hend) ⟨start, number, hstart, hnumber⟩
  obtain ⟨other, hother, hread, hfile, hmessage⟩ := ofRecord?_eq_some_iff.1 hwarning
  obtain rfl := hother.unique hstart
  refine ⟨warning, hmem, hfile, hread.value_eq.symm.trans hnumber.value_eq, ?_⟩
  rw [headline_eq_of_message hline hmessage, Text.dropReturn_of_ne hreturn]

end Warning

/-! ### Fixed shapes -/

namespace Rule

open SymbolIndex (Query)

variable {rule : Rule}

/-- How the headlines end that have a fixed shape. -/
theorem getLast?_of_recognises (hrule : rule ≠ argumentNotFound) {headline : Text}
    (h : rule.Recognises headline) : headline.getLast? ≠ some '\r' := by
  cases rule with
  | groupConflict =>
    obtain ⟨member, -, rfl⟩ := h
    rw [List.getLast?_append_of_ne_nil _ (by decide)]
    decide
  | undeclaredSymbol =>
    obtain ⟨symbol, -, rfl⟩ := h
    rw [List.getLast?_append_of_ne_nil _ (by decide)]
    decide
  | noUniqueMember =>
    cases h
    decide
  | undocumentedParameters =>
    obtain ⟨function, -, -, rfl⟩ := h
    rw [List.getLast?_append_of_ne_nil _ (by decide)]
    decide
  | argumentNotFound => exact absurd rfl hrule

theorem mem_all (rule : Rule) : rule ∈ all := by
  cases rule <;> decide

/-- A headline of a fixed shape is dropped at once. -/
theorem classify_of_recognises_fixed (hrule : rule ≠ argumentNotFound) {record : Record}
    (h : rule.Recognises record.headline) (disk : Disk) :
    classify disk all record = pure (some rule) := by
  rw [classify_of_recognises (mem_all rule) h, suppresses_of_recognises h hrule]
  rfl

/-- A rule that drops a record recognises its headline. -/
theorem recognises_of_classify {disk : Disk} {rules : List Rule} {record : Record}
    {index : SymbolIndex} (h : (classify disk rules record index).1 = .ok (some rule)) :
    rule.Recognises record.headline := by
  by_cases hsome : ∃ other ∈ rules, other.Recognises record.headline
  · obtain ⟨other, hother, hshape⟩ := hsome
    rw [classify_of_recognises hother hshape, Query.map_apply] at h
    obtain ⟨drops, -, hdrops⟩ := Except.map_eq_ok_iff.1 h
    cases drops with
    | false => cases hdrops
    | true =>
      cases hdrops
      exact hshape
  · rw [classify_of_not_recognises fun other hother hshape => hsome ⟨other, hother, hshape⟩] at h
    cases h

/-- No record of a fixed shape is reported. -/
theorem not_recognises_of_accounts (hrule : rule ≠ argumentNotFound) {disk : Disk}
    {settings : Settings} {origin : SymbolIndex} {warnings : List Warning} {kept : List Record}
    {triage : Triage} (h : Triage.Accounts disk settings origin warnings kept triage)
    {record : Record} (hrecord : record ∈ kept) : ¬ rule.Recognises record.headline := by
  intro hshape
  refine ((h.mem_kept record).1 hrecord).2 ⟨rule, mem_all rule, ?_⟩
  rw [opinion, suppresses_of_recognises hshape hrule]
  rfl

/-- **Fixed shapes decide.** Such a rule drops a record if and only if the headline has its shape,
and then it drops it without a question to the index, which stays as it is. In a triage that
succeeds no record is reported whose headline has the shape. In particular, if a row of the warning
log begins a record with a message of the shape, then there is a warning with this headline,
whatever goes on below the row, and no record of its key is reported. -/
theorem fixed_shapes_decide {rule : Rule} (hrule : rule ≠ argumentNotFound) (disk : Disk) :
    (∀ (record : Record) (index : SymbolIndex),
      ((classify disk all record index).1 = .ok (some rule) ↔
        rule.Recognises record.headline) ∧
      (rule.Recognises record.headline →
        classify disk all record index = (.ok (some rule), index))) ∧
      ∀ (workspace : Workspace) (triage : Triage), workspace.triage disk = .ok triage →
        ∃ documentLog log emptyBlockLog described kept,
          disk.readInput workspace.documentLog = .ok documentLog ∧
          disk.readInput workspace.warningLog = .ok log ∧
          disk.readInput workspace.emptyBlockLog = .ok emptyBlockLog ∧
          Warning.ofEmptyBlockLog workspace.settings.extensions workspace.emptyBlockLog
            emptyBlockLog = .ok described ∧
          Triage.Accounts disk workspace.settings
            (workspace.index (workspace.documents documentLog)) (Warning.ofLog log ++ described)
            kept triage ∧
          (∀ record ∈ kept, ¬ rule.Recognises record.headline) ∧
          ∀ row start number, Text.IsRow log row → Warning.Start.Shortest row start →
            start.Numbered number → rule.Recognises start.message →
              (∃ warning ∈ Warning.ofLog log, warning.file = start.file ∧ warning.line = number ∧
                warning.headline = start.message) ∧
              ∀ record ∈ kept, record.toKey ≠
                ⟨sourceName workspace.settings.marker start.file, number, start.message⟩ := by
  refine ⟨fun record index => ⟨⟨recognises_of_classify, fun hshape => ?_⟩, fun hshape => ?_⟩,
    fun workspace triage htriage => ?_⟩
  · rw [classify_of_recognises_fixed hrule hshape, Query.pure_apply]
  · rw [classify_of_recognises_fixed hrule hshape, Query.pure_apply]
  · obtain ⟨documentLog, hdocuments, log, hlog, emptyBlockLog, hempty, described, hdescribed, kept,
      hkept, rfl⟩ := Workspace.triage_eq_ok_iff.1 htriage
    have haccounts := Triage.accounts_of_retain rfl hkept
    refine ⟨documentLog, log, emptyBlockLog, described, kept, hdocuments, hlog, hempty, hdescribed,
      haccounts, fun record => not_recognises_of_accounts hrule haccounts, ?_⟩
    intro row start number hrow hstart hnumber hshape
    refine ⟨Warning.exists_mem_ofLog hrow hstart hnumber (getLast?_of_recognises hrule hshape), ?_⟩
    intro record hrecord hkey
    refine not_recognises_of_accounts hrule haccounts hrecord ?_
    rw [hkey]
    exact hshape

/-- The parameters in the gap have the whole shape in them, the lines end with returns, and there is
context below. The first headline of the log lacks the colon, and it is reported. -/
theorem fixed_shapes_decide_of_shape_in_gap :
    let headline : Text := ("The following parameters of The following parameters of f(int a) " ++
      "are not documented: are not documented:").toList
    let other : Text := "The following parameters of f(int a) are not documented".toList
    let row : Text := "doxygen:/ci/src/f.hpp:7: warning: ".toList ++ headline
    let front : Text := "doxygen:/ci/src/f.hpp:9: warning: ".toList ++ other ++ ['\r', '\n']
    let log : Text := front ++ (row ++ "\r\n  parameter 'a'\r\n".toList)
    let warnings : List Warning := [⟨"/ci/src/f.hpp".toList, 9, other⟩,
      ⟨"/ci/src/f.hpp".toList, 7, headline ++ "\n  parameter 'a'".toList⟩]
    let workspace : Workspace := ⟨⟨"b".toList⟩, {}⟩
    let disk := ((((⟨fun _ => none, []⟩ : Disk).put workspace.documentLog (.file [])).put
      workspace.warningLog (.file log)).put workspace.emptyBlockLog (.file []))
    let triage := Triage.of workspace.settings.separator
      (Ledger.ofWarnings workspace.settings.marker warnings)
      [⟨⟨"src/f.hpp".toList, 9, other⟩, []⟩]
    (∀ record index, record.headline = headline →
        classify disk all record index = (.ok (some undocumentedParameters), index)) ∧
      (∀ record index, record.headline = other →
        (classify disk all record index).1 ≠ .ok (some undocumentedParameters)) ∧
      workspace.triage disk = .ok triage ∧ triage.summary = ⟨1, 2, 2, 1⟩ ∧
      ∃ kept, Triage.Accounts disk workspace.settings (workspace.index ⟨[]⟩) warnings kept triage ∧
        (∃ warning ∈ warnings, warning.line = 7 ∧ warning.headline = headline) ∧
        ∀ record ∈ kept, record.toKey ≠ ⟨"src/f.hpp".toList, 7, headline⟩ := by
  intro headline other row front log warnings workspace disk triage
  have hshape : undocumentedParameters.Recognises headline :=
    isUndocumentedParameters_iff.1 (by decide +kernel)
  have hother : ¬ undocumentedParameters.Recognises other := by
    rw [← isUndocumentedParameters_iff]
    decide +kernel
  have hdocuments : disk.readInput workspace.documentLog = .ok [] := by decide +kernel
  have hlog : disk.readInput workspace.warningLog = .ok log := by decide +kernel
  have hempty : disk.readInput workspace.emptyBlockLog = .ok [] := by decide +kernel
  have hlogged : Warning.ofLog log = warnings := by decide +kernel
  have hdescribed : Warning.ofEmptyBlockLog workspace.settings.extensions workspace.emptyBlockLog
      [] = .ok [] := by decide +kernel
  have hindex : workspace.index (workspace.documents []) = workspace.index ⟨[]⟩ := by
    decide +kernel
  -- This spares the evaluation of the sort.
  have hrecords := Ledger.records_of_pairwise
    (Ledger.ofWarnings workspace.settings.marker warnings) (by decide +kernel)
  have hsummary : triage.summary = ⟨1, 2, 2, 1⟩ := by
    simp only [triage, Triage.of, Ledger.unique, hrecords]
    decide +kernel
  have htriage : workspace.triage disk = .ok triage := by
    refine Workspace.triage_eq_ok_iff.2 ⟨[], hdocuments, log, hlog, [], hempty, [], hdescribed, ?_⟩
    rw [hlogged, List.append_nil]
    refine ⟨_, ?_, rfl⟩
    rw [hrecords]
    decide +kernel
  have hrow : Text.IsRow log row :=
    ⟨by decide +kernel, front, _, rfl, .inr (by decide +kernel), .inr (.inr ⟨_, rfl⟩)⟩
  have hcut : Warning.Start.ofLine? row = some ⟨"/ci/src/f.hpp".toList, ['7'], headline⟩ := by
    decide +kernel
  have hstart := Warning.Start.ofLine?_eq_some_iff.1 hcut
  have hnumber : Warning.Start.Numbered ⟨"/ci/src/f.hpp".toList, ['7'], headline⟩ 7 :=
    (Warning.Start.lineNumber?_eq_some_iff hstart.toSplits).1 (by decide +kernel)
  have hrule : undocumentedParameters ≠ argumentNotFound := by decide
  obtain ⟨hclassify, haccounts⟩ := fixed_shapes_decide hrule disk
  refine ⟨fun record index hrecord => (hclassify record index).2 (hrecord ▸ hshape),
    fun record index hrecord hdropped => hother ?_, htriage, hsummary, ?_⟩
  · rw [← hrecord]
    exact (hclassify record index).1.1 hdropped
  · obtain ⟨_, _, _, _, kept, hdocuments', hlog', hempty', hdescribed', hkept, -, hrows⟩ :=
      haccounts workspace triage htriage
    rw [hdocuments, Except.ok.injEq] at hdocuments'
    rw [hlog, Except.ok.injEq] at hlog'
    rw [hempty, Except.ok.injEq] at hempty'
    subst hdocuments' hlog' hempty'
    rw [hdescribed, Except.ok.injEq] at hdescribed'
    rw [hlogged, ← hdescribed', List.append_nil, hindex] at hkept
    obtain ⟨⟨warning, hwarning, -, hline, hheadline⟩, hnone⟩ :=
      hrows row _ 7 hrow hstart hnumber hshape
    rw [hlogged] at hwarning
    exact ⟨kept, hkept, ⟨warning, hwarning, hline, hheadline⟩, hnone⟩

end Rule

end DoxTriage
