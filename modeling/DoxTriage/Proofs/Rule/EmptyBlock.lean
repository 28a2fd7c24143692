import DoxTriage.Proofs.Rule.Shape
import DoxTriage.Proofs.Rule.Sifting
import DoxTriage.Proofs.Triage.Accounting
import DoxTriage.Proofs.Warning.Listing

/-!
# Empty blocks are always reported

The warning about an empty block begins with the same words as the complaint about a missing
argument, and the name in it is whatever stood in the log. Could a strange name make the one look
like the other? It could not. A name ends before the first blank, in both sentences, so two equal
sentences have equal names; and behind the name one of them goes on with a command, while the other
one goes on with the word for it.

## Main definitions

* `EmptyBlock.WellFormed`: what is true of every block that is read from a log.

## Main results

* `EmptyBlock.not_recognises`: the warning about a block has the shape of no rule.
* `Warning.emptyBlocks_always_kept`: no rule drops it, and a triage reports it.
-/

namespace DoxTriage

/-! ### What a block has -/

namespace EmptyBlock

/-- The command is one of the four, and the name is a word. -/
structure WellFormed (block : EmptyBlock) : Prop where
  command_mem : block.command ∈ ParameterCommand.all
  isSolid_name : Text.isSolid block.name = true

theorem wellFormed_of_lists {line : Text} {block : EmptyBlock} (h : Lists line block) :
    block.WellFormed := by
  obtain ⟨listing, hlongest, -, hcommand, hname⟩ := h
  constructor
  · rw [hcommand]
    exact hlongest.wellFormed.command_mem
  · rw [hname]
    exact hlongest.wellFormed.isSolid_name

theorem wellFormed_of_mem_ofLog {log : Path} {content : Text} {blocks : List EmptyBlock}
    (h : ofLog log content = .ok blocks) : ∀ block ∈ blocks, block.WellFormed := by
  intro block hblock
  obtain ⟨numbered, -, hread⟩ := exists_of_mem_mapM h hblock
  exact wellFormed_of_lists (ofLine?_eq_some_iff.1 (ofNumberedLine_eq_ok_iff.1 hread))

/-- Every warning of the log is about a block that is well-formed. -/
theorem exists_wellFormed_of_mem {extensions : List Text} {log : Path} {content : Text}
    {warnings : List Warning}
    (h : Warning.ofEmptyBlockLog extensions log content = .ok warnings) {warning : Warning}
    (hmem : warning ∈ warnings) :
    ∃ block : EmptyBlock, block.WellFormed ∧ block.warning = warning := by
  obtain ⟨blocks, hblocks, rfl⟩ := Except.map_eq_ok_iff.1 h
  obtain ⟨block, hblock, hwarning⟩ := List.mem_map.1 hmem
  exact ⟨block, wellFormed_of_mem_ofLog hblocks block (List.mem_filter.1 hblock).1, hwarning⟩

end EmptyBlock

/-! ### The headline of the warning -/

/-- A message of one line is its own headline. -/
theorem Warning.headline_of_not_mem {warning : Warning} (hline : '\n' ∉ warning.message)
    (hlast : warning.message.getLast? ≠ some '\r') : warning.headline = warning.message := by
  rw [headline, Text.pieces, Text.split_of_not_mem hline]
  exact if_neg hlast

namespace EmptyBlock

variable {block : EmptyBlock}

theorem headline_warning (h : block.WellFormed) :
    block.warning.headline = block.warning.message := by
  have hname : '\n' ∉ block.name := Text.not_mem_of_isSolid h.isSolid_name (by decide)
  have hcommand : '\n' ∉ block.command ∧ block.command.getLast? = some 'm' := by
    have hall : ∀ command ∈ ParameterCommand.all,
        '\n' ∉ command ∧ command.getLast? = some 'm' := by decide
    exact hall block.command h.command_mem
  refine Warning.headline_of_not_mem ?_ ?_
  · simp only [warning, List.mem_append, not_or]
    exact ⟨⟨⟨⟨⟨by decide, hname⟩, by decide⟩, hcommand.1⟩, by decide⟩, hcommand.1⟩
  · have hlast : block.warning.message.getLast? = some 'm' := by
      simp only [warning, List.getLast?_append, hcommand.2, Option.some_or]
    rw [hlast]
    decide

/-- Behind the name and its apostrophe, where a complaint goes on with the word *command*, the
warning goes on with a command. -/
theorem not_complains (h : block.WellFormed) (name : Text) :
    ¬ Rule.Complains block.warning.message name := by
  rintro ⟨hname, command, -, rest, hmessage⟩
  have hsplit : block.warning.message = "argument '".toList ++ (block.name ++ ['\''] ++
      (" of ".toList ++ (block.command ++
        (" has no description, either add one or remove ".toList ++ block.command)))) := by
    simp only [warning, List.append_assoc]
    rfl
  rw [hsplit, Rule.complaint_eq] at hmessage
  -- both sentences from the first blank after the name on
  have htails := congrArg (List.dropWhile (! isBlank ·)) (List.append_cancel_left hmessage)
  rw [List.dropWhile_append_of_pos (Rule.not_isBlank_of_mem_quoted h.isSolid_name),
    List.dropWhile_append_of_pos (Rule.not_isBlank_of_mem_quoted hname)] at htails
  have hfifth : (block.command ++ (" has no description, either add one or remove ".toList ++
      block.command)).head? = some 'c' := congrArg (fun tail => (tail.drop 4).head?) htails
  have hcommand : ∀ command ∈ ParameterCommand.all, command ≠ [] ∧ command.head? ≠ some 'c' := by
    decide
  obtain ⟨hne, hhead⟩ := hcommand block.command h.command_mem
  rw [List.head?_append_of_ne_nil _ hne] at hfifth
  exact hhead hfifth

/-- **The warning about an empty block has the shape of no rule.** -/
theorem not_recognises (h : block.WellFormed) (rule : Rule) :
    ¬ rule.Recognises block.warning.headline := by
  rw [headline_warning h]
  intro hshape
  have hletter : Rule.argumentNotFound.opening.head? = block.warning.message.head? := rfl
  obtain rfl := Rule.eq_of_head?_opening (hletter.trans (Rule.head?_of_recognises hshape))
  obtain ⟨name, hname⟩ := hshape
  exact not_complains h name hname

end EmptyBlock

/-! ### The record of the warning -/

namespace Warning

/-- No rule drops a record with the key of such a warning, and none looks at the index. -/
theorem classify_emptyBlock {extensions : List Text} {log : Path} {content : Text}
    {warnings : List Warning} (h : ofEmptyBlockLog extensions log content = .ok warnings)
    {warning : Warning} (hmem : warning ∈ warnings) {marker : Text} {record : Record}
    (hkey : record.toKey = warning.key marker) (disk : Disk) (rules : List Rule) :
    Rule.classify disk rules record = pure none := by
  obtain ⟨block, hblock, rfl⟩ := EmptyBlock.exists_wellFormed_of_mem h hmem
  refine Rule.classify_of_not_recognises (fun rule _ => ?_) disk
  rw [hkey]
  exact EmptyBlock.not_recognises hblock rule

/-- **Empty blocks are always reported.** No list of rules drops a record with the key of a warning
about an empty block; the verdict is reached whatever is on the disk and in the index, and leaves
the index as it is. So every triage that succeeds keeps a record for each of these warnings, and its
exit status says that something is left. -/
theorem emptyBlocks_always_kept :
    (∀ (extensions : List Text) (log : Path) (content : Text) (warnings : List Warning),
      ofEmptyBlockLog extensions log content = .ok warnings → ∀ warning ∈ warnings,
        ∀ (marker : Text) (contexts : List Text) (rules : List Rule) (disk : Disk)
          (index : SymbolIndex),
          Rule.classify disk rules ⟨warning.key marker, contexts⟩ index = (.ok none, index)) ∧
      ∀ (disk : Disk) (workspace : Workspace) (triage : Triage),
        workspace.triage disk = .ok triage →
          ∃ documentLog log emptyBlockLog described kept,
            disk.readInput workspace.documentLog = .ok documentLog ∧
            disk.readInput workspace.warningLog = .ok log ∧
            disk.readInput workspace.emptyBlockLog = .ok emptyBlockLog ∧
            ofEmptyBlockLog workspace.settings.extensions workspace.emptyBlockLog
              emptyBlockLog = .ok described ∧
            Triage.Accounts disk workspace.settings
              (workspace.index (workspace.documents documentLog)) (ofLog log ++ described) kept
              triage ∧
            (∀ warning ∈ described,
              ∃ record ∈ kept, record.toKey = warning.key workspace.settings.marker) ∧
            (described ≠ [] → triage.summary.exitStatus = 1) := by
  constructor
  · intro extensions log content warnings h warning hmem marker contexts rules disk index
    rw [classify_emptyBlock h hmem rfl, SymbolIndex.Query.pure_apply]
  · intro disk workspace triage htriage
    obtain ⟨documentLog, hdocuments, log, hlog, emptyBlockLog, hempty, described, hdescribed, kept,
      hkept, rfl⟩ := Workspace.triage_eq_ok_iff.1 htriage
    have hreported : ∀ warning ∈ described,
        ∃ record ∈ kept, record.toKey = warning.key workspace.settings.marker := by
      intro warning hwarning
      have hoccurs : warning.key workspace.settings.marker ∈
          (ofLog log ++ described).map (key workspace.settings.marker) :=
        List.mem_map_of_mem (List.mem_append_right _ hwarning)
      have hspared : Rule.spares disk (workspace.index (workspace.documents documentLog)) Rule.all
          ⟨warning.key workspace.settings.marker, []⟩ = true := by
        rw [Rule.spares, Rule.verdict, classify_emptyBlock hdescribed hwarning rfl]
        rfl
      exact List.mem_map.1 ((Rule.mem_keys_sift_iff hkept).2 ⟨hoccurs, hspared⟩)
    refine ⟨documentLog, log, emptyBlockLog, described, kept, hdocuments, hlog, hempty, hdescribed,
      Triage.accounts_of_retain rfl hkept, hreported, fun hne => ?_⟩
    obtain ⟨warning, hwarning⟩ := List.exists_mem_of_ne_nil described hne
    obtain ⟨record, hrecord, -⟩ := hreported warning hwarning
    have hleft : kept.length ≠ 0 := by
      intro hzero
      rw [List.length_eq_zero_iff.1 hzero] at hrecord
      cases hrecord
    exact if_neg hleft

/-- A name with quotes and a backslash, in a source file whose only document is missing: rules that
would read the document pass the record by, and the triage succeeds and has something left. -/
theorem emptyBlocks_always_kept_odd_name :
    let documentLog : Text := "warning:src/f.hpp\ngone.xml\n".toList
    let emptyBlockLog : Text := "\n/ci/src/f.hpp:3: * \\tparam of b'\\'  \n".toList
    let message : Text := ("argument 'b'\\'' of \\tparam has no description, " ++
      "either add one or remove \\tparam").toList
    let warning : Warning := ⟨"/ci/src/f.hpp".toList, 3, message⟩
    let workspace : Workspace := ⟨⟨"b".toList⟩, {}⟩
    let disk := (((⟨fun _ => none, []⟩ : Disk).put workspace.documentLog (.file documentLog)).put
      workspace.warningLog (.file [])).put workspace.emptyBlockLog (.file emptyBlockLog)
    let index := workspace.index (workspace.documents documentLog)
    let rules : List Rule := [.argumentNotFound, .groupConflict, .argumentNotFound]
    let triage := Triage.of workspace.settings.separator
      (Ledger.ofWarnings workspace.settings.marker [warning])
      [⟨⟨"src/f.hpp".toList, 3, message⟩, []⟩]
    ofEmptyBlockLog workspace.settings.extensions workspace.emptyBlockLog emptyBlockLog =
        .ok [warning] ∧
      (index.load disk "src/f.hpp".toList).isOk = false ∧
      Rule.classify disk rules ⟨warning.key workspace.settings.marker, ["x".toList]⟩ index =
        (.ok none, index) ∧
      workspace.triage disk = .ok triage ∧ triage.summary.exitStatus = 1 := by
  intro documentLog emptyBlockLog message warning workspace disk index rules triage
  have hempty : disk.readInput workspace.emptyBlockLog = .ok emptyBlockLog := by decide +kernel
  have hdescribed : ofEmptyBlockLog workspace.settings.extensions workspace.emptyBlockLog
      emptyBlockLog = .ok [warning] := by decide +kernel
  have htriage : workspace.triage disk = .ok triage :=
    Workspace.triage_eq_ok_iff.2 ⟨documentLog, by decide +kernel, [], by decide +kernel,
      emptyBlockLog, hempty, [warning], hdescribed, _, by decide +kernel, rfl⟩
  obtain ⟨hclassify, hreported⟩ := emptyBlocks_always_kept
  obtain ⟨_, _, _, described, _, -, -, hempty', hdescribed', -, -, hstatus⟩ :=
    hreported disk workspace triage htriage
  rw [hempty, Except.ok.injEq] at hempty'
  subst hempty'
  rw [hdescribed, Except.ok.injEq] at hdescribed'
  subst hdescribed'
  exact ⟨hdescribed, by decide +kernel,
    hclassify _ _ _ _ hdescribed warning (List.mem_singleton.2 rfl) _ _ rules disk index, htriage,
    hstatus (List.cons_ne_nil _ _)⟩

end Warning

end DoxTriage
