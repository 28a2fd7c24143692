import DoxTriage.Proofs.Rule.Retain
import DoxTriage.Proofs.SourceName
import DoxTriage.Proofs.SymbolIndex.Respelling
import DoxTriage.Triage

/-!
# Moving a project changes nothing

A project is checked out in different directories, and then every path to its source files is
another one, while their names stay. The paths occur in four inputs: in the warnings, in the log of
documents, in the documents, and in what a caller asks about. Each of them is turned into a name on
its own, by four readers that know nothing of each other; and names are compared later, in the index
and by the rules. If the paths are replaced by other ones with the same names, in each input or only
in some of them, then all that comes of the inputs stays the same.

A failure stays the same, too, but for the places of a fault in the text of a document, which move
when a path before it is longer.

## Main definitions

* `Warning.Respelled`, `ClassDocuments.LineRespelled`: other paths in warnings and in the log.
* `Workspace.Respelled`: two sets of inputs that differ in nothing but paths to the same files.
* `Workspace.Unmoved`: all that comes of two sets of inputs is the same.

## Main results

* `Workspace.unmoved_of_respelled`: moving a project changes nothing.
-/

namespace DoxTriage

variable {marker : Text}

/-! ### Warnings -/

/-- Two warnings with the same line and message, and with paths to the same source file. -/
structure Warning.Respelled (marker : Text) (warning other : Warning) : Prop where
  file_eq : sourceName marker warning.file = sourceName marker other.file
  line_eq : warning.line = other.line
  message_eq : warning.message = other.message

theorem Record.ofWarning_respelled {warning other : Warning} (h : warning.Respelled marker other) :
    ofWarning marker warning = ofWarning marker other := by
  have hheadline : warning.headline = other.headline := by
    rw [Warning.headline, Warning.headline, h.message_eq]
  have hcontext : warning.context = other.context := by
    rw [Warning.context, Warning.context, h.message_eq]
  rw [ofWarning, ofWarning, Warning.key, Warning.key, h.file_eq, h.line_eq, hheadline, hcontext]

theorem Ledger.ofWarnings_respelled {warnings others : List Warning}
    (h : List.Forall₂ (Warning.Respelled marker) warnings others) :
    ofWarnings marker warnings = ofWarnings marker others := by
  have hrecords :
      warnings.map (Record.ofWarning marker) = others.map (Record.ofWarning marker) := by
    induction h with
    | nil => rfl
    | cons hwarning _ ih =>
      rw [List.map_cons, List.map_cons, Record.ofWarning_respelled hwarning, ih]
  have hledger : ∀ warnings, ofWarnings marker warnings =
      ⟨(warnings.map (Record.ofWarning marker)).reverse ++ []⟩ :=
    fun warnings => congrArg Ledger.mk (occurrences_addAll marker {} warnings)
  rw [hledger, hledger, hrecords]

/-! ### The log of documents -/

namespace ClassDocuments

/-- Two lines of the log are one, or both begin a block of the same source file. -/
inductive LineRespelled (marker : Text) : Text → Text → Prop
  | same (line : Text) : LineRespelled marker line line
  | file {path other : Text}
    (h : sourceName marker (Text.trim path) = sourceName marker (Text.trim other)) :
    LineRespelled marker (mark ++ path) (mark ++ other)

/-- Two logs whose lines are the same but for paths to the same source files. -/
def LogRespelled (marker content other : Text) : Prop :=
  List.Forall₂ (LineRespelled marker) (Text.lines content) (Text.lines other)

theorem consLine_respelled {line other : Text} (h : LineRespelled marker line other)
    (buildDirectory : Path) :
    consLine marker buildDirectory line = consLine marker buildDirectory other := by
  cases h with
  | same line => rfl
  | file h =>
    funext log
    rw [consLine, consLine, List.isPrefixOf?_eq_some_iff_append_eq.2 rfl,
      List.isPrefixOf?_eq_some_iff_append_eq.2 rfl]
    dsimp only
    rw [h]

theorem foldr_consLine_respelled {lines others : List Text}
    (h : List.Forall₂ (LineRespelled marker) lines others) (buildDirectory : Path)
    (log : List Path × List DocumentBlock) :
    lines.foldr (consLine marker buildDirectory) log =
      others.foldr (consLine marker buildDirectory) log := by
  induction h with
  | nil => rfl
  | cons hline _ ih =>
    rw [List.foldr_cons, List.foldr_cons, consLine_respelled hline buildDirectory, ih]

/-- Logs with other paths have the same blocks. -/
theorem ofLog_respelled {content other : Text} (h : LogRespelled marker content other)
    (buildDirectory : Path) :
    ofLog marker buildDirectory content = ofLog marker buildDirectory other := by
  rw [ofLog, ofLog, foldr_consLine_respelled h]

end ClassDocuments

/-! ### The rules -/

namespace Rule

open SymbolIndex (Query)

variable {disk other : Disk} {documents : ClassDocuments}

theorem suppresses_agree (h : Disk.SameDocuments marker disk other documents)
    (rule : Rule) (record : Record) :
    Query.Agree documents marker (rule.suppresses disk record) (rule.suppresses other record) := by
  cases rule with
  | argumentNotFound =>
    rw [suppresses, suppresses]
    cases missingArgument? record.headline with
    | none => exact .pure false
    | some name => exact (SymbolIndex.nearest_agree h record.file record.line).map (confirms name)
  | groupConflict | undeclaredSymbol | noUniqueMember | undocumentedParameters => exact .pure _

theorem classify_agree (h : Disk.SameDocuments marker disk other documents)
    (rules : List Rule) (record : Record) :
    Query.Agree documents marker (classify disk rules record) (classify other rules record) := by
  induction rules with
  | nil => exact .pure none
  | cons rule rules ih =>
    rw [classify_cons, classify_cons]
    refine (suppresses_agree h rule record).bind fun drops => ?_
    cases drops with
    | true => exact .pure (some rule)
    | false => exact ih

theorem retain_agree (h : Disk.SameDocuments marker disk other documents)
    (rules : List Rule) (records : List Record) :
    Query.Agree documents marker (retain disk rules records) (retain other rules records) := by
  induction records with
  | nil => exact .pure []
  | cons record records ih =>
    rw [retain_cons, retain_cons]
    exact (classify_agree h rules record).bind fun verdict => ih.map _

end Rule

/-! ### Whole workspaces -/

namespace Workspace

/-- Two disks, and the warnings of two sets of logs, that are the same to a workspace but for paths
to the same source files. The paths may be others in the warnings, in the log of documents, in the
documents that it lists, or in some of these only. -/
structure Respelled (workspace : Workspace) (disk other : Disk) (warnings others : List Warning) :
    Prop where
  warnings : List.Forall₂ (Warning.Respelled workspace.settings.marker) warnings others
  documentLog : Except.Agree (· = ·) (ClassDocuments.LogRespelled workspace.settings.marker)
    (disk.readInput workspace.documentLog) (other.readInput workspace.documentLog)
  documents : ∀ content, disk.readInput workspace.documentLog = .ok content →
    Disk.SameDocuments workspace.settings.marker disk other (workspace.documents content)

/-- The logs of a workspace can be read, and these are their warnings. -/
def Warns (workspace : Workspace) (disk : Disk) (warnings : List Warning) : Prop :=
  ∃ log emptyBlockLog, disk.readInput workspace.warningLog = .ok log ∧
    disk.readInput workspace.emptyBlockLog = .ok emptyBlockLog ∧
    workspace.warnings log emptyBlockLog = .ok warnings

/-- All that comes of two sets of inputs is the same. -/
structure Unmoved (workspace : Workspace) (disk other : Disk) (warnings others : List Warning) :
    Prop where
  records_eq : (Ledger.ofWarnings workspace.settings.marker warnings).records =
    (Ledger.ofWarnings workspace.settings.marker others).records
  total_eq : (Ledger.ofWarnings workspace.settings.marker warnings).total =
    (Ledger.ofWarnings workspace.settings.marker others).total
  unique_eq : (Ledger.ofWarnings workspace.settings.marker warnings).unique =
    (Ledger.ofWarnings workspace.settings.marker others).unique
  /-- Every source file has the same documents. -/
  documentsOf_agree : Except.Agree Failure.Alike
    (fun table later : ClassDocuments => ∀ file, table.documentsOf file = later.documentsOf file)
    (workspace.readDocuments disk) (workspace.readDocuments other)
  /-- The documents that are listed have the same declarations. -/
  readDocument_agree : ∀ content, disk.readInput workspace.documentLog = .ok content →
    ∀ document ∈ (workspace.documents content).blocks.flatMap DocumentBlock.documents, ∀ file,
      SameResult (SymbolIndex.readDocument disk workspace.settings.marker file document)
        (SymbolIndex.readDocument other workspace.settings.marker file document)
  /-- A caller may name the source file by either path. -/
  nearest_agree : ∀ path named line,
    sourceName workspace.settings.marker path = sourceName workspace.settings.marker named →
      SameResult (workspace.nearest disk path line) (workspace.nearest other named line)
  /-- The rules decide the same, whatever is known already, and know the same afterwards. -/
  classify_agree : ∀ content, disk.readInput workspace.documentLog = .ok content →
    ∀ index : SymbolIndex, index.documents = workspace.documents content →
      index.marker = workspace.settings.marker → ∀ rules record,
        SameResult (Rule.classify disk rules record index).1
            (Rule.classify other rules record index).1 ∧
          (Rule.classify disk rules record index).2 = (Rule.classify other rules record index).2
  /-- The same is left of the records. -/
  retain_agree : ∀ rules, SameResult
    (workspace.readDocuments disk >>= fun table => (Rule.retain disk rules
      (Ledger.ofWarnings workspace.settings.marker warnings).records (workspace.index table)).1)
    (workspace.readDocuments other >>= fun table => (Rule.retain other rules
      (Ledger.ofWarnings workspace.settings.marker others).records (workspace.index table)).1)
  /-- If these are the warnings of the logs, then the same is reported. -/
  triage_agree : workspace.Warns disk warnings → workspace.Warns other others →
    SameResult (workspace.triage disk) (workspace.triage other)

variable {workspace : Workspace} {disk other : Disk} {warnings others : List Warning}

/-- The two tables are one, and its documents are the same on both disks. -/
theorem Respelled.sameDocuments (h : workspace.Respelled disk other warnings others) :
    Except.Agree Failure.Alike
      (fun table later => table = later ∧
        Disk.SameDocuments workspace.settings.marker disk other table)
      (workspace.readDocuments disk) (workspace.readDocuments other) := by
  have hlog := h.documentLog
  have hdocuments := h.documents
  rw [readDocuments, readDocuments]
  generalize disk.readInput workspace.documentLog = log,
    other.readInput workspace.documentLog = later at hlog hdocuments ⊢
  cases hlog with
  | ok hlines =>
    exact .ok ⟨ClassDocuments.ofLog_respelled hlines workspace.directory, hdocuments _ rfl⟩
  | error heq => exact .error (congrArg Failure.withoutPlaces heq)

/-- A question to a new index has the same answer on both disks. -/
theorem Respelled.ask_agree (h : workspace.Respelled disk other warnings others) {α : Type}
    {query later : SymbolIndex.Query α}
    (hquery : ∀ table : ClassDocuments,
      Disk.SameDocuments workspace.settings.marker disk other table →
        SymbolIndex.Query.Agree table workspace.settings.marker query later) :
    SameResult (workspace.readDocuments disk >>= fun table => (query (workspace.index table)).1)
      (workspace.readDocuments other >>= fun table => (later (workspace.index table)).1) := by
  refine h.sameDocuments.bind ?_
  rintro table _ ⟨rfl, hdocuments⟩
  exact (hquery table hdocuments _ rfl rfl).1

/-- The names in a report can be asked about like the paths that they are taken from. -/
theorem nearest_sourceName (workspace : Workspace) (disk : Disk) (path : Text) (line : Nat) :
    workspace.nearest disk (sourceName workspace.settings.marker path) line =
      workspace.nearest disk path line := by
  rw [nearest, nearest, sourceName_sourceName]

/-- When the warnings are known, what is left of a triage is to retain records and to report
them. -/
theorem triage_of_warns (h : workspace.Warns disk warnings) :
    workspace.triage disk =
      (workspace.readDocuments disk >>= fun table => (Rule.retain disk Rule.all
        (Ledger.ofWarnings workspace.settings.marker warnings).records
        (workspace.index table)).1).map
          (Triage.of workspace.settings.separator
            (Ledger.ofWarnings workspace.settings.marker warnings)) := by
  obtain ⟨log, emptyBlockLog, hlog, hempty, hwarnings⟩ := h
  have hok : ∀ {α β : Type} (a : α) (next : α → Except Failure β), (.ok a >>= next) = next a :=
    fun _ _ => rfl
  rw [triage]
  cases workspace.readDocuments disk with
  | error failure => rfl
  | ok table =>
    simp only [hlog, hempty, hwarnings, hok]
    cases (Rule.retain disk Rule.all (Ledger.ofWarnings workspace.settings.marker warnings).records
      (workspace.index table)).1 <;> rfl

/-- **Moving a project changes nothing.** If the paths in some of the inputs are replaced by other
paths to the same source files, then the records and their numbers, the documents of a source file,
the declarations in them, the answer to a caller, and every decision of a rule are the same, and so
is what is left and reported; or the same is wrong with the inputs. Failures are compared but for
the place in the text of a document where its fault is (`Failure.Alike`), since a longer path moves
what stands behind it. -/
theorem unmoved_of_respelled (h : workspace.Respelled disk other warnings others) :
    workspace.Unmoved disk other warnings others := by
  have hledger := Ledger.ofWarnings_respelled h.warnings
  refine
    { records_eq := by rw [hledger]
      total_eq := by rw [hledger]
      unique_eq := by rw [hledger]
      documentsOf_agree := ?_
      readDocument_agree := fun content hcontent document hdocument file =>
        SymbolIndex.readDocument_agree (h.documents content hcontent document hdocument) file
      nearest_agree := ?_
      classify_agree := ?_
      retain_agree := ?_
      triage_agree := ?_ }
  · refine h.sameDocuments.mono (fun _ _ => id) ?_
    rintro table _ ⟨rfl, -⟩ file
    rfl
  · intro path named line hname
    rw [nearest, nearest, hname]
    exact h.ask_agree fun table hdocuments => SymbolIndex.nearest_agree hdocuments _ line
  · intro content hcontent index hdocuments hmarker rules record
    obtain ⟨hresult, hindex, -, -⟩ :=
      Rule.classify_agree (h.documents content hcontent) rules record index hdocuments hmarker
    exact ⟨hresult, hindex⟩
  · intro rules
    rw [hledger]
    exact h.ask_agree fun table hdocuments => Rule.retain_agree hdocuments rules _
  · intro hwarnings hothers
    rw [triage_of_warns hwarnings, triage_of_warns hothers, hledger]
    exact (h.ask_agree fun table hdocuments => Rule.retain_agree hdocuments Rule.all _).map
      fun kept later hkept => by rw [hkept]

/-- Two checkouts, the second one below a directory that also contains the marker, with a blank in
the log and an entity in the document. A caller who names the file by a third path gets the same
declaration. -/
theorem unmoved_of_respelled_two_checkouts :
    let complaint : Text :=
      "argument 'a' of command @param is not found in the argument list of f(int a)".toList
    let place (path : Text) : Text := "location file='".toList ++ path ++ "' line='8'/".toList
    let document (path : Text) : Text :=
      '<' :: ("memberdef".toList ++ '>' :: '<' :: (place path ++ '>' ::
        "<argsstring>(int a)</argsstring></memberdef>".toList))
    let workspace : Workspace := ⟨⟨"b".toList⟩, {}⟩
    let disk := ((⟨fun _ => none, []⟩ : Disk).put workspace.documentLog
      (.file "warning:/ci/src/f.hpp\nd.xml\n".toList)).put ⟨"b/d.xml".toList⟩
        (.file (document "/ci/src/f.hpp".toList))
    let other := ((⟨fun _ => none, []⟩ : Disk).put workspace.documentLog
      (.file "warning: /src/x/src/f.hpp\nd.xml\n".toList)).put ⟨"b/d.xml".toList⟩
        (.file (document "/src/a&amp;b/src/f.hpp".toList))
    let found : List Declaration := [⟨8, "(int a)".toList⟩]
    workspace.Respelled disk other [⟨"/ci/src/f.hpp".toList, 5, complaint⟩]
        [⟨"/src/x/src/f.hpp".toList, 5, complaint⟩] ∧
      workspace.nearest disk "/ci/src/f.hpp".toList 5 = .ok found ∧
      workspace.nearest other "/tmp/src/f.hpp".toList 5 = .ok found := by
  intro complaint place document workspace disk other found
  have hlog : disk.readInput workspace.documentLog =
      .ok "warning:/ci/src/f.hpp\nd.xml\n".toList := by decide +kernel
  have hlog' : other.readInput workspace.documentLog =
      .ok "warning: /src/x/src/f.hpp\nd.xml\n".toList := by decide +kernel
  have hlines : ClassDocuments.LogRespelled workspace.settings.marker
      "warning:/ci/src/f.hpp\nd.xml\n".toList "warning: /src/x/src/f.hpp\nd.xml\n".toList := by
    have hleft : Text.lines "warning:/ci/src/f.hpp\nd.xml\n".toList =
        [ClassDocuments.mark ++ "/ci/src/f.hpp".toList, "d.xml".toList] := by decide +kernel
    have hright : Text.lines "warning: /src/x/src/f.hpp\nd.xml\n".toList =
        [ClassDocuments.mark ++ " /src/x/src/f.hpp".toList, "d.xml".toList] := by decide +kernel
    rw [ClassDocuments.LogRespelled, hleft, hright]
    exact .cons (.file (by decide +kernel)) (.cons (.same _) .nil)
  have htag : Xml.Tag.Respelled workspace.settings.marker
      ⟨"location file='/ci/src/f.hpp' line='8'".toList⟩
      ⟨"location file='/src/a&amp;b/src/f.hpp' line='8'".toList⟩ := by
    have hleft : Xml.Tag.attributes ⟨"location file='/ci/src/f.hpp' line='8'".toList⟩ =
        ([⟨"file".toList, "/ci/src/f.hpp".toList⟩, ⟨"line".toList, "8".toList⟩], none) := by
      decide +kernel
    have hright : Xml.Tag.attributes ⟨"location file='/src/a&amp;b/src/f.hpp' line='8'".toList⟩ =
        ([⟨"file".toList, "/src/a&amp;b/src/f.hpp".toList⟩, ⟨"line".toList, "8".toList⟩],
          none) := by
      decide +kernel
    refine ⟨by decide +kernel, by decide +kernel, ?_, by rw [hleft, hright]⟩
    rw [hleft, hright]
    have hpath : Xml.unescape "/ci/src/f.hpp".toList = .ok "/ci/src/f.hpp".toList := by
      decide +kernel
    have hnamed : Xml.unescape "/src/a&amp;b/src/f.hpp".toList =
        .ok "/src/a&b/src/f.hpp".toList := by
      decide +kernel
    exact .cons (.file hpath hnamed (by decide +kernel)) (.cons (.same _) .nil)
  have hdocument : Xml.Respelled workspace.settings.marker (document "/ci/src/f.hpp".toList)
      (document "/src/a&amp;b/src/f.hpp".toList) := by
    have hmember : Xml.Reads "memberdef".toList (.opening ⟨"memberdef".toList⟩) :=
      Xml.reads_iff.2 ⟨11, by decide +kernel⟩
    have hplace : Xml.Reads (place "/ci/src/f.hpp".toList)
        (.empty ⟨"location file='/ci/src/f.hpp' line='8'".toList⟩) :=
      Xml.reads_iff.2 ⟨41, by decide +kernel⟩
    have hplace' : Xml.Reads (place "/src/a&amp;b/src/f.hpp".toList)
        (.empty ⟨"location file='/src/a&amp;b/src/f.hpp' line='8'".toList⟩) :=
      Xml.reads_iff.2 ⟨50, by decide +kernel⟩
    have hnil : '<' ∉ ([] : Text) := List.not_mem_nil
    exact .markup hnil hmember hmember (.same _)
      (.markup hnil hplace hplace' (.empty htag) (.same _))
  have hrespelled : workspace.Respelled disk other [⟨"/ci/src/f.hpp".toList, 5, complaint⟩]
      [⟨"/src/x/src/f.hpp".toList, 5, complaint⟩] := by
    refine ⟨.cons ⟨by decide +kernel, rfl, rfl⟩ .nil, ?_, ?_⟩
    · rw [hlog, hlog']
      exact .ok hlines
    · intro content hcontent listed hlisted
      rw [hlog, Except.ok.injEq] at hcontent
      subst hcontent
      have hone : (workspace.documents "warning:/ci/src/f.hpp\nd.xml\n".toList).blocks.flatMap
          DocumentBlock.documents = [⟨"b/d.xml".toList⟩] := by decide +kernel
      rw [hone, List.mem_singleton] at hlisted
      have hread : disk.readInput listed = .ok (document "/ci/src/f.hpp".toList) := by
        rw [hlisted]
        decide +kernel
      have hread' : other.readInput listed = .ok (document "/src/a&amp;b/src/f.hpp".toList) := by
        rw [hlisted]
        decide +kernel
      rw [Disk.SameDocument, hread, hread']
      exact .ok hdocument
  have hnearest : workspace.nearest disk "/ci/src/f.hpp".toList 5 = .ok found := by decide +kernel
  refine ⟨hrespelled, hnearest, ?_⟩
  have hagree := (unmoved_of_respelled hrespelled).nearest_agree "/ci/src/f.hpp".toList
    "/tmp/src/f.hpp".toList 5 (by decide +kernel)
  rw [hnearest] at hagree
  exact hagree.eq_ok

end Workspace

end DoxTriage
