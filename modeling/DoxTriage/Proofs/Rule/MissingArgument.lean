import DoxTriage.Proofs.SymbolIndex.History
import DoxTriage.Proofs.Text.Span
import DoxTriage.Proofs.Text.Word
import DoxTriage.Triage
import Mathlib.Data.List.TakeWhile

/-!
# The complaint about a missing argument

The fifth rule reads a name out of a headline and asks the index. Its function on headlines takes a
word and drops its last apostrophe; the shape that this recognises is a text with a hole, and the
hole is filled by one name at most, since the name ends before a blank.

A user who wonders why a complaint has been dropped asks for the candidates of a line, with the path
as it stands in the log. That question is put to a new index, and the rule puts it to one that has
answered other questions before, with the name of the source file in place of the path. Both come
to one answer, because an index that has been asked on an unchanged disk is faithful.

## Main definitions

* `Rule.Complains`: the shape of a headline, with the name in it.

## Main results

* `Rule.missingArgument?_eq_some_iff`: the function on headlines recognises the shape.
* `Rule.argumentNotFound_explained`: the rule drops a record because of a candidate that a user
  can ask for.
-/

namespace DoxTriage

namespace Rule

/-! ### The shape of the headline -/

/-- The headline complains that a name is not in an argument list: a name without blanks stands in
one of the four sentences, and anything may follow. -/
def Complains (headline name : Text) : Prop :=
  Text.isSolid name = true ∧ ∃ command ∈ ParameterCommand.all, ∃ rest : Text,
    headline = "argument '".toList ++ name ++ "' of command ".toList ++ command ++
      " is not found in the argument list of ".toList ++ rest

/-- The sentence as it is taken apart: up to the first blank after the name stands the name with an
apostrophe, and from there on the rest of the complaint. -/
theorem complaint_eq (name command rest : Text) :
    "argument '".toList ++ name ++ "' of command ".toList ++ command ++
        " is not found in the argument list of ".toList ++ rest =
      "argument '".toList ++ (name ++ ['\''] ++ (" of command ".toList ++ command ++
        " is not found in the argument list of ".toList ++ rest)) := by
  simp only [List.append_assoc]
  rfl

/-- A name with the apostrophe after it is still a word. -/
theorem not_isBlank_of_mem_quoted {name : Text} (h : Text.isSolid name = true) :
    ∀ c ∈ name ++ ['\''], (! isBlank c) = true := by
  intro c hc
  rcases List.mem_append.1 hc with hc | hc
  · rw [(Text.isSolid_iff.1 h).2 c hc]
    rfl
  · rw [List.mem_singleton.1 hc]
    decide

theorem complains_of_missingArgument? {headline name : Text}
    (h : missingArgument? headline = some name) : Complains headline name := by
  rw [missingArgument?] at h
  split at h
  · cases h
  · next s hs =>
    dsimp only at h
    split at h
    · next hword =>
      cases h
      obtain ⟨hlast, hne, hcomplaint⟩ := hword
      obtain ⟨complaint, hmem, htail⟩ := List.any_eq_true.1 hcomplaint
      obtain ⟨command, hcommand, rfl⟩ := List.mem_map.1 hmem
      obtain ⟨rest, hrest⟩ := List.isPrefixOf_iff_prefix.1 htail
      refine ⟨Text.isSolid_iff.2 ⟨hne, fun c hc => ?_⟩, command, hcommand, rest, ?_⟩
      · have hnot := List.mem_takeWhile_imp ((List.dropLast_sublist _).subset hc)
        simpa using hnot
      · rw [complaint_eq, hrest, List.dropLast_append_getLast? _ hlast,
          List.takeWhile_append_dropWhile, List.append_eq_of_isPrefixOf?_eq_some hs]
    · cases h

theorem missingArgument?_of_complains {headline name : Text} (h : Complains headline name) :
    missingArgument? headline = some name := by
  obtain ⟨hsolid, command, hcommand, rest, rfl⟩ := h
  have hne : name ≠ [] := (Text.isSolid_iff.1 hsolid).1
  have hword := not_isBlank_of_mem_quoted hsolid
  -- the rest of the complaint begins with a blank, which ends the word before it
  obtain ⟨tail, htail⟩ : ∃ tail, " of command ".toList ++ command ++
      " is not found in the argument list of ".toList ++ rest = ' ' :: tail := ⟨_, rfl⟩
  have hblank : (! isBlank ' ') = false := by decide
  have hcomplaint : complaints.any (·.isPrefixOf (' ' :: tail)) = true :=
    List.any_eq_true.2 ⟨_, List.mem_map.2 ⟨command, hcommand, rfl⟩,
      List.isPrefixOf_iff_prefix.2 ⟨rest, htail⟩⟩
  rw [complaint_eq, htail, missingArgument?, List.isPrefixOf?_eq_some_iff_append_eq.2 rfl]
  simp only [Text.takeWhile_span hword hblank, Text.dropWhile_span hword hblank]
  rw [if_pos ⟨List.getLast?_concat, by rwa [List.dropLast_concat], hcomplaint⟩,
    List.dropLast_concat]

/-- The function on headlines recognises the shape, and finds the name in it. -/
theorem missingArgument?_eq_some_iff {headline name : Text} :
    missingArgument? headline = some name ↔ Complains headline name :=
  ⟨complains_of_missingArgument?, missingArgument?_of_complains⟩

theorem missingArgument?_eq_none_iff {headline : Text} :
    missingArgument? headline = none ↔ ¬ ∃ name, Complains headline name := by
  simp only [← missingArgument?_eq_some_iff, ← Option.isSome_iff_exists, Bool.not_eq_true,
    Option.isSome_eq_false_iff, Option.isNone_iff_eq_none]

theorem confirms_iff {name : Text} {candidates : List Declaration} :
    confirms name candidates = true ↔
      ∃ declaration ∈ candidates, ParameterList.declares declaration.parameters name = true := by
  rw [confirms, List.any_eq_true]

/-! ### What the rule does -/

theorem suppresses_argumentNotFound_of_complains {record : Record} {name : Text}
    (h : Complains record.headline name) (disk : Disk) :
    argumentNotFound.suppresses disk record =
      confirms name <$> SymbolIndex.nearest disk record.file record.line := by
  rw [suppresses, missingArgument?_eq_some_iff.2 h]

theorem suppresses_argumentNotFound_of_not_complains {record : Record}
    (h : ¬ ∃ name, Complains record.headline name) (disk : Disk) :
    argumentNotFound.suppresses disk record = pure false := by
  rw [suppresses, missingArgument?_eq_none_iff.2 h]

end Rule

/-- Asking for the candidates of a line puts the question to a new index. -/
theorem Workspace.nearest_of_readInput {disk : Disk} {workspace : Workspace} {log : Text}
    (h : disk.readInput workspace.documentLog = .ok log) (path : Text) (line : Nat) :
    workspace.nearest disk path line =
      (SymbolIndex.nearest disk (sourceName workspace.settings.marker path) line
        (workspace.index (workspace.documents log))).1 := by
  rw [Workspace.nearest, Workspace.readDocuments, h]
  rfl

namespace Rule

/-- An index that has been asked on the disk answers the rule as a new one answers the user. -/
theorem fst_suppresses_argumentNotFound {disk : Disk} {workspace : Workspace} {log path name : Text}
    (hlog : disk.readInput workspace.documentLog = .ok log) {line : Nat} {record : Record}
    (hname : Complains record.headline name)
    (hfile : record.file = sourceName workspace.settings.marker path) (hline : record.line = line)
    {index : SymbolIndex}
    (hindex : SymbolIndex.Faithful disk (workspace.index (workspace.documents log)) index) :
    (argumentNotFound.suppresses disk record index).1 =
      (workspace.nearest disk path line).map (confirms name) := by
  let origin := workspace.index (workspace.documents log)
  have hnew : SymbolIndex.Faithful disk origin origin := .of_new disk rfl
  rw [suppresses_argumentNotFound_of_complains hname, SymbolIndex.Query.map_apply, hfile, hline,
    Workspace.nearest_of_readInput hlog, (SymbolIndex.settled_nearest disk _ _ _ index hindex).1,
    (SymbolIndex.settled_nearest disk _ _ _ _ hnew).1]

/-- **The fifth rule, explained.** On an unchanged disk, whatever questions an index has answered
before, the rule drops a record with the name of a source file if and only if the headline complains
about a name and one of the candidates that a user gets for any path to the file declares the name.
If the headline complains about a name, then the rule fails exactly as the user's question fails.
If it does not, then the rule drops nothing and reads nothing: the disk may be any other one. -/
theorem argumentNotFound_explained {disk : Disk} {workspace : Workspace} {log : Text}
    (hlog : disk.readInput workspace.documentLog = .ok log) (path : Text) (line : Nat)
    (headline : Text) (contexts : List Text) (earlier : List SymbolIndex.Question) :
    let start : SymbolIndex.World := ⟨disk, workspace.index (workspace.documents log)⟩
    let index := (start.run (earlier.map .ask)).index
    let record : Record := ⟨⟨sourceName workspace.settings.marker path, line, headline⟩, contexts⟩
    ((argumentNotFound.suppresses disk record index).1 = .ok true ↔
        ∃ name candidates, Complains headline name ∧
          workspace.nearest disk path line = .ok candidates ∧
          ∃ declaration ∈ candidates, ParameterList.declares declaration.parameters name = true) ∧
      (∀ name, Complains headline name → ∀ failure,
        (argumentNotFound.suppresses disk record index).1 = .error failure ↔
          workspace.nearest disk path line = .error failure) ∧
      ((¬ ∃ name, Complains headline name) → ∀ other : Disk,
        argumentNotFound.suppresses other record index = (.ok false, index)) := by
  intro start index record
  have hindex : SymbolIndex.Faithful disk start.index index :=
    SymbolIndex.Faithful.run_ask (.of_new disk rfl) earlier
  have hanswer : ∀ name, Complains headline name →
      (argumentNotFound.suppresses disk record index).1 =
        (workspace.nearest disk path line).map (confirms name) :=
    fun name hname => fst_suppresses_argumentNotFound hlog hname rfl rfl hindex
  have hsilent : (¬ ∃ name, Complains headline name) → ∀ other : Disk,
      argumentNotFound.suppresses other record index = (.ok false, index) := by
    intro hnone other
    rw [suppresses_argumentNotFound_of_not_complains hnone, SymbolIndex.Query.pure_apply]
  refine ⟨?_, ?_, hsilent⟩
  · constructor
    · intro htrue
      by_cases hsome : ∃ name, Complains headline name
      · obtain ⟨name, hname⟩ := hsome
        rw [hanswer name hname] at htrue
        cases hnearest : workspace.nearest disk path line with
        | error failure =>
          rw [hnearest] at htrue
          cases htrue
        | ok candidates =>
          rw [hnearest] at htrue
          exact ⟨name, candidates, hname, rfl, confirms_iff.1 (Except.ok.inj htrue)⟩
      · rw [hsilent hsome disk] at htrue
        cases htrue
    · rintro ⟨name, candidates, hname, hnearest, hdeclares⟩
      rw [hanswer name hname, hnearest]
      exact congrArg Except.ok (confirms_iff.2 hdeclares)
  · intro name hname failure
    rw [hanswer name hname]
    cases workspace.nearest disk path line <;> simp [Except.map]

/-- A complaint about a path in another checkout than the one in the log of documents, for an index
that has answered two questions before: the rule drops it. -/
theorem argumentNotFound_explained_elsewhere :
    let log : Text := "warning:/ci/src/f.hpp\nd.xml\n".toList
    let text : Text := ("<memberdef><argsstring>(int a)</argsstring>" ++
      "<location file='/ci/src/f.hpp' line='8'/></memberdef>").toList
    let disk := ((⟨fun _ => none, []⟩ : Disk).put ⟨"b/doc/doxygen/class_methods.log".toList⟩
      (.file log)).put ⟨"b/d.xml".toList⟩ (.file text)
    let workspace : Workspace := ⟨⟨"b".toList⟩, {}⟩
    let headline := ("argument 'a' of command @param is not found in the argument list of " ++
      "f(int a)").toList
    let record : Record := ⟨⟨"src/f.hpp".toList, 5, headline⟩, []⟩
    let start : SymbolIndex.World := ⟨disk, workspace.index (workspace.documents log)⟩
    let earlier : List SymbolIndex.Question :=
      [.nearest "src/f.hpp".toList 9, .declarations "src/g.hpp".toList]
    disk.readInput workspace.documentLog = .ok log ∧
      (argumentNotFound.suppresses disk record (start.run (earlier.map .ask)).index).1 =
        .ok true := by
  intro log text disk workspace headline record start earlier
  have hlog : disk.readInput workspace.documentLog = .ok log := by decide +kernel
  have hnearest : workspace.nearest disk "/home/src/f.hpp".toList 5 =
      .ok [⟨8, "(int a)".toList⟩] := by decide +kernel
  refine ⟨hlog, (argumentNotFound_explained hlog "/home/src/f.hpp".toList 5 headline [] earlier).1.2
    ⟨"a".toList, _, ?_, hnearest, ⟨8, "(int a)".toList⟩, List.mem_singleton.2 rfl, ?_⟩⟩
  · exact complains_of_missingArgument? (by decide +kernel)
  · decide +kernel

end Rule

end DoxTriage
