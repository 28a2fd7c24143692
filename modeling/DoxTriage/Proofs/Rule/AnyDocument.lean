import DoxTriage.Proofs.ClassDocuments.Rearranged
import DoxTriage.Proofs.Disk.Spelling
import DoxTriage.Proofs.Rule.MissingArgument
import DoxTriage.Proofs.SymbolIndex.Nearest

/-!
# Any document is enough

A complaint about an argument is dropped if *some* document of the source file confirms that the
argument exists. What confirms it is the one declaration that this document says the comment belongs
to. A document that says something else, or nothing, does not confirm, and that is all: it does not
keep another one from confirming. So the decision depends on which documents there are and on
nothing else about the list of them, and more documents never make a complaint come back.

All this holds as long as the documents can be used, since one that cannot ends the question with a
failure. The spelling of a document is a part of it only as far as that goes: two spellings that can
be used describe the same declarations.

## Main definitions

* `Rule.Confirms`: a document confirms that an argument exists.
* `Rule.decision`: what the fifth rule says about a record, whatever was asked before.

## Main results

* `SymbolIndex.Says.of_same`: spellings of one document say the same.
* `Rule.exists_decision`: a record is dropped if and only if a document confirms.
* `Rule.decision_of_any_document`: the decision depends on which documents there are.
-/

namespace DoxTriage

/-! ### Spellings of a document -/

namespace SymbolIndex

variable {disk : Disk} {marker file : Text} {line : Nat} {p q : Path}
  {declared others : List Declaration}

theorem Describes.eq_of_same (hsame : p.same q = true) (hp : Describes disk marker file p declared)
    (hq : Describes disk marker file q others) : declared = others := by
  obtain ⟨hread, hdeclared⟩ := hp
  obtain ⟨hother, hothers⟩ := hq
  have htext := Disk.read_eq_of_same hsame (Disk.readInput_eq_ok.1 hread)
    (Disk.readInput_eq_ok.1 hother)
  rw [htext, hothers] at hdeclared
  exact (Except.ok.inj hdeclared).symm

/-- Spellings of one document say the same about a line, if they can be used. -/
theorem Says.of_same {said : Option Declaration} (hsame : p.same q = true)
    (hq : Describes disk marker file q others) (h : Says disk marker file line p said) :
    Says disk marker file line q said := by
  rcases h with ⟨hdeclared, hnearest, hparameters⟩ | ⟨hdeclared, hnearest, hparameters⟩ |
    ⟨hdeclared, hnone⟩
  · cases hdeclared.eq_of_same hsame hq
    exact .nearest hq hnearest hparameters
  · cases hdeclared.eq_of_same hsame hq
    exact .noParameters hq hnearest hparameters
  · cases hdeclared.eq_of_same hsame hq
    exact .nothingAfter hq hnone

end SymbolIndex

namespace Rule

open SymbolIndex ClassDocuments

variable {disk : Disk} {marker name : Text} {record : Record} {table other : ClassDocuments}

/-! ### One list of documents -/

/-- A document confirms that a name is an argument: the declaration that it says a record belongs to
has the name. -/
inductive Confirms (disk : Disk) (marker : Text) (record : Record) (name : Text)
    (document : Path) : Prop
  | intro {declaration : Declaration}
    (hsaid : Says disk marker record.file record.line document (some declaration))
    (hdeclares : ParameterList.declares declaration.parameters name = true)

/-- All documents of a source file can be read, and their markup is in order. -/
def Usable (disk : Disk) (marker file : Text) (table : ClassDocuments) : Prop :=
  ∀ document ∈ table.documentsOf file, ∃ declared, Describes disk marker file document declared

/-- What the fifth rule says about a record, when a new index has answered some questions before. -/
def decision (disk : Disk) (marker : Text) (table : ClassDocuments) (earlier : List Question)
    (record : Record) : Except Failure Bool :=
  (argumentNotFound.suppresses disk record
    ((World.start disk table marker).run (earlier.map .ask)).index).1

theorem decision_eq (hname : Complains record.headline name) (earlier : List Question) :
    decision disk marker table earlier record =
      ((load disk { documents := table, marker := marker } record.file).map
        (candidates record.line)).map (confirms name) := by
  have hasked : Faithful disk { documents := table, marker := marker }
      ((World.start disk table marker).run (earlier.map .ask)).index :=
    Faithful.run_ask (.of_new disk rfl) earlier
  rw [decision, suppresses_argumentNotFound_of_complains hname]
  exact ((settled_nearest disk _ record.file record.line).map (confirms name) _ hasked).1

/-- **Any document is enough**: if all documents can be used then the rule decides, and it drops a
record if and only if some document confirms. -/
theorem exists_decision (hname : Complains record.headline name)
    (htable : Usable disk marker record.file table) (earlier : List Question) :
    ∃ drops, decision disk marker table earlier record = .ok drops ∧
      (drops = true ↔
        ∃ document ∈ table.documentsOf record.file,
          Confirms disk marker record name document) := by
  let index : SymbolIndex := { documents := table, marker := marker }
  obtain ⟨found, hfound⟩ : ∃ found, index.load disk record.file = .ok found := by
    refine exists_mapM_eq_ok_iff.2 fun document hdocument => ?_
    obtain ⟨declared, hdeclared⟩ := htable document hdocument
    exact ⟨_, readDocument_eq_ok.2 ⟨declared, hdeclared, rfl⟩⟩
  have hcandidates : (index.load disk record.file).map (candidates record.line) =
      .ok (candidates record.line found) := by
    rw [hfound]
    rfl
  obtain ⟨said, hsaid, hreduce⟩ := map_candidates_eq_ok_iff.1 hcandidates
  refine ⟨confirms name (candidates record.line found), ?_, ?_⟩
  · rw [decision_eq hname, hcandidates]
    rfl
  · rw [confirms_iff, ← hreduce]
    simp only [List.reduceOption_mem_iff]
    constructor
    · rintro ⟨declaration, hmem, hdeclares⟩
      obtain ⟨document, hdocument, hdocumentSaid⟩ := exists_of_forall₂ hsaid.flip hmem
      exact ⟨document, hdocument, hdocumentSaid, hdeclares⟩
    · -- a document says one thing only, so what confirms is what it has said to the index
      rintro ⟨document, hdocument, @⟨declaration, hdocumentSaid, hdeclares⟩⟩
      obtain ⟨other, hmem, hother⟩ := exists_of_forall₂ hsaid hdocument
      rw [hother.unique hdocumentSaid] at hmem
      exact ⟨declaration, hmem, hdeclares⟩

/-! ### Two lists of documents -/

/-- A document confirms in any spelling in which it can be used. -/
theorem exists_confirms_of_within (hother : Usable disk marker record.file other)
    (h : Within (table.documentsOf record.file) (other.documentsOf record.file))
    (hconfirms : ∃ document ∈ table.documentsOf record.file,
      Confirms disk marker record name document) :
    ∃ document ∈ other.documentsOf record.file, Confirms disk marker record name document := by
  obtain ⟨document, hdocument, hsaid, hdeclares⟩ := hconfirms
  obtain ⟨spelling, hspelling, hsame⟩ := h document hdocument
  obtain ⟨declared, hdeclared⟩ := hother spelling hspelling
  exact ⟨spelling, hspelling, hsaid.of_same hsame hdeclared, hdeclares⟩

/-- **The fifth rule depends on which documents there are.** Let a record complain about an argument
and let all documents of its source file be usable, in one table and in another one. Then the rule
decides with either table, whatever the index was asked before. With a table it drops the record if
and only if some document confirms. If all documents of the first table are in the second one, then
it drops the record with the second one if it does with the first one; if the documents are the
same, in any order and any spelling, then it decides alike. In particular it does so for two logs
that differ in the order of blocks and documents. -/
theorem decision_of_any_document (hname : Complains record.headline name)
    (htable : Usable disk marker record.file table) (hother : Usable disk marker record.file other)
    (earlier others : List Question) :
    ∃ drops dropsOther, decision disk marker table earlier record = .ok drops ∧
      decision disk marker other others record = .ok dropsOther ∧
      (drops = true ↔ ∃ document ∈ table.documentsOf record.file,
        Confirms disk marker record name document) ∧
      (Within (table.documentsOf record.file) (other.documentsOf record.file) →
        drops = true → dropsOther = true) ∧
      (Within (table.documentsOf record.file) (other.documentsOf record.file) →
        Within (other.documentsOf record.file) (table.documentsOf record.file) →
        drops = dropsOther) ∧
      ∀ directory content rearranged, table = ofLog marker directory content →
        other = ofLog marker directory rearranged → Rearranged content rearranged →
        drops = dropsOther := by
  obtain ⟨drops, hdecision, hdrops⟩ := exists_decision hname htable earlier
  obtain ⟨dropsOther, hdecisionOther, hdropsOther⟩ := exists_decision hname hother others
  have hforth : Within (table.documentsOf record.file) (other.documentsOf record.file) →
      drops = true → dropsOther = true := by
    intro hwithin
    rw [hdrops, hdropsOther]
    exact exists_confirms_of_within hother hwithin
  have hback : Within (other.documentsOf record.file) (table.documentsOf record.file) →
      dropsOther = true → drops = true := by
    intro hwithin
    rw [hdrops, hdropsOther]
    exact exists_confirms_of_within htable hwithin
  have hequal : Within (table.documentsOf record.file) (other.documentsOf record.file) →
      Within (other.documentsOf record.file) (table.documentsOf record.file) →
      drops = dropsOther :=
    fun hwithin hwithinOther => Bool.eq_iff_iff.2 ⟨hforth hwithin, hback hwithinOther⟩
  refine ⟨drops, dropsOther, hdecision, hdecisionOther, hdrops, hforth, hequal, ?_⟩
  rintro directory content rearranged rfl rfl hrearranged
  obtain ⟨hwithin, hwithinOther⟩ := hrearranged.within marker directory record.file
  exact hequal hwithin hwithinOther

/-- Two logs with the same blocks. One document says nothing, one lacks the name, and the one that
confirms is spelled in two ways, of which each log has another one first. -/
theorem decision_of_any_document_rearranged :
    let content := ("warning:/ci/src/g.hpp\na.xml\n" ++
      "warning:/ci/src/f.hpp\nb.xml\n./b.xml\nc.xml\na.xml\n").toList
    let rearranged := ("warning:/ci/src/f.hpp\nc.xml\n./b.xml\na.xml\nb.xml\n" ++
      "warning:/ci/src/g.hpp\na.xml\n").toList
    let silent := "<memberdef><location file='/ci/src/f.hpp' line='6'/></memberdef>".toList
    let confirming := ("<memberdef><argsstring>(int a)</argsstring>" ++
      "<location file='/ci/src/f.hpp' line='8'/></memberdef>").toList
    let lacking := ("<memberdef><argsstring>(int b)</argsstring>" ++
      "<location file='/ci/src/f.hpp' line='7'/></memberdef>").toList
    let disk := (((⟨fun _ => none, []⟩ : Disk).put ⟨"b/a.xml".toList⟩ (.file silent)).put
      ⟨"b/b.xml".toList⟩ (.file confirming)).put ⟨"b/c.xml".toList⟩ (.file lacking)
    let table := ofLog "src/".toList ⟨"b".toList⟩ content
    let other := ofLog "src/".toList ⟨"b".toList⟩ rearranged
    let headline := ("argument 'a' of command @param is not found in the argument list of " ++
      "f(int a)").toList
    let record : Record := ⟨⟨"src/f.hpp".toList, 5, headline⟩, []⟩
    Usable disk "src/".toList record.file table ∧ Usable disk "src/".toList record.file other ∧
      table.documentsOf record.file ≠ other.documentsOf record.file ∧
      decision disk "src/".toList table [] record = .ok true ∧
      decision disk "src/".toList other [.declarations "src/g.hpp".toList] record = .ok true := by
  intro content rearranged silent confirming lacking disk table other headline record
  have hname : Complains record.headline "a".toList :=
    complains_of_missingArgument? (by decide +kernel)
  have hsilent : Describes disk "src/".toList record.file ⟨"b/a.xml".toList⟩ [⟨6, []⟩] := by
    have hread : disk.readInput ⟨"b/a.xml".toList⟩ = .ok silent := by decide +kernel
    exact ⟨hread, by decide +kernel⟩
  have hconfirming : ∀ document ∈ [(⟨"b/b.xml".toList⟩ : Path), ⟨"b/./b.xml".toList⟩],
      Describes disk "src/".toList record.file document [⟨8, "(int a)".toList⟩] := by
    have hread : ∀ document ∈ [(⟨"b/b.xml".toList⟩ : Path), ⟨"b/./b.xml".toList⟩],
        disk.readInput document = .ok confirming := by decide +kernel
    exact fun document hdocument => ⟨hread document hdocument, by decide +kernel⟩
  have hlacking : Describes disk "src/".toList record.file ⟨"b/c.xml".toList⟩
      [⟨7, "(int b)".toList⟩] := by
    have hread : disk.readInput ⟨"b/c.xml".toList⟩ = .ok lacking := by decide +kernel
    exact ⟨hread, by decide +kernel⟩
  have hdocuments : table.documentsOf record.file =
      [⟨"b/b.xml".toList⟩, ⟨"b/c.xml".toList⟩, ⟨"b/a.xml".toList⟩] := by decide +kernel
  have hothers : other.documentsOf record.file =
      [⟨"b/c.xml".toList⟩, ⟨"b/./b.xml".toList⟩, ⟨"b/a.xml".toList⟩] := by decide +kernel
  have htable : Usable disk "src/".toList record.file table := by
    rw [Usable, hdocuments]
    simp only [List.forall_mem_cons]
    exact ⟨⟨_, hconfirming _ (by simp)⟩, ⟨_, hlacking⟩, ⟨_, hsilent⟩, by simp⟩
  have hother : Usable disk "src/".toList record.file other := by
    rw [Usable, hothers]
    simp only [List.forall_mem_cons]
    exact ⟨⟨_, hlacking⟩, ⟨_, hconfirming _ (by simp)⟩, ⟨_, hsilent⟩, by simp⟩
  have hconfirms : Confirms disk "src/".toList record "a".toList ⟨"b/b.xml".toList⟩ :=
    .intro (.nearest (hconfirming _ (by simp)) ⟨List.mem_singleton.2 rfl, by decide, by decide⟩
      (by decide)) (by decide +kernel)
  have hrearranged : Rearranged content rearranged := by
    let second : WrittenBlock := ⟨"/ci/src/g.hpp".toList, ["a.xml".toList], by decide +kernel⟩
    let first : WrittenBlock := ⟨"/ci/src/f.hpp".toList,
      ["b.xml".toList, "./b.xml".toList, "c.xml".toList, "a.xml".toList], by decide +kernel⟩
    let moved : WrittenBlock := ⟨"/ci/src/f.hpp".toList,
      ["c.xml".toList, "./b.xml".toList, "a.xml".toList, "b.xml".toList], by decide +kernel⟩
    have hcontent : IsWritten content [] [second, first] := ⟨by simp, by decide +kernel⟩
    have hmoved : IsWritten rearranged [] [moved, second] := ⟨by simp, by decide +kernel⟩
    have halike : WrittenBlock.Alike first moved := ⟨rfl, by decide +kernel⟩
    exact ⟨hcontent, hmoved, .swap _ _ _, .cons halike (.cons (.refl second) .nil)⟩
  obtain ⟨drops, dropsOther, hdecision, hdecisionOther, hdrops, -, -, hequal⟩ :=
    decision_of_any_document hname htable hother [] [.declarations "src/g.hpp".toList]
  have htrue : drops = true :=
    hdrops.2 ⟨⟨"b/b.xml".toList⟩, by rw [hdocuments]; exact List.mem_cons_self .., hconfirms⟩
  rw [← hequal ⟨"b".toList⟩ content rearranged rfl rfl hrearranged] at hdecisionOther
  rw [htrue] at hdecision hdecisionOther
  refine ⟨htable, hother, ?_, hdecision, hdecisionOther⟩
  rw [hdocuments, hothers]
  decide +kernel

end Rule

end DoxTriage
