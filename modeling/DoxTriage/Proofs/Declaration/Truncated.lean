import DoxTriage.Proofs.Declaration.Nearest
import DoxTriage.Proofs.Declaration.Progress
import DoxTriage.Proofs.Xml.Entity
import DoxTriage.Proofs.Xml.Written
import Mathlib.Data.List.Sort

/-!
# Declarations in documents that break off

A file may be cut off while it is written. What is left is the beginning of a document, with some
elements open at its end, and so it is not a document any more. The reader notices this only if the
end falls within something that has to be closed for its own sake: within a piece of markup, or
within an entity of a text that it looks at. It does not ask whether elements are open when there is
nothing left to read, so it accepts every other beginning of a document that it accepts, and the
declarations of members that have not ended are missing without a word.

## Main definitions

* `Declaration.BreaksEntity`: the end falls within an entity of a parameter list.

## Main results

* `Declaration.ofDocument_print_of_opened`: elements that are left open make no difference.
* `Declaration.ofDocument_truncated`: what is made of a document that breaks off.
-/

namespace DoxTriage

namespace Declaration

open Xml (Written Item)

variable {marker file : Text} {document part : Written} {later : List Item} {cut : Text}

/-- What has been found first stays in order when more is found. -/
theorem sort_sublist_append (more found : List Declaration) :
    (sort found).Sublist (sort (more ++ found)) := by
  have _ : Std.Antisymm fun a b : Declaration => a.before b = true :=
    ⟨fun _ _ => before_antisymm⟩
  refine List.sublist_of_subperm_of_pairwise ?_ (pairwise_sort found) (pairwise_sort _)
  have hsublist : found.Subperm (more ++ found) := (List.sublist_append_right more found).subperm
  exact (sort_perm found).subperm.trans (hsublist.trans (sort_perm _).symm.subperm)

/-- A document is read as its events, whatever it leaves open. -/
theorem ofDocument_print_of_opened {elements : List Text} (h : document.opened = some elements) :
    ofDocument marker file document.print =
      (document.events.foldlM (Progress.after marker file) {}).map fun progress =>
        sort progress.found := by
  obtain ⟨raw, same, events, hevents, hread⟩ := Written.read_print h
  rw [ofDocument, ofReading, hread, hevents]
  simp only [Progress.foldlM_rawEvent_outside]
  cases events.foldlM (Progress.after marker file) {} <;> rfl

/-- Whatever has been read before, a fault in the markup is a fault of the document. -/
theorem exists_error_of_fault {text : Text} {fault : Xml.Fault}
    (h : (Xml.read text).fault = some fault) :
    ∃ other, ofDocument marker file text = .error other := by
  rw [ofDocument, ofReading, h]
  cases (Xml.read text).events.foldlM (Progress.after marker file) {} <;> exact ⟨_, rfl⟩

/-- The document breaks off within an entity of a parameter list. -/
def BreaksEntity (part : Written) : Prop :=
  Progress.InParameters (Item.eventsAll part.items []) ∧ Xml.Unterminated part.back.text

/-- Within markup, the document has a fault. -/
theorem ofDocument_of_cutsMarkup (h : document.CutsMarkup cut) :
    ∃ fault, ofDocument marker file cut = .error fault := by
  obtain ⟨fault, hfault⟩ := Written.exists_fault_of_cutsMarkup h
  exact exists_error_of_fault hfault

/-- The text that a document breaks off in is looked at, and it cannot be unescaped. -/
theorem ofDocument_of_breaksEntity {elements : List Text} (hopened : part.opened = some elements)
    (h : BreaksEntity part) : ∃ fault, ofDocument marker file part.print = .error fault := by
  obtain ⟨hparameters, hbroken⟩ := h
  cases hread : ofDocument marker file part.print with
  | error fault => exact ⟨fault, rfl⟩
  | ok found =>
    rw [ofDocument_print_of_opened hopened, Written.events, Item.eventsAll_eq] at hread
    obtain ⟨last, hall, -⟩ := Except.map_eq_ok_iff.1 hread
    rw [List.foldlM_append] at hall
    obtain ⟨progress, hprogress, hback⟩ := Except.bind_eq_ok_iff.1 hall
    have hreads := (Progress.going_on_of_foldlM hprogress).2.2 hparameters
    obtain ⟨s, hs⟩ := (Progress.exists_foldlM_rawEvent_iff progress _).1 ⟨last, hback⟩ hreads
    obtain ⟨fault, hfault⟩ := Xml.unescapeFrom_of_unterminated hbroken
      (Text.utf8Length part.back.text) 0 none
    cases hs.symm.trans hfault

/-- In a text of an accepted document that is not broken within an entity, a beginning is
accepted. -/
theorem ofDocument_of_cutsText {elements : List Text} (hopened : document.opened = some elements)
    (hcut : part.CutsText document later) (hentity : ¬ BreaksEntity part) {all : List Declaration}
    (hall : ofDocument marker file document.print = .ok all) :
    ∃ found, ofDocument marker file part.print = .ok found ∧ found.Sublist all ∧
      all.length ≤ found.length +
        (later.map fun item => item.mark.event).count (.closing Member.element) := by
  obtain ⟨others, hothers⟩ := hcut.exists_opened hopened
  obtain ⟨hevents, raw, events, hraw, htext⟩ := hcut.exists_events
  rw [ofDocument_print_of_opened hopened, hevents] at hall
  obtain ⟨last, hfold, rfl⟩ := Except.map_eq_ok_iff.1 hall
  rw [List.foldlM_append] at hfold
  obtain ⟨progress, hprogress, hlater⟩ := Except.bind_eq_ok_iff.1 hfold
  obtain ⟨more, hmore, hle⟩ := Progress.found_of_foldlM hlater
  -- the whole text can be taken in, and so the beginning of it can
  have hback : ∃ next, (Xml.rawEvent part.back.text).foldlM (Progress.after marker file) progress =
      .ok next := by
    refine (Progress.exists_foldlM_rawEvent_iff progress _).2 fun hreads => ?_
    rw [htext, List.foldlM_append] at hlater
    obtain ⟨next, hnext, -⟩ := Except.bind_eq_ok_iff.1 hlater
    obtain ⟨s, hs⟩ := (Progress.exists_foldlM_rawEvent_iff progress raw).1 ⟨next, hnext⟩ hreads
    have hwhole : ¬ Xml.Unterminated part.back.text := fun hbroken =>
      hentity ⟨(Progress.going_on_of_foldlM hprogress).2.1 hreads, hbroken⟩
    rw [← Xml.unescape_eq_error_iff_of_prefix hs hraw, not_exists] at hwhole
    exact Except.exists_eq_ok_iff.2 hwhole
  obtain ⟨next, hnext⟩ := hback
  have hfound : next.found = progress.found := by
    obtain ⟨none, hnone, hzero⟩ := Progress.found_of_foldlM hnext
    rw [Xml.count_rawEvent, Nat.le_zero, List.length_eq_zero_iff] at hzero
    rw [hnone, hzero, List.nil_append]
  have hread : ofDocument marker file part.print = .ok (sort progress.found) := by
    rw [ofDocument_print_of_opened hothers, Written.events, Item.eventsAll_eq, List.foldlM_append,
      hprogress, ← hfound]
    exact Except.map_eq_ok_iff.2 ⟨next, hnext, rfl⟩
  refine ⟨sort progress.found, hread, hmore ▸ sort_sublist_append more progress.found, ?_⟩
  rw [Item.count_eventsAll, Xml.count_rawEvent, Nat.add_zero] at hle
  rw [(sort_perm _).length_eq, (sort_perm _).length_eq, hmore, List.length_append]
  omega

/-- **Documents that break off.** A beginning of a document with balanced tags ends within a piece
of markup or within a text, which may be empty. Within markup it has a fault, and so it has within
an entity of a parameter list. Everywhere else a beginning of an accepted document is accepted too,
whatever elements it leaves open, and all that can be missing from its declarations are those of
members whose end tag is missing. -/
theorem ofDocument_truncated {document : Written} (h : document.WellFormed) :
    (∀ cut, cut <+: document.print → document.CutsMarkup cut ∨
        ∃ (part : Written) (later : List Item), part.CutsText document later ∧
          cut = part.print) ∧
      ∀ marker file : Text,
        (∀ cut, document.CutsMarkup cut →
          ∃ fault, ofDocument marker file cut = .error fault) ∧
        ∀ (part : Written) (later : List Item), part.CutsText document later →
          (BreaksEntity part → ∃ fault, ofDocument marker file part.print = .error fault) ∧
          (¬ BreaksEntity part → ∀ all, ofDocument marker file document.print = .ok all →
            ∃ found, ofDocument marker file part.print = .ok found ∧ found.Sublist all ∧
              all.length ≤ found.length +
                (later.map fun item => item.mark.event).count (.closing Member.element)) := by
  refine ⟨fun cut => Written.cuts_of_prefix, fun marker file =>
    ⟨fun cut => ofDocument_of_cutsMarkup, fun part later hcut => ⟨fun hentity => ?_, ?_⟩⟩⟩
  · obtain ⟨elements, hopened⟩ := hcut.exists_opened h
    exact ofDocument_of_breaksEntity hopened hentity
  · intro hentity all hall
    exact ofDocument_of_cutsText h hcut hentity hall

/-- Two members, and three places in the second one: in an attribute, in an entity, and in front of
this entity. -/
theorem ofDocument_truncated_of_two_members :
    let doxygen : Xml.Name := ⟨"doxygen".toList, List.cons_ne_nil _ _, rfl⟩
    let memberdef : Xml.Name := ⟨"memberdef".toList, List.cons_ne_nil _ _, rfl⟩
    let argsstring : Xml.Name := ⟨"argsstring".toList, List.cons_ne_nil _ _, rfl⟩
    let location : Xml.Name := ⟨"location".toList, List.cons_ne_nil _ _, rfl⟩
    let bare (name : Xml.Name) : Xml.WrittenTag := ⟨name, [], rfl, rfl, nofun⟩
    let close (name : Xml.Name) : Xml.Mark := .closing name [] (List.forall_mem_nil _)
    let first : Xml.WrittenTag := ⟨location, " file='/ci/src/f.hpp' line = '9' ".toList,
      by decide +kernel, by decide +kernel, by decide +kernel⟩
    let second : Xml.WrittenTag := ⟨location, " line=\"8\"\nfile=\"/ci/src/f.hpp\"".toList,
      by decide +kernel, by decide +kernel, by decide +kernel⟩
    let gap : Xml.RawText := ⟨[], List.not_mem_nil⟩
    let before : List Item := [⟨gap, .opening (bare doxygen)⟩, ⟨gap, .opening (bare memberdef)⟩,
      ⟨gap, .empty first⟩,
      ⟨gap, .closing memberdef [' '] (List.forall_mem_singleton.2 rfl)⟩,
      ⟨gap, .opening (bare memberdef)⟩, ⟨gap, .opening (bare argsstring)⟩]
    let list : Item := ⟨⟨"(T &amp;b)".toList, by decide +kernel⟩, close argsstring⟩
    let after : List Item := [⟨gap, close memberdef⟩, ⟨gap, close doxygen⟩]
    let document : Written := ⟨before ++ list :: ⟨gap, .empty second⟩ :: after, gap⟩
    let cut : Text := Item.printAll (before ++ [list]) "<location line=\"8\"\nfile=\"/ci".toList
    let broken : Written := ⟨before, ⟨"(T &am".toList, by decide +kernel⟩⟩
    let part : Written := ⟨before, ⟨"(T ".toList, by decide +kernel⟩⟩
    document.WellFormed ∧
      (∃ fault, ofDocument "src/".toList "src/f.hpp".toList cut = .error fault) ∧
      (∃ fault, ofDocument "src/".toList "src/f.hpp".toList broken.print = .error fault) ∧
      ∃ found, ofDocument "src/".toList "src/f.hpp".toList part.print = .ok found ∧
        found.Sublist [⟨8, "(T &b)".toList⟩, ⟨9, []⟩] ∧ 1 ≤ found.length := by
  intro doxygen memberdef argsstring location bare close first second gap before list after document
    cut broken part
  have hdocument : document.WellFormed := by
    rw [Written.WellFormed]
    decide +kernel
  obtain ⟨-, hread⟩ := ofDocument_truncated hdocument
  obtain ⟨hmarkup, htext⟩ := hread "src/".toList "src/f.hpp".toList
  have hcut : document.CutsMarkup cut :=
    ⟨before ++ [list], ⟨gap, .empty second⟩, after, "location line=\"8\"\nfile=\"/ci".toList, rfl,
      ⟨"/src/f.hpp\"/".toList, rfl⟩, rfl⟩
  have hbroken : broken.CutsText document (list :: ⟨gap, .empty second⟩ :: after) :=
    ⟨rfl, "p;b)".toList, rfl⟩
  have hpart : part.CutsText document (list :: ⟨gap, .empty second⟩ :: after) :=
    ⟨rfl, "&amp;b)".toList, rfl⟩
  have hinside : Progress.InParameters (Item.eventsAll before []) := by
    have hfold : (Item.eventsAll before []).foldlM
        (Progress.after "src/".toList "src/f.hpp".toList) {} =
          .ok ⟨some { inParameters := true }, [⟨9, []⟩]⟩ := by decide +kernel
    exact (Progress.going_on_of_foldlM hfold).2.1 rfl
  have hwhole : ofDocument "src/".toList "src/f.hpp".toList document.print =
      .ok [⟨8, "(T &b)".toList⟩, ⟨9, []⟩] := by
    have hfold : document.events.foldlM (Progress.after "src/".toList "src/f.hpp".toList) {} =
        .ok ⟨none, [⟨8, "(T &b)".toList⟩, ⟨9, []⟩]⟩ := by decide +kernel
    rw [ofDocument_print_of_opened hdocument, hfold]
    exact congrArg Except.ok (List.mergeSort_of_pairwise (by decide +kernel))
  have hnone : ¬ BreaksEntity part := by
    rintro ⟨-, front, name, htext, -⟩
    have hamp : '&' ∈ part.back.text :=
      htext ▸ List.mem_append_right front (List.mem_cons_self ..)
    revert hamp
    decide
  obtain ⟨found, hfound, hsublist, hle⟩ := (htext part _ hpart).2 hnone _ hwhole
  refine ⟨hdocument, hmarkup cut hcut, (htext broken _ hbroken).1 ⟨hinside, ?_⟩, found, hfound,
    hsublist, ?_⟩
  · exact ⟨"(T ".toList, "am".toList, rfl, by decide +kernel⟩
  · have hcount : ((list :: ⟨gap, .empty second⟩ :: after).map fun item =>
        item.mark.event).count (.closing Member.element) = 1 := by decide +kernel
    rw [hcount] at hle
    exact Nat.le_of_succ_le_succ hle

/-- A document that breaks off behind a start tag is accepted, and the member that has begun is
missing from its declarations. -/
theorem ofDocument_of_open_member :
    let doxygen : Xml.Name := ⟨"doxygen".toList, List.cons_ne_nil _ _, rfl⟩
    let memberdef : Xml.Name := ⟨"memberdef".toList, List.cons_ne_nil _ _, rfl⟩
    let argsstring : Xml.Name := ⟨"argsstring".toList, List.cons_ne_nil _ _, rfl⟩
    let location : Xml.Name := ⟨"location".toList, List.cons_ne_nil _ _, rfl⟩
    let bare (name : Xml.Name) : Xml.WrittenTag := ⟨name, [], rfl, rfl, nofun⟩
    let close (name : Xml.Name) : Xml.Mark := .closing name [] (List.forall_mem_nil _)
    let first : Xml.WrittenTag := ⟨location, " file=\"/ci/src/f.hpp\" line=\"8\"".toList,
      by decide +kernel, by decide +kernel, by decide +kernel⟩
    let second : Xml.WrittenTag := ⟨location, " file=\"/ci/src/f.hpp\" line=\"7\"".toList,
      by decide +kernel, by decide +kernel, by decide +kernel⟩
    let gap : Xml.RawText := ⟨[], List.not_mem_nil⟩
    let part : Written := ⟨[⟨gap, .opening (bare doxygen)⟩, ⟨gap, .opening (bare memberdef)⟩,
      ⟨gap, .opening (bare argsstring)⟩,
      ⟨⟨"(int a)".toList, by decide +kernel⟩, close argsstring⟩, ⟨gap, .empty first⟩,
      ⟨gap, close memberdef⟩, ⟨gap, .opening (bare memberdef)⟩], gap⟩
    let later : List Item := [⟨gap, .empty second⟩, ⟨gap, close memberdef⟩, ⟨gap, close doxygen⟩]
    let document : Written := ⟨part.items ++ later, gap⟩
    document.WellFormed ∧ part.print <+: document.print ∧
      part.opened = some ["memberdef".toList, "doxygen".toList] ∧
      part.print = ("<doxygen><memberdef><argsstring>(int a)</argsstring>" ++
        "<location file=\"/ci/src/f.hpp\" line=\"8\"/></memberdef><memberdef>").toList ∧
      ofDocument "src/".toList "src/f.hpp".toList part.print = .ok [⟨8, "(int a)".toList⟩] ∧
      ofDocument "src/".toList "src/f.hpp".toList document.print =
        .ok [⟨7, []⟩, ⟨8, "(int a)".toList⟩] := by
  intro doxygen memberdef argsstring location bare close first second gap part later document
  have hdocument : document.WellFormed := by
    rw [Written.WellFormed]
    decide +kernel
  have hfold : document.events.foldlM (Progress.after "src/".toList "src/f.hpp".toList) {} =
      .ok ⟨none, [⟨7, []⟩, ⟨8, "(int a)".toList⟩]⟩ := by decide +kernel
  refine ⟨hdocument, ⟨"<location file=\"/ci/src/f.hpp\" line=\"7\"/></memberdef></doxygen>".toList,
    by decide +kernel⟩, by decide +kernel, by decide +kernel, by decide +kernel, ?_⟩
  rw [ofDocument_print_of_opened hdocument, hfold]
  exact congrArg Except.ok (List.mergeSort_of_pairwise (by decide +kernel))

end Declaration

end DoxTriage
