import DoxTriage.Proofs.Text.Cut
import DoxTriage.SourceName

/-!
# What a name is made of

The name of a source file is the end of the path it is taken from. It is a path to the file itself,
and names the same file: behind the last marker there is none, so nothing is taken off a second
time.

Which marker is the last one needs care, because a marker may overlap itself: in `aaa` the marker
`aa` occurs twice. The name is the shortest end of the path that begins with a marker, and the only
one that begins with a marker and contains no other. Nothing in front of it has a say in this, so
all paths that end alike, from some marker on, have one name (`sourceName_last_marker`).

## Main definitions

* `Text.OccursAt`: a marker occurs at a place.
* `IsLastMarked`: the end of a path that begins with its last marker.

## Main results

* `sourceName_suffix`: the name is the end of the path.
* `sourceName_sourceName`: a name is its own name.
* `sourceName_last_marker`: the name begins with the last marker, if there is one.
-/

namespace DoxTriage

variable {marker path : Text}

/-- The name of a source file is the end of the path, from wherever on. -/
theorem sourceName_suffix (marker path : Text) : sourceName marker path <:+ path := by
  rw [sourceName]
  split
  · exact List.suffix_rfl
  · split
    · next front name hcut =>
      obtain ⟨rest, hpath, hread⟩ := Text.lastCut?_eq_some hcut
      split at hread
      · cases hread
        exact ⟨front, hpath.symm⟩
      · cases hread
    · exact List.suffix_rfl

theorem sourceName_of_lastCut? {front name : Text} (hmarker : marker ≠ [])
    (h : Text.lastCut? (fun rest => if marker.isPrefixOf rest then some rest else none) path =
      some (front, name)) : sourceName marker path = name := by
  rw [sourceName, if_neg hmarker, h]

/-- **A name is its own name.** -/
@[simp]
theorem sourceName_sourceName (marker path : Text) :
    sourceName marker (sourceName marker path) = sourceName marker path := by
  by_cases hmarker : marker = []
  · simp only [sourceName, if_pos hmarker]
  cases hcut : Text.lastCut? (fun rest => if marker.isPrefixOf rest then some rest else none) path
    with
  | none =>
    have hname : sourceName marker path = path := by rw [sourceName, if_neg hmarker, hcut]
    rw [hname, hname]
  | some cut =>
    obtain ⟨front, name⟩ := cut
    rw [sourceName_of_lastCut? hmarker hcut]
    obtain ⟨rest, hpath, hread⟩ := Text.lastCut?_eq_some hcut
    split at hread
    · obtain rfl := Option.some.inj hread
      rw [hpath] at hcut
      exact sourceName_of_lastCut? hmarker (Text.lastCut?_of_append hcut)
    · cases hread

/-! ### The last marker -/

/-- The marker occurs in the text, with so many characters in front of it. -/
def Text.OccursAt (marker s : Text) (place : Nat) : Prop :=
  marker <+: s.drop place

/-- The end of a path that begins with the marker and in which the marker does not occur again, not
even one that overlaps the first. -/
structure IsLastMarked (marker path name : Text) : Prop where
  suffix : name <:+ path
  occursAt_iff : ∀ place, Text.OccursAt marker name place ↔ place = 0

namespace IsLastMarked

variable {name other : Text}

theorem starts (h : IsLastMarked marker path name) : marker <+: name :=
  (h.occursAt_iff 0).2 rfl

/-- No shorter end of the path begins with the marker. -/
theorem length_le (h : IsLastMarked marker path name) (hother : other <:+ path)
    (hstarts : marker <+: other) : name.length ≤ other.length := by
  rcases List.suffix_or_suffix_of_suffix hother h.suffix with ⟨front, rfl⟩ | hsuffix
  · have hoccurs : Text.OccursAt marker (front ++ other) front.length := by
      rw [Text.OccursAt, List.drop_left]
      exact hstarts
    have hfront : front.length = 0 := (h.occursAt_iff _).1 hoccurs
    rw [List.length_append]
    omega
  · exact hsuffix.length_le

theorem unique (h : IsLastMarked marker path name) (hother : IsLastMarked marker path other) :
    other = name := by
  have hlength : other.length = name.length :=
    Nat.le_antisymm (hother.length_le h.suffix h.starts) (h.length_le hother.suffix hother.starts)
  rcases List.suffix_or_suffix_of_suffix hother.suffix h.suffix with hsuffix | hsuffix
  · exact hsuffix.eq_of_length hlength
  · exact (hsuffix.eq_of_length hlength.symm).symm

/-- What stands in front of a path has no say in what it ends with. -/
theorem append_left (h : IsLastMarked marker path name) (front : Text) :
    IsLastMarked marker (front ++ path) name :=
  ⟨h.suffix.trans (List.suffix_append front path), h.occursAt_iff⟩

end IsLastMarked

theorem sourceName_of_not_infix (h : ¬ marker <:+: path) : sourceName marker path = path := by
  rw [sourceName]
  split
  · rfl
  · split
    · next front name hcut =>
      obtain ⟨rest, hpath, hread⟩ := Text.lastCut?_eq_some hcut
      split at hread
      · next hstarts =>
        obtain ⟨back, rfl⟩ := List.isPrefixOf_iff_prefix.1 hstarts
        exact absurd ⟨front, back, by rw [hpath, List.append_assoc]⟩ h
      · cases hread
    · rfl

/-- Where a name begins: no marker begins farther back. -/
theorem exists_append_sourceName (hmarker : marker ≠ []) (h : marker <:+: path) :
    ∃ front, path = front ++ sourceName marker path ∧ marker <+: sourceName marker path ∧
      ∀ longer later, path = longer ++ later → front.length < longer.length →
        ¬ marker <+: later := by
  cases hcut : Text.lastCut? (fun rest => if marker.isPrefixOf rest then some rest else none) path
    with
  | none =>
    obtain ⟨front, back, rfl⟩ := h
    have hnone := Text.lastCut?_eq_none_iff.1 hcut front (marker ++ back) (List.append_assoc ..)
    rw [if_pos (List.isPrefixOf_iff_prefix.2 (List.prefix_append marker back))] at hnone
    cases hnone
  | some cut =>
    obtain ⟨front, name⟩ := cut
    rw [sourceName_of_lastCut? hmarker hcut]
    obtain ⟨⟨rest, hpath, hread⟩, hlast⟩ := Text.lastCut?_eq_some_iff.1 hcut
    split at hread
    · next hstarts =>
      obtain rfl := Option.some.inj hread
      refine ⟨front, hpath, List.isPrefixOf_iff_prefix.1 hstarts, fun longer later hlater hlt => ?_⟩
      have hnone := hlast longer later hlater hlt
      intro hagain
      rw [if_pos (List.isPrefixOf_iff_prefix.2 hagain)] at hnone
      cases hnone
    · cases hread

theorem isLastMarked_sourceName (hmarker : marker ≠ []) (h : marker <:+: path) :
    IsLastMarked marker path (sourceName marker path) := by
  obtain ⟨front, hpath, hstarts, hlast⟩ := exists_append_sourceName hmarker h
  refine ⟨⟨front, hpath.symm⟩, fun place => ⟨fun hoccurs => ?_, ?_⟩⟩
  · refine Nat.eq_zero_of_not_pos fun hplace => ?_
    have hname : 0 < (sourceName marker path).length :=
      Nat.lt_of_lt_of_le (List.length_pos_iff.2 hmarker) hstarts.length_le
    refine hlast (front ++ (sourceName marker path).take place)
      ((sourceName marker path).drop place) ?_ ?_ hoccurs
    · rw [List.append_assoc, List.take_append_drop, ← hpath]
    · rw [List.length_append, List.length_take]
      omega
  · rintro rfl
    exact hstarts

/-- **A name begins with the last marker.** If the marker occurs in a path, then the name is the one
end of the path that begins with the marker and does not contain another one, and it is the shortest
end that begins with the marker; whatever is put in front of the path, the name stays. Without a
marker, or if it does not occur, a path is its own name. A name always is. -/
theorem sourceName_last_marker (marker path : Text) :
    (marker ≠ [] → marker <:+: path →
      IsLastMarked marker path (sourceName marker path) ∧
      (∀ other, IsLastMarked marker path other → other = sourceName marker path) ∧
      (∀ other, other <:+ path → marker <+: other →
        (sourceName marker path).length ≤ other.length) ∧
      ∀ front, sourceName marker (front ++ path) = sourceName marker path) ∧
      (marker = [] ∨ ¬ marker <:+: path → sourceName marker path = path) ∧
      sourceName marker (sourceName marker path) = sourceName marker path := by
  refine ⟨fun hmarker h => ?_, ?_, sourceName_sourceName marker path⟩
  · have hname := isLastMarked_sourceName hmarker h
    refine ⟨hname, fun other => hname.unique, fun other => hname.length_le, fun front => ?_⟩
    have hlonger : marker <:+: front ++ path := h.trans (List.suffix_append front path).isInfix
    exact (hname.append_left front).unique (isLastMarked_sourceName hmarker hlonger)
  · rintro (rfl | h)
    · rw [sourceName, if_pos rfl]
    · exact sourceName_of_not_infix h

/-- A marker that overlaps itself: the last of three occurrences counts, also below a directory that
ends with half a marker. -/
theorem sourceName_last_marker_of_overlap :
    let marker : Text := "aa".toList
    let path : Text := "xaaaa.h".toList
    marker ≠ [] ∧ marker <:+: path ∧ sourceName marker path = "aa.h".toList ∧
      (∀ front, sourceName marker (front ++ path) = "aa.h".toList) ∧
      sourceName marker "aa.h".toList = "aa.h".toList := by
  intro marker path
  have hmarker : marker ≠ [] := by decide
  have hinfix : marker <:+: path := ⟨"x".toList, "aa.h".toList, by decide⟩
  have hname : sourceName marker path = "aa.h".toList := by decide +kernel
  obtain ⟨hlast, -, hself⟩ := sourceName_last_marker marker path
  obtain ⟨-, -, -, hfront⟩ := hlast hmarker hinfix
  rw [hname] at hself hfront
  exact ⟨hmarker, hinfix, hname, hfront, hself⟩

end DoxTriage
