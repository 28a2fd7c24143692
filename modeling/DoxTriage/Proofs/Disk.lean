import DoxTriage.Failure
import DoxTriage.Proofs.FirstFailure
import DoxTriage.Proofs.Path

/-!
# What a write leaves alone

A write changes the entry at one location, where there was no directory. Following a path asks of
the locations on its way only whether they are directories, and on this a file makes no difference
to nothing, or to the file before it. So every path leads where it led before the write, and reading
is changed at the one location only.

What a path fails with may change: where nothing was, there is now a file, so a path that goes on
from there fails because the file is no directory, and no longer because nothing is there. This is
why the laws below are about success.

## Main definitions

* `Disk.Rewritten`: a disk is another one but for the text of one file.

## Main results

* `Disk.target_eq`: a path that names a file can be written to unless a directory is there.
* `Disk.locate_set_eq_ok_iff`: a path leads where it led before.
* `Disk.rewritten_of_write`: what a write does.
-/

namespace DoxTriage

namespace Disk

variable {disk : Disk} {location : Location}

/-! ### Following a path -/

theorem walk_append (disk : Disk) (location : Location) (names others : List Text) :
    disk.walk location (names ++ others) =
      disk.walk location names >>= fun next => disk.walk next others :=
  List.foldlM_append

theorem walk_cons (disk : Disk) (location : Location) (name : Text) (names : List Text) :
    disk.walk location (name :: names) =
      disk.step location name >>= fun next => disk.walk next names :=
  List.foldlM_cons

/-- A step leads on from a directory, by a name that is not too long. -/
theorem step_eq_ok_iff {name : Text} {next : Location} :
    disk.step location name = .ok next ↔
      disk.lookup location = some .directory ∧ Text.utf8Length name ≤ 255 ∧
        lexicalStep location name = next := by
  rw [step]
  rcases disk.lookup location with _ | entry
  · simp
  · cases entry with
    | directory =>
      by_cases hlong : 255 < Text.utf8Length name
      · simp [hlong]
      · simp [hlong, Nat.not_lt.1 hlong]
    | file text => simp
    | blob bytes => simp

theorem stepsOf_of_namesFile {p : Path} {name : Text} (h : p.NamesFile name) :
    stepsOf p = p.names := by
  rw [stepsOf, if_neg h.not_slash, List.append_nil]
  rfl

/-- A path that names a file can be written to unless a directory is there. -/
theorem target_eq {p : Path} {name : Text} (h : p.NamesFile name) :
    disk.target p = disk.locate p >>= fun location =>
      if disk.lookup location = some .directory then .error .isDirectory else .ok location := by
  have hnames : p.names = p.names.dropLast ++ [name] :=
    (List.dropLast_append_getLast? _ h.getLast?_names).symm
  have hlast : (Text.split '/' p.text).filter (· ≠ []) = p.names := rfl
  have hfile : name ≠ ['.'] ∧ name ≠ ['.', '.'] ∧ p.text.getLast? ≠ some '/' :=
    ⟨h.ne_here, h.ne_up, h.not_slash⟩
  rw [target, locate, stepsOf_of_namesFile h]
  cases pathFault? p with
  | some fault => rfl
  | none =>
    dsimp only
    rw [hlast, h.getLast?_names, hnames, walk_append, List.dropLast_concat]
    cases disk.walk (disk.startOf p) p.names.dropLast with
    | error fault => rfl
    | ok directory =>
      have hstep : disk.walk directory [name] = disk.step directory name := by
        rw [walk_cons]
        cases disk.step directory name <;> rfl
      dsimp only
      rw [if_pos hfile]
      change _ = disk.walk directory [name] >>= _
      rw [hstep]
      cases disk.step directory name with
      | error fault => rfl
      | ok location =>
        change (if _ then _ else _) = if _ then _ else _
        by_cases hdirectory : disk.lookup location = some .directory
        · rw [if_neg fun hboth => hboth.2 hdirectory, if_pos hdirectory]
        · rw [if_pos ⟨hfile, hdirectory⟩, if_neg hdirectory]

/-- A path that can be written to names a file. -/
theorem namesFile_of_target {p : Path} (h : disk.target p = .ok location) :
    ∃ name, p.NamesFile name := by
  have hnames : (Text.split '/' p.text).filter (· ≠ []) = p.names := rfl
  rw [target] at h
  split at h
  · cases h
  · dsimp only at h
    rw [hnames] at h
    split at h
    · cases h
    · cases h
    · next directory name _ hlast =>
      by_cases hfile : name ≠ ['.'] ∧ name ≠ ['.', '.'] ∧ p.text.getLast? ≠ some '/'
      · exact ⟨name, hlast, hfile.1, hfile.2.1, hfile.2.2⟩
      · split at h
        · cases h
        · rw [if_neg fun hboth => hfile hboth.1] at h
          cases h

/-! ### A file in the place of a file, or of nothing -/

theorem ne_nil_of_lookup_ne (h : disk.lookup location ≠ some .directory) : location ≠ [] := by
  rintro rfl
  exact h rfl

theorem lookup_set_self (h : disk.lookup location ≠ some .directory) (entry : Entry) :
    (disk.set location entry).lookup location = some entry := by
  rw [lookup, if_neg (ne_nil_of_lookup_ne h), entryAt_set, if_pos rfl]

theorem lookup_set_of_ne {other : Location} (h : other ≠ location) (entry : Entry) :
    (disk.set location entry).lookup other = disk.lookup other := by
  rw [lookup, lookup, entryAt_set, if_neg h]

theorem set_set (disk : Disk) (location : Location) (entry : Entry) :
    (disk.set location entry).set location entry = disk.set location entry := by
  simp only [set]
  congr 1
  funext other
  by_cases hother : other = location
  · rw [if_pos hother, if_pos hother]
  · rw [if_neg hother]

theorem lookup_set_eq_directory_iff (h : disk.lookup location ≠ some .directory) (text : Text)
    (other : Location) :
    (disk.set location (.file text)).lookup other = some .directory ↔
      disk.lookup other = some .directory := by
  by_cases hother : other = location
  · subst hother
    rw [lookup_set_self h]
    exact iff_of_false (by simp) h
  · rw [lookup_set_of_ne hother]

/-- **The step**: a file makes no difference to where a step leads. -/
theorem step_set_eq_ok_iff (h : disk.lookup location ≠ some .directory) (text : Text)
    {start next : Location} {name : Text} :
    (disk.set location (.file text)).step start name = .ok next ↔
      disk.step start name = .ok next := by
  rw [step_eq_ok_iff, step_eq_ok_iff, lookup_set_eq_directory_iff h]

/-- **The walk**: nor to where several steps lead. -/
theorem walk_set_eq_ok_iff (h : disk.lookup location ≠ some .directory) (text : Text)
    {start next : Location} {names : List Text} :
    (disk.set location (.file text)).walk start names = .ok next ↔
      disk.walk start names = .ok next := by
  induction names generalizing start with
  | nil => rfl
  | cons name names ih =>
    rw [walk_cons, walk_cons, Except.bind_eq_ok_iff, Except.bind_eq_ok_iff]
    simp only [step_set_eq_ok_iff h, ih]

theorem locate_set_eq_ok_iff (h : disk.lookup location ≠ some .directory) (text : Text) {p : Path}
    {next : Location} :
    (disk.set location (.file text)).locate p = .ok next ↔ disk.locate p = .ok next := by
  rw [locate, locate]
  cases pathFault? p with
  | some fault => rfl
  | none => exact walk_set_eq_ok_iff h text

/-! ### Reading and writing -/

theorem read_eq_ok_iff {p : Path} {text : Text} :
    disk.read p = .ok text ↔
      ∃ location, disk.locate p = .ok location ∧ disk.lookup location = some (.file text) := by
  rw [read]
  cases disk.locate p with
  | error fault => simp
  | ok location =>
    simp only [Except.ok.injEq, exists_eq_left']
    rcases disk.lookup location with _ | entry
    · simp
    · cases entry <;> simp

/-- A text is written where the path leads, unless a directory is there. -/
theorem write_of_locate {p : Path} {name : Text} (hname : p.NamesFile name)
    (hlocate : disk.locate p = .ok location) (text : Text) :
    disk.write p text =
      if disk.lookup location = some .directory then .error .isDirectory
      else .ok (disk.set location (.file text)) := by
  have htarget : disk.target p =
      if disk.lookup location = some .directory then .error .isDirectory else .ok location := by
    rw [target_eq hname, hlocate]
    rfl
  rw [write, htarget]
  by_cases hdirectory : disk.lookup location = some .directory
  · rw [if_pos hdirectory, if_pos hdirectory]
  · rw [if_neg hdirectory, if_neg hdirectory]

/-- A disk is another one but for the text of the file that a path leads to. -/
structure Rewritten (disk after : Disk) (p : Path) (location : Location) (text : Text) : Prop where
  locate_eq : disk.locate p = .ok location
  not_directory : disk.lookup location ≠ some .directory
  eq_set : after = disk.set location (.file text)

namespace Rewritten

variable {after : Disk} {p : Path} {text : Text}

theorem locate_eq_ok_iff (h : Rewritten disk after p location text) {q : Path}
    {other : Location} : after.locate q = .ok other ↔ disk.locate q = .ok other := by
  rw [h.eq_set, locate_set_eq_ok_iff h.not_directory]

/-- The file has the text. -/
theorem read_eq (h : Rewritten disk after p location text) : after.read p = .ok text := by
  refine read_eq_ok_iff.2 ⟨location, h.locate_eq_ok_iff.2 h.locate_eq, ?_⟩
  rw [h.eq_set, lookup_set_self h.not_directory]

/-- All other files can be read as before. -/
theorem read_eq_ok_iff_of_ne (h : Rewritten disk after p location text) {q : Path}
    (hq : disk.locate q ≠ .ok location) {content : Text} :
    after.read q = .ok content ↔ disk.read q = .ok content := by
  rw [read_eq_ok_iff, read_eq_ok_iff]
  refine exists_congr fun other => ?_
  rw [h.locate_eq_ok_iff]
  refine and_congr_right fun hother => ?_
  have hne : other ≠ location := fun heq => hq (heq ▸ hother)
  rw [h.eq_set, lookup_set_of_ne hne]

theorem entryAt_eq (h : Rewritten disk after p location text) {other : Location}
    (hother : other ≠ location) : after.entryAt other = disk.entryAt other := by
  rw [h.eq_set, entryAt_set, if_neg hother]

theorem current_eq (h : Rewritten disk after p location text) : after.current = disk.current := by
  rw [h.eq_set]
  rfl

/-- Writing the text once more changes nothing. -/
theorem write_eq (h : Rewritten disk after p location text) {name : Text}
    (hname : p.NamesFile name) : after.write p text = .ok after := by
  have hfile : after.lookup location = some (.file text) := by
    rw [h.eq_set, lookup_set_self h.not_directory]
  rw [write_of_locate hname (h.locate_eq_ok_iff.2 h.locate_eq), if_neg (by rw [hfile]; simp),
    h.eq_set, set_set]

end Rewritten

/-- **The write**: a text that can be written is in the file afterwards, and nothing else is other
than before. -/
theorem rewritten_of_write {after : Disk} {p : Path} {text : Text}
    (h : disk.write p text = .ok after) :
    ∃ location, Rewritten disk after p location text := by
  obtain ⟨location, htarget, rfl⟩ := write_eq_ok h
  obtain ⟨name, hname⟩ := namesFile_of_target htarget
  rw [target_eq hname] at htarget
  obtain ⟨place, hlocate, hplace⟩ := Except.bind_eq_ok_iff.1 htarget
  split at hplace
  · cases hplace
  · next hdirectory =>
    cases hplace
    exact ⟨location, hlocate, hdirectory, rfl⟩

/-! ### Names of files -/

/-- A path that names a file leads to a location with that name. -/
theorem getLast?_of_locate {p : Path} {name : Text} (hname : p.NamesFile name)
    (h : disk.locate p = .ok location) : location.getLast? = some name := by
  rw [locate, stepsOf_of_namesFile hname] at h
  split at h
  · cases h
  · rw [← List.dropLast_append_getLast? _ hname.getLast?_names, walk_append] at h
    obtain ⟨directory, -, hlast⟩ := Except.bind_eq_ok_iff.1 h
    rw [walk_cons] at hlast
    obtain ⟨next, hstep, hnext⟩ := Except.bind_eq_ok_iff.1 hlast
    obtain ⟨-, -, rfl⟩ := step_eq_ok_iff.1 hstep
    cases hnext
    rw [lexicalStep, if_neg hname.ne_here, if_neg hname.ne_up, List.getLast?_concat]

/-- Paths that name files differently do not lead to one location. -/
theorem locate_ne_of_namesFile {p q : Path} {name other : Text} (hp : p.NamesFile name)
    (hq : q.NamesFile other) (hne : name ≠ other) (h : disk.locate p = .ok location) :
    disk.locate q ≠ .ok location := by
  intro hlocate
  have hsame := (getLast?_of_locate hp h).symm.trans (getLast?_of_locate hq hlocate)
  exact hne (Option.some.inj hsame)

theorem utf8Length_append (s t : Text) :
    Text.utf8Length (s ++ t) = Text.utf8Length s + Text.utf8Length t := by
  induction s with
  | nil => simp [Text.utf8Length]
  | cons c s ih =>
    simp only [Text.utf8Length, List.cons_append, List.foldr_cons] at ih ⊢
    rw [ih, Nat.add_assoc]

theorem pathFault?_eq_none_iff {p : Path} :
    pathFault? p = none ↔ '\x00' ∉ p.text ∧ p.text ≠ [] ∧ Text.utf8Length p.text ≤ 4095 := by
  rw [pathFault?]
  split
  · next hzero => simp [hzero]
  · next hzero =>
    split
    · next hnil => simp [hnil]
    · next hnil =>
      split
      · next hlong => simp [hlong]
      · next hlong => simpa [hzero, hnil] using hlong

/-- A shorter path from the same directory is no worse by itself. -/
theorem pathFault?_front {p : Path} {s t : Text} (h : pathFault? ⟨p.front ++ s⟩ = none)
    (hne : t ≠ []) (hzero : '\x00' ∉ t) (hlength : Text.utf8Length t ≤ Text.utf8Length s) :
    pathFault? ⟨p.front ++ t⟩ = none := by
  rw [pathFault?_eq_none_iff] at h ⊢
  obtain ⟨hzero', -, hlength'⟩ := h
  simp only [List.mem_append, not_or, utf8Length_append] at hzero' hlength' ⊢
  refine ⟨⟨hzero'.1, hzero⟩, ?_, ?_⟩
  · simp [hne]
  · omega

/-- If a path goes on from a directory, then a file in that directory has a location. -/
theorem exists_locate_front {p : Path} {s first name : Text} {others : List Text}
    (h : disk.locate ⟨p.front ++ s⟩ = .ok location) (hrelative : s.head? ≠ some '/')
    (hsteps : stepsOf ⟨p.front ++ s⟩ = Path.names ⟨p.front⟩ ++ first :: others)
    (hname : Path.IsFileName name) (hlength : Text.utf8Length name ≤ Text.utf8Length s) :
    ∃ location, disk.locate ⟨p.front ++ name⟩ = .ok location := by
  have hstart : ∀ {t : Text}, t.head? ≠ some '/' →
      disk.startOf ⟨p.front ++ t⟩ = disk.startOf ⟨p.front⟩ := by
    intro t ht
    rw [startOf, startOf, Path.isAbsolute_front p ht]
  rw [locate] at h
  split at h
  · cases h
  · next hfault =>
    rw [hsteps, hstart hrelative, walk_append] at h
    obtain ⟨directory, hdirectory, hrest⟩ := Except.bind_eq_ok_iff.1 h
    rw [walk_cons] at hrest
    obtain ⟨next, hstep, -⟩ := Except.bind_eq_ok_iff.1 hrest
    obtain ⟨hlookup, -, -⟩ := step_eq_ok_iff.1 hstep
    have hlast : disk.step directory name = .ok (lexicalStep directory name) :=
      step_eq_ok_iff.2 ⟨hlookup, hname.length_le, rfl⟩
    refine ⟨lexicalStep directory name, ?_⟩
    rw [locate, pathFault?_front hfault hname.ne_nil hname.not_zero hlength]
    dsimp only
    rw [stepsOf_of_namesFile (Path.namesFile_front p hname), Path.names_front,
      Path.names_of_isFileName hname, hstart (Path.head?_ne_of_isFileName hname), walk_append,
      hdirectory]
    change disk.walk directory [name] = _
    rw [walk_cons, hlast]
    rfl

end Disk

end DoxTriage
