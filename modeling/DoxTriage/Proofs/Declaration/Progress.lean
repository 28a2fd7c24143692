import DoxTriage.Proofs.Declaration.Members
import DoxTriage.Proofs.FirstFailure
import Mathlib.Data.List.Induction

/-!
# What is going on while a document is read

A document is read event by event, and what has been read so far is a `Progress`: the declarations
that have been found, and perhaps a member in hand that takes in texts or passes them over. All of
this can be read off the events that have come. Declarations are never lost again, and there are at
most as many as members have ended. A member is in hand if one has begun and none has ended since,
and it takes in texts if a parameter list has begun since it began and has not ended.

The last two are of one form, *something has started and nothing has stopped it*, and this is a
matter of the last event and of what was going on before it (`Progress.ongoing_concat`).

## Main definitions

* `Progress.readsParameters`: texts are taken in.
* `Progress.Ongoing`: something has started and nothing has stopped it.
* `Progress.InMember`, `Progress.InParameters`: events that break off in a member, and in one of its
  parameter lists.

## Main results

* `Progress.found_of_foldlM`: what has been found stays.
* `Progress.exists_foldlM_rawEvent_iff`: when a text can be taken in.
* `Progress.going_on_of_foldlM`: what is going on can be read off the events.
-/

namespace DoxTriage

namespace Progress

variable {marker file : Text} {progress next : Progress} {event : Xml.Event}
  {events : List Xml.Event}

/-- What one event can do: a member begins, or a member ends, or the event is left to the member in
hand, if there is one. -/
theorem after_cases (h : progress.after marker file event = .ok next) :
    beginsMember event = true ∧ next = { progress with member := some {} } ∨
      event = .closing Member.element ∧ next = progress.endMember ∨
      (¬ beginsMember event = true ∧ event ≠ .closing Member.element) ∧
        (progress.member = none ∧ next = progress ∨
          ∃ member later, progress.member = some member ∧
            member.after marker file event = .ok later ∧
            next = { progress with member := some later }) := by
  rw [after] at h
  split at h
  · next hbegins => exact .inl ⟨hbegins, (Except.ok.inj h).symm⟩
  next hbegins =>
  split at h
  · next hend => exact .inr (.inl ⟨hend, (Except.ok.inj h).symm⟩)
  next hend =>
  refine .inr (.inr ⟨⟨hbegins, hend⟩, ?_⟩)
  split at h
  · next hnone => exact .inl ⟨hnone, (Except.ok.inj h).symm⟩
  · next member hmember =>
    obtain ⟨later, hlater, rfl⟩ := Except.map_eq_ok_iff.1 h
    exact .inr ⟨member, later, hmember, hlater, rfl⟩

/-! ### What has been found -/

/-- One event adds one declaration at most, and only at the end of a member. -/
theorem found_of_after (h : progress.after marker file event = .ok next) :
    ∃ more, next.found = more ++ progress.found ∧
      more.length ≤ [event].count (.closing Member.element) := by
  rcases after_cases h with ⟨-, rfl⟩ | ⟨hend, rfl⟩ | ⟨-, ⟨-, rfl⟩ | ⟨member, later, -, -, rfl⟩⟩
  · exact ⟨[], rfl, Nat.zero_le _⟩
  · refine ⟨_, rfl, ?_⟩
    rw [hend, List.count_singleton_self]
    cases progress.member.bind Member.declaration? <;> simp
  · exact ⟨[], rfl, Nat.zero_le _⟩
  · exact ⟨[], rfl, Nat.zero_le _⟩

/-- Declarations that have been found stay, and each end of a member adds one at most. -/
theorem found_of_foldlM (h : events.foldlM (after marker file) progress = .ok next) :
    ∃ more, next.found = more ++ progress.found ∧
      more.length ≤ events.count (.closing Member.element) := by
  induction events generalizing progress with
  | nil =>
    cases h
    exact ⟨[], rfl, Nat.zero_le _⟩
  | cons event events ih =>
    rw [List.foldlM_cons] at h
    obtain ⟨middle, hmiddle, hlater⟩ := Except.bind_eq_ok_iff.1 h
    obtain ⟨one, hone, hle⟩ := found_of_after hmiddle
    obtain ⟨more, hmore, hall⟩ := ih hlater
    refine ⟨more ++ one, by rw [hmore, hone, List.append_assoc], ?_⟩
    have hcount : (event :: events).count (.closing Member.element) =
        [event].count (.closing Member.element) + events.count (.closing Member.element) := by
      rw [← List.count_append, List.singleton_append]
    rw [List.length_append]
    omega

/-! ### Where texts are looked at -/

/-- A member is in hand, and it takes in texts. -/
def readsParameters (progress : Progress) : Bool :=
  progress.member.any Member.inParameters

/-- A text in front of all members is passed over. -/
theorem foldlM_rawEvent_outside (raw : Text) (events : List Xml.Event) :
    (Xml.rawEvent raw ++ events).foldlM (after marker file) {} =
      events.foldlM (after marker file) {} := by
  rw [Xml.rawEvent]
  split
  · rfl
  · exact foldlM_cons_of_after (after_outside rfl []) events

/-- A text can be taken in unless it is looked at and cannot be unescaped. -/
theorem exists_foldlM_rawEvent_iff (progress : Progress) (raw : Text) :
    (∃ next, (Xml.rawEvent raw).foldlM (after marker file) progress = .ok next) ↔
      (progress.readsParameters = true → ∃ s, Xml.unescape raw = .ok s) := by
  rw [Xml.rawEvent]
  split
  · next h =>
    subst h
    exact iff_of_true ⟨progress, rfl⟩ fun _ => ⟨[], rfl⟩
  · have hone : [Xml.Event.text raw].foldlM (after marker file) progress =
        progress.after marker file (.text raw) := by
      rw [List.foldlM_cons]
      cases progress.after marker file (.text raw) <;> rfl
    have hbegins : beginsMember (.text raw) = false := rfl
    rw [hone, after, hbegins, if_neg Bool.false_ne_true, if_neg Xml.Event.noConfusion,
      readsParameters]
    cases progress.member with
    | none => exact iff_of_true ⟨_, rfl⟩ Bool.noConfusion
    | some member =>
      simp only [Option.any_some, Member.after]
      cases member.inParameters with
      | false => exact iff_of_true ⟨_, rfl⟩ Bool.noConfusion
      | true =>
        cases Xml.unescape raw with
        | error fault =>
          refine iff_of_false (not_exists.2 fun _ h => by cases h) fun h => ?_
          obtain ⟨s, hs⟩ := h rfl
          cases hs
        | ok s => exact iff_of_true ⟨_, rfl⟩ fun _ => ⟨s, rfl⟩

/-! ### What is going on -/

/-- Some event starts something, and no event after it stops it. -/
def Ongoing (starts stops : Xml.Event → Prop) (events : List Xml.Event) : Prop :=
  ∃ before event after, events = before ++ event :: after ∧ starts event ∧
    ∀ later ∈ after, ¬ stops later

theorem not_ongoing_nil {starts stops : Xml.Event → Prop} : ¬ Ongoing starts stops [] := by
  rintro ⟨before, event, after, h, -⟩
  simp at h

theorem ongoing_concat {starts stops : Xml.Event → Prop} :
    Ongoing starts stops (events ++ [event]) ↔
      starts event ∨ Ongoing starts stops events ∧ ¬ stops event := by
  constructor
  · rintro ⟨before, first, after, h, hstarts, hstops⟩
    rcases List.eq_nil_or_concat' after with rfl | ⟨others, last, rfl⟩
    · obtain ⟨-, heq⟩ := List.append_inj' h rfl
      cases heq
      exact .inl hstarts
    · rw [← List.cons_append, ← List.append_assoc] at h
      obtain ⟨rfl, heq⟩ := List.append_inj' h rfl
      cases heq
      obtain ⟨hothers, hlast⟩ := List.forall_mem_append.1 hstops
      exact .inr ⟨⟨before, first, others, rfl, hstarts, hothers⟩,
        hlast _ (List.mem_singleton.2 rfl)⟩
  · rintro (hstarts | ⟨⟨before, first, after, rfl, hstarts, hstops⟩, hlast⟩)
    · exact ⟨events, event, [], rfl, hstarts, List.forall_mem_nil _⟩
    · refine ⟨before, first, after ++ [event], by simp, hstarts, ?_⟩
      exact List.forall_mem_append.2 ⟨hstops, List.forall_mem_singleton.2 hlast⟩

/-- A tag begins a parameter list. -/
def beginsParameters : Xml.Event → Bool
  | .opening tag => tag.name = Member.parametersElement
  | _ => false

/-- The events break off in a member. -/
def InMember (events : List Xml.Event) : Prop :=
  Ongoing (beginsMember · = true) (· = .closing Member.element) events

/-- The events break off in a parameter list that has begun in the same member. -/
def InParameters (events : List Xml.Event) : Prop :=
  InMember events ∧ Ongoing (beginsParameters · = true)
    (fun event => beginsMember event = true ∨ event = .closing Member.element ∨
      event = .closing Member.parametersElement) events

end Progress

namespace Member

variable {marker file : Text} {member next : Member} {event : Xml.Event}

theorem inParameters_of_atPlace {tag : Xml.Tag} (h : member.atPlace marker file tag = .ok next) :
    next.inParameters = member.inParameters := by
  rw [atPlace] at h
  split at h
  · cases h
    rfl
  · obtain ⟨place, -, rfl⟩ := Except.map_eq_ok_iff.1 h
    rfl

/-- A member takes in texts from the begin of a parameter list to its end. -/
theorem inParameters_of_after (h : member.after marker file event = .ok next) :
    next.inParameters = true ↔ Progress.beginsParameters event = true ∨
      member.inParameters = true ∧ event ≠ .closing parametersElement := by
  cases event with
  | opening tag =>
    simp only [after] at h
    rw [Progress.beginsParameters, decide_eq_true_eq]
    by_cases hplace : tag.name = Place.element
    · have hne : tag.name ≠ parametersElement := by
        rw [hplace]
        decide
      rw [if_pos hplace] at h
      simp [inParameters_of_atPlace h, hne]
    · rw [if_neg hplace] at h
      by_cases hname : tag.name = parametersElement
      · rw [if_pos hname] at h
        cases h
        exact iff_of_true rfl (.inl hname)
      · rw [if_neg hname] at h
        cases h
        simp [hname]
  | empty tag =>
    have hkept : next.inParameters = member.inParameters := by
      simp only [after] at h
      split at h
      · exact inParameters_of_atPlace h
      · cases h
        rfl
    simp [hkept, Progress.beginsParameters]
  | closing name =>
    rw [after_closing] at h
    cases h
    simp [leave, Progress.beginsParameters]
  | text raw =>
    have hkept : next.inParameters = member.inParameters := by
      simp only [after] at h
      split at h
      · obtain ⟨s, -, rfl⟩ := Except.map_eq_ok_iff.1 h
        rfl
      · cases h
        rfl
    simp [hkept, Progress.beginsParameters]
  | verbatim raw =>
    cases h
    have hkept : (if member.inParameters = true then member.append raw else member).inParameters =
        member.inParameters := by
      split <;> rfl
    simp [hkept, Progress.beginsParameters]
  | aside =>
    cases h
    simp [Progress.beginsParameters]

end Member

namespace Progress

variable {marker file : Text} {progress next : Progress} {event : Xml.Event}
  {events : List Xml.Event}

theorem isSome_of_after (h : progress.after marker file event = .ok next) :
    next.member.isSome = true ↔ beginsMember event = true ∨
      progress.member.isSome = true ∧ event ≠ .closing Member.element := by
  rcases after_cases h with ⟨hbegins, rfl⟩ | ⟨rfl, rfl⟩ | ⟨⟨hbegins, hend⟩, hkept⟩
  · exact iff_of_true rfl (.inl hbegins)
  · exact iff_of_false Bool.false_ne_true fun h => h.elim Bool.noConfusion fun h => h.2 rfl
  · rcases hkept with ⟨hnone, rfl⟩ | ⟨member, later, hmember, -, rfl⟩
    · simp [hnone, hbegins]
    · simp [hmember, hend]

theorem not_beginsParameters_of_beginsMember (h : beginsMember event = true) :
    ¬ beginsParameters event = true := by
  cases event with
  | opening tag =>
    have hname : tag.name = Member.element := of_decide_eq_true h
    rw [beginsParameters, hname]
    decide
  | empty tag | closing name | text raw | verbatim raw | aside => cases h

theorem readsParameters_of_after (h : progress.after marker file event = .ok next) :
    next.readsParameters = true ↔
      progress.member.isSome = true ∧ beginsParameters event = true ∨
        progress.readsParameters = true ∧ ¬ (beginsMember event = true ∨
          event = .closing Member.element ∨ event = .closing Member.parametersElement) := by
  rcases after_cases h with ⟨hbegins, rfl⟩ | ⟨rfl, rfl⟩ | ⟨⟨hbegins, hend⟩, hkept⟩
  · refine iff_of_false Bool.false_ne_true ?_
    rintro (⟨-, hparameters⟩ | ⟨-, hnone⟩)
    · exact not_beginsParameters_of_beginsMember hbegins hparameters
    · exact hnone (.inl hbegins)
  · refine iff_of_false Bool.false_ne_true ?_
    rintro (⟨-, hparameters⟩ | ⟨-, hnone⟩)
    · cases hparameters
    · exact hnone (.inr (.inl rfl))
  · rcases hkept with ⟨hnone, rfl⟩ | ⟨member, later, hmember, hlater, rfl⟩
    · simp [readsParameters, hnone]
    · have hin := Member.inParameters_of_after hlater
      simp [readsParameters, hmember, hbegins, hend, hin]

/-- **What is going on after some events** can be read off them: whether there is a member in hand,
and whether it takes in texts. The induction is on the events, with the last one split off. -/
theorem going_on_of_foldlM (h : events.foldlM (after marker file) {} = .ok progress) :
    (progress.member.isSome = true ↔ InMember events) ∧
      (progress.readsParameters = true ↔ InParameters events) := by
  induction events using List.reverseRecOn generalizing progress with
  | nil =>
    cases h
    exact ⟨iff_of_false Bool.false_ne_true not_ongoing_nil,
      iff_of_false Bool.false_ne_true fun h => not_ongoing_nil h.1⟩
  | append_singleton events event ih =>
    rw [List.foldlM_append] at h
    obtain ⟨before, hbefore, hlast⟩ := Except.bind_eq_ok_iff.1 h
    rw [List.foldlM_cons] at hlast
    obtain ⟨next, hnext, hnone⟩ := Except.bind_eq_ok_iff.1 hlast
    cases hnone
    obtain ⟨hmember, hparameters⟩ := ih hbefore
    rw [isSome_of_after hnext, readsParameters_of_after hnext, hmember, hparameters, InParameters,
      InParameters, InMember, InMember, ongoing_concat, ongoing_concat]
    refine ⟨Iff.rfl, ?_⟩
    have hbegins : beginsMember event = true → ¬ beginsParameters event = true :=
      not_beginsParameters_of_beginsMember
    have hends : beginsParameters event = true → event ≠ .closing Member.element := by
      rintro hparameters rfl
      cases hparameters
    grind

end Progress

end DoxTriage
