import DoxTriage.Proofs.Json
import DoxTriage.Proofs.Triage.Run
import DoxTriage.Program

/-!
# What a check tells

A check ends in one of three states, and a build has nothing but the exit status to tell them apart.
So the status has to say how the run went: that it failed, that nothing is left, or that something
is left. What a caller finds in the output and on the disk must fit. A check that failed has printed
nothing and changed nothing, and a check that did not has printed one line of JSON at the end, and
its report is in its place.

One check is not the matter of a run. If the current directory is asked for and has been removed,
then there is no workspace to run in, and the check fails with a message of its own.

## Main definitions

* `CommandLine.checkWords`: the words that ask for a check.
* `Triage.fields`: what the line of JSON says.
* `Outcome.Tells`: an outcome fits a run.

## Main results

* `Request.ofArguments_checkWords`: every directory can be asked for.
* `Workspace.ofArgument_eq`: when there is a workspace, and which one it is.
* `Request.check_tells`: the outcome of a check fits its run.
-/

namespace DoxTriage

/-- The words that ask for a check in a directory, whatever the directory looks like. -/
def CommandLine.checkWords (directory : Text) (print : Bool) : List Text :=
  "check".toList :: ((if print then ["--print".toList] else []) ++ ["--".toList, directory])

namespace Request

theorem ofArguments_checkWords (directory : Text) (print : Bool) :
    ofArguments (CommandLine.checkWords directory print) = .command (.check directory print) := by
  cases print <;> rfl

end Request

/-- What the last line of output says about a triage. -/
def Triage.fields (workspace : Workspace) (triage : Triage) : List (Text × Json) :=
  [("kept".toList, .number triage.summary.kept), ("total".toList, .number triage.summary.total),
   ("unique".toList, .number triage.summary.unique),
   ("ignored".toList, .number triage.summary.ignored),
   ("report".toList, .text workspace.report.text)]

/-- The outcome of a check, and the disk after it, fit how the run in the workspace went. -/
structure Outcome.Tells (disk : Disk) (workspace : Workspace) (print : Bool)
    (result : Except Failure Triage) (outcome : Outcome) (after : Disk) : Prop where
  status_eq_two_iff : outcome.status = 2 ↔ ∃ failure, result = .error failure
  status_eq_zero_iff :
    outcome.status = 0 ↔ ∃ triage, result = .ok triage ∧ triage.summary.kept = 0
  status_eq_one_iff :
    outcome.status = 1 ↔ ∃ triage, result = .ok triage ∧ 0 < triage.summary.kept
  /-- A run that failed has left no trace but its diagnostic. -/
  of_error : ∀ failure, result = .error failure →
    outcome.output = [] ∧ outcome.diagnostic = some failure.message ∧ after = disk
  /-- A run that succeeded has written its report, and one line of output says so. -/
  of_ok : ∀ triage, result = .ok triage →
    after.read workspace.report = .ok triage.report ∧ outcome.diagnostic = none ∧
      ∃ line, outcome.output = (if print then triage.report else []) ++ line ++ ['\n'] ∧
        '\n' ∉ line ∧ Json.decode? line = some (.object (triage.fields workspace))
  /-- Nothing is left if and only if there is nothing in the report. -/
  of_status_eq_zero : outcome.status = 0 → after.read workspace.report = .ok []
  of_status_eq_one : outcome.status = 1 →
    ∃ report, after.read workspace.report = .ok report ∧ report ≠ []

theorem Summary.exitStatus_eq_one {summary : Summary} :
    summary.exitStatus = 1 ↔ 0 < summary.kept := by
  rw [exitStatus]
  split <;> omega

namespace Triage

variable {disk : Disk} {workspace : Workspace} {triage : Triage}

/-- The report of a triage is empty if and only if it leaves nothing. -/
theorem report_eq_nil_iff (h : workspace.triage disk = .ok triage) :
    triage.report = [] ↔ triage.summary.kept = 0 := by
  obtain ⟨_, -, _, -, _, -, _, -, kept, hkept, rfl⟩ := Workspace.triage_eq_ok_iff.1 h
  exact (accounts_of_retain rfl hkept).report_eq_nil_iff

/-- The last line of output says what it should, and is one line. -/
theorem exists_line (workspace : Workspace) (print : Bool) (triage : Triage) :
    ∃ line, (triage.outcome workspace print).output =
        (if print then triage.report else []) ++ line ++ ['\n'] ∧
      '\n' ∉ line ∧ Json.decode? line = some (.object (triage.fields workspace)) :=
  ⟨_, rfl, Json.not_mem_render (by decide) _, Json.decode?_render _⟩

end Triage

namespace Outcome

variable {disk after : Disk} {workspace : Workspace} {print : Bool}

theorem tells_of_run_eq_error {failure : Failure}
    (h : workspace.run disk = (.error failure, after)) :
    Tells disk workspace print (.error failure) (.ofFailure (.workspace failure)) after := by
  have hstatus : (ofFailure (.workspace failure)).status = 2 := rfl
  have hnot : ∀ triage, (Except.error failure : Except Failure Triage) ≠ .ok triage := by
    rintro _ ⟨⟩
  refine
    { status_eq_two_iff := iff_of_true hstatus ⟨failure, rfl⟩
      status_eq_zero_iff := iff_of_false (by omega) fun ⟨triage, hok, _⟩ => hnot triage hok
      status_eq_one_iff := iff_of_false (by omega) fun ⟨triage, hok, _⟩ => hnot triage hok
      of_error := ?_
      of_ok := fun triage hok => absurd hok (hnot triage)
      of_status_eq_zero := by omega
      of_status_eq_one := by omega }
  rintro _ ⟨⟩
  exact ⟨rfl, rfl, (Workspace.run_eq_error_iff.1 h).1⟩

theorem tells_of_run_eq_ok {triage : Triage} (h : workspace.run disk = (.ok triage, after)) :
    Tells disk workspace print (.ok triage) (triage.outcome workspace print) after := by
  obtain ⟨htriage, hwrite⟩ := Workspace.run_eq_ok_iff.1 h
  obtain ⟨location, hwritten⟩ := Disk.rewritten_of_write hwrite
  have hread := hwritten.read_eq
  have hempty := Triage.report_eq_nil_iff htriage
  have hzero : (triage.outcome workspace print).status = 0 ↔ triage.summary.kept = 0 :=
    Summary.exitStatus_eq_zero
  have hone : (triage.outcome workspace print).status = 1 ↔ 0 < triage.summary.kept :=
    Summary.exitStatus_eq_one
  have hlt : (triage.outcome workspace print).status < 2 :=
    triage.summary.exitStatus_lt_failureStatus
  refine
    { status_eq_two_iff := iff_of_false (by omega) fun ⟨_, herror⟩ => by cases herror
      status_eq_zero_iff := ?_
      status_eq_one_iff := ?_
      of_error := by rintro _ ⟨⟩
      of_ok := ?_
      of_status_eq_zero := ?_
      of_status_eq_one := ?_ }
  · rw [hzero]
    simp
  · rw [hone]
    simp
  · rintro _ ⟨⟩
    exact ⟨hread, rfl, Triage.exists_line workspace print triage⟩
  · intro hstatus
    rw [hread, hempty.2 (hzero.1 hstatus)]
  · intro hstatus
    exact ⟨triage.report, hread, fun hnil => (hone.1 hstatus).ne' (hempty.1 hnil)⟩

end Outcome

/-- A directory stands for a workspace unless it is the current one and has been removed. -/
theorem Workspace.ofArgument_eq (disk : Disk) (directory : Text) :
    ofArgument disk directory =
      if directory = CommandLine.here ∧ disk.lookup disk.current ≠ some .directory then
        .error (.currentDirectory .notFound)
      else .ok (if directory = CommandLine.here then current disk
        else inDirectory disk ⟨directory⟩) := by
  rw [ofArgument, ofCurrent, Disk.currentFault?]
  by_cases hhere : directory = CommandLine.here
  · by_cases hcurrent : disk.lookup disk.current = some .directory
    · simp [hhere, hcurrent, Except.mapError]
    · simp [hhere, hcurrent, Except.mapError]
  · simp [hhere]

namespace Command

variable {disk : Disk} {directory : Text}

/-- Without a workspace a check ends before anything is read. -/
theorem perform_check_of_error {failure : Command.Failure}
    (h : Workspace.ofArgument disk directory = .error failure) (print : Bool) :
    perform disk (.check directory print) = (.ofFailure failure, disk) := by
  rw [perform, h]

/-- A check in a workspace tells how the run in it went. -/
theorem tells_of_ofArgument {workspace : Workspace}
    (h : Workspace.ofArgument disk directory = .ok workspace) (print : Bool) :
    Outcome.Tells disk workspace print (workspace.run disk).1
      (perform disk (.check directory print)).1 (perform disk (.check directory print)).2 := by
  cases hrun : workspace.run disk with
  | mk result after =>
    cases result with
    | error failure =>
      have hperform : perform disk (.check directory print) =
          (.ofFailure (.workspace failure), after) := by simp only [perform, h, hrun]
      rw [hperform]
      exact Outcome.tells_of_run_eq_error hrun
    | ok triage =>
      have hperform : perform disk (.check directory print) =
          (triage.outcome workspace print, after) := by simp only [perform, h, hrun]
      rw [hperform]
      exact Outcome.tells_of_run_eq_ok hrun

end Command

/-- **What a check tells.** Its outcome fits the run in the workspace of its directory, which is the
current one, named from the root, if the directory is a dot. A current directory that has been
removed cannot be named: then nothing is run and nothing changes, and the check fails with a message
that says so. -/
theorem Request.check_tells (disk : Disk) (directory : Text) (print : Bool) :
    let performed := (Request.ofArguments (CommandLine.checkWords directory print)).perform disk
    if directory = ".".toList ∧ disk.lookup disk.current ≠ some .directory then
      performed = ({
        status := 2
        output := []
        diagnostic := some
          "config error: cannot get cwd: No such file or directory (os error 2)".toList }, disk)
    else
      let workspace := if directory = ".".toList then Workspace.current disk
        else Workspace.inDirectory disk ⟨directory⟩
      Outcome.Tells disk workspace print (workspace.run disk).1 performed.1 performed.2 := by
  intro performed
  have hperformed : performed = Command.perform disk (.check directory print) :=
    congrArg (Request.perform disk) (ofArguments_checkWords directory print)
  have hworkspace := Workspace.ofArgument_eq disk directory
  rw [hperformed]
  split
  · next hgone => exact Command.perform_check_of_error (hworkspace.trans (if_pos hgone)) print
  · next hthere => exact Command.tells_of_ofArgument (hworkspace.trans (if_neg hthere)) print

/-- After the current directory has been removed, a check of it cannot name it, and a check of a
directory below it finds no log there. -/
example :
    let disk : Disk := ⟨fun _ => none, ["gone".toList]⟩
    let outcomeOf (words : List Text) : Outcome := ((Request.ofArguments words).perform disk).1
    (outcomeOf ["check".toList]).diagnosticLine? = some
        ("\x7b\"error\":\"config error: cannot get cwd: " ++
          "No such file or directory (os error 2)\"\x7d\n").toList ∧
      (outcomeOf ["check".toList, "b".toList]).diagnostic =
        some "missing input: b/doc/doxygen/class_methods.log".toList := by
  decide +kernel

end DoxTriage
