import DoxTriage.CommandLine
import DoxTriage.Json
import DoxTriage.Triage

/-!
# The program

What the program does with a request, as a function from one disk to another. What it prints for
other programs is one line of JSON; a failure is printed apart from the output, so that output is
either complete or not there.

A command begins with choosing its workspace, and this can fail in one way. A directory that is
given is taken as it is, whether it exists or not; the current directory is called by its name from
the root, and it has none after it has been removed. Then the command ends before anything is read.

## Main definitions

* `Command.Failure`: what can stop a command.
* `Workspace.ofArgument`: the workspace that a directory on the command line stands for.
* `Outcome`: exit status, output and diagnostic.
* `Command.perform`, `Request.perform`: what the program does.
-/

namespace DoxTriage

/-- What can stop a command: there is no current directory to work in, or something is wrong with
the workspace. -/
inductive Command.Failure where
  | currentDirectory (fault : Disk.Fault)
  | workspace (failure : DoxTriage.Failure)
  deriving DecidableEq, Repr

/-- The wording of what stops a command. -/
def Command.Failure.message : Command.Failure → Text
  | .currentDirectory fault => "config error: cannot get cwd: ".toList ++ fault.message
  | .workspace failure => failure.message

/-- The workspace that a directory given on the command line stands for. The current directory is
named from the root if it is given by its shortest name, and for this it has to be there. -/
def Workspace.ofArgument (disk : Disk) (directory : Text) : Except Command.Failure Workspace :=
  if directory = CommandLine.here then (Workspace.ofCurrent disk).mapError .currentDirectory
  else .ok (Workspace.inDirectory disk ⟨directory⟩)

/-- The workspace that a request is about, if it is about one and there is one. -/
def Request.workspace? (disk : Disk) : Request → Option Workspace
  | .command asked =>
    asked.directory?.bind fun directory => (Workspace.ofArgument disk directory).toOption
  | .help | .version | .misuse => none

/-- What is seen of the program from outside: its exit status, its output, and the message of a
failure. -/
structure Outcome where
  status : Nat
  output : Text := []
  diagnostic : Option Text := none
  deriving DecidableEq, Repr

namespace Outcome

/-- The outcome of a failure. -/
def ofFailure (failure : Command.Failure) : Outcome :=
  { status := Summary.failureStatus, diagnostic := some failure.message }

/-- The outcome when the file system refuses to store a report. -/
def ofRefusal (refusal : Text) : Outcome :=
  { status := Summary.failureStatus, diagnostic := some ("io error: ".toList ++ refusal) }

/-- The outcome of a request that cannot be understood. -/
def ofMisuse : Outcome :=
  { status := Summary.failureStatus }

/-- Output of one JSON value on a line. -/
def ofJson (value : Json) : Outcome :=
  { status := 0, output := value.render ++ ['\n'] }

/-- The line that is printed as a diagnostic. -/
def diagnosticLine? (outcome : Outcome) : Option Text :=
  outcome.diagnostic.map fun message => (Json.ofMessage message).render ++ ['\n']

end Outcome

/-- The name and version of the program. -/
def versionText : Text := "doxwarn 0.1.0\n".toList

/-- How the program is used, in short. It stands in the place of a help text, the wording of which
nothing depends on. -/
def usageText : Text :=
  ("Usage: doxwarn <COMMAND>\n\n" ++
    "Commands:\n" ++
    "  check [BUILD_DIR] [--print]                Triage the logs and write the report\n" ++
    "  lookup FILE LINE [--build-dir BUILD_DIR]   Show the nearest declarations\n" ++
    "  rules                                      List the suppression rules\n").toList

/-- The outcome of a triage in a workspace. -/
def Triage.outcome (workspace : Workspace) (print : Bool) (triage : Triage) : Outcome where
  status := triage.summary.exitStatus
  output := (if print then triage.report else []) ++
    (Json.ofFields (triage.summary.toFields ++ [("report", .text workspace.report.text)])).render ++
    ['\n']

/-- What a command does. -/
def Command.perform (disk : Disk) : Command → Outcome × Disk
  | .check directory print =>
    match Workspace.ofArgument disk directory with
    | .error failure => (.ofFailure failure, disk)
    | .ok workspace =>
      match workspace.run disk with
      | (.error failure, disk) => (.ofFailure (.workspace failure), disk)
      | (.ok triage, disk) => (triage.outcome workspace print, disk)
  | .lookup file line directory =>
    match Workspace.ofArgument disk directory with
    | .error failure => (.ofFailure failure, disk)
    | .ok workspace =>
      match workspace.nearest disk file line with
      | .error failure => (.ofFailure (.workspace failure), disk)
      | .ok found =>
        (.ofJson (.ofFields
          [("file", .text (sourceName workspace.settings.marker file)), ("line", .number line),
           ("declarations", .array (found.map Declaration.toJson))]), disk)
  | .rules => (.ofJson (.array (Rule.all.map Rule.toJson)), disk)

/-- What the program does with a request. -/
def Request.perform (disk : Disk) : Request → Outcome × Disk
  | .command asked => asked.perform disk
  | .help => ({ status := 0, output := usageText }, disk)
  | .version => ({ status := 0, output := versionText }, disk)
  | .misuse => (.ofMisuse, disk)

end DoxTriage
