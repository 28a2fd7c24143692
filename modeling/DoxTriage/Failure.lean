import DoxTriage.Disk
import DoxTriage.Text.Quoted
import DoxTriage.Xml.Fault

/-!
# Failures

What can stop the triage. A failure says which input is bad, and it is kept as its cause: the
wording is one function of it, so two failures with one message that differ in their causes stay
two failures.

An input that is not there is told apart from one that cannot be read, because the remedy is a
different one: the documentation has to be built first.

## Main definitions

* `Failure`, `Failure.message`: causes and their wording.
* `Disk.readInput`, `Disk.writeOutput`: the text of an input, and a disk with an output written.

## Main results

* `Disk.readInput_eq_ok`: an input is read exactly as the file is.
-/

namespace DoxTriage

/-- What can stop the triage. -/
inductive Failure where
  | io (fault : Disk.Fault)
  | missingInput (input : Path)
  | malformedLine (input : Path) (lineNumber : Nat) (line : Text)
  | xml (document : Path) (fault : Xml.Fault)
  deriving DecidableEq, Repr

/-- The wording of a failure. -/
def Failure.message : Failure → Text
  | .io fault => "io error: ".toList ++ fault.message
  | .missingInput input => "missing input: ".toList ++ input.text
  | .malformedLine input lineNumber line =>
    "malformed line ".toList ++ Text.decimal lineNumber ++ " in ".toList ++ input.text ++
      ": ".toList ++ Text.quoted line
  | .xml document fault =>
    "xml error in ".toList ++ document.text ++ ": ".toList ++ fault.message

/-- The text of an input. -/
def Disk.readInput (disk : Disk) (input : Path) : Except Failure Text :=
  match disk.read input with
  | .ok text => .ok text
  | .error .notFound => .error (.missingInput input)
  | .error fault => .error (.io fault)

/-- The disk after the text of an output has been replaced. -/
def Disk.writeOutput (disk : Disk) (output : Path) (text : Text) : Except Failure Disk :=
  (disk.write output text).mapError .io

theorem Disk.readInput_eq_ok {disk : Disk} {input : Path} {text : Text} :
    disk.readInput input = .ok text ↔ disk.read input = .ok text := by
  rw [Disk.readInput]
  split <;> simp_all

end DoxTriage
