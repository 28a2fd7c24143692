import DoxTriage.Failure
import DoxTriage.ParameterCommand
import DoxTriage.Text.LowerCase
import DoxTriage.Warning.Basic

/-!
# The log of parameters without a description

A second log lists the parameter blocks of the documentation that end after the parameter's name,
one per line, as a text search prints them: `FILE:LINE:`, the line as found, which is indented with
blanks and asterisks, one of the four parameter commands, and somewhere after it the name, which is
the last word. Here the file name is as *long* as possible, since what follows it is free text.

The log has no other lines, so any other line that is not blank means that the search has changed,
and nothing is read. Whether a line can be read does not depend on which files are of interest;
only after all lines have been read are the blocks of other files left out.

## Main definitions

* `EmptyBlock.ofLine?`, `EmptyBlock.ofLog`: the block of a line, and the blocks of a log.
* `EmptyBlock.warning`: the warning about a block.
* `Warning.ofEmptyBlockLog`: the warnings of a log, for source files only.
-/

namespace DoxTriage

/-- A parameter block without a description. -/
structure EmptyBlock where
  file : Text
  line : Nat
  command : Text
  name : Text
  deriving DecidableEq, Repr

namespace EmptyBlock

/-- Characters that a block is indented with. -/
def isIndent (c : Char) : Bool :=
  isBlank c || c = '*'

/-- The line number as it is written, the command and the name, from what follows the file name. -/
def readRest : Text → Option (Text × Text × Text)
  | ':' :: s =>
    match s.takeWhile isDigit, s.dropWhile isDigit with
    | [], _ => none
    | digits, ':' :: block => do
      let (command, free) ← ParameterCommand.read? (block.dropWhile isIndent)
      let name ← Text.lastWord? free
      return (digits, command, name)
    | _, _ => none
  | _ => none

/-- The block that a line lists. The file name is not empty, and the number is a line number. -/
def ofLine? : Text → Option EmptyBlock
  | [] => none
  | c :: s => do
    let (front, digits, command, name) ← Text.lastCut? readRest s
    let line ← Text.lineNumber? digits
    return ⟨c :: front, line, command, name⟩

/-- The block of a line with its number in the log. -/
def ofNumberedLine (log : Path) (line : Text) (lineNumber : Nat) : Except Failure EmptyBlock :=
  match ofLine? line with
  | some block => .ok block
  | none => .error (.malformedLine log lineNumber line)

/-- The blocks of a log, in order. Lines are counted from one, blank ones too. -/
def ofLog (log : Path) (content : Text) : Except Failure (List EmptyBlock) :=
  (((Text.lines content).zipIdx 1).filter (! Text.isBlankLine ·.1)).mapM
    fun numbered => ofNumberedLine log numbered.1 numbered.2

/-- The block is in a file whose extension is among those listed, in whatever case. -/
def isIn (extensions : List Text) (block : EmptyBlock) : Bool :=
  match Path.extension? ⟨block.file⟩ with
  | some extension => ('.' :: Text.lowerCase extension) ∈ extensions.map Text.lowerCase
  | none => false

/-- The warning about a block. -/
def warning (block : EmptyBlock) : Warning where
  file := block.file
  line := block.line
  message :=
    "argument '".toList ++ block.name ++ "' of ".toList ++ block.command ++
      " has no description, either add one or remove ".toList ++ block.command

end EmptyBlock

/-- The warnings of a log about the blocks in source files, which are those with one of several
extensions. -/
def Warning.ofEmptyBlockLog (extensions : List Text) (log : Path) (content : Text) :
    Except Failure (List Warning) :=
  (EmptyBlock.ofLog log content).map fun blocks =>
    (blocks.filter (·.isIn extensions)).map EmptyBlock.warning

end DoxTriage
