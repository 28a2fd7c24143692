import DoxTriage.Text.Digit

/-!
# The command line

Three commands. A word that begins with a hyphen is an option, unless it is the hyphen alone or
comes after the word `--`. Words are taken from the left, and what decides first counts: a request
for help or for the version ends the reading, and so does a word that cannot stand where it stands.

## Main definitions

* `Command`, `Request`: what a command line asks for.
* `Request.ofArguments`: the request that the words of a command line make.
-/

namespace DoxTriage

/-- What can be done. Directories are as given, or `.` if none is given. -/
inductive Command where
  | check (directory : Text) (print : Bool)
  | lookup (file : Text) (line : Nat) (directory : Text)
  | rules
  deriving DecidableEq, Repr

/-- The directory that a command is about. -/
def Command.directory? : Command → Option Text
  | .check directory _ | .lookup _ _ directory => some directory
  | .rules => none

/-- What a command line asks for. -/
inductive Request where
  | command (command : Command)
  | help
  | version
  | misuse
  deriving DecidableEq, Repr

namespace CommandLine

/-- A word of a command line by its look. -/
inductive Word where
  | separator
  | long (name : Text) (value : Option Text)
  | short (letter : Char)
  | plain (word : Text)
  deriving DecidableEq, Repr

/-- The look of a word. -/
def Word.of : Text → Word
  | ['-', '-'] => .separator
  | '-' :: '-' :: s => .long (s.takeWhile (· ≠ '=')) (s.dropWhile (· ≠ '=')).tail?
  | '-' :: c :: _ => .short c
  | word => .plain word

/-- How the next word of a command is taken: by its look, as the directory that was announced, or as
a plain word whatever its look. -/
inductive Stage where
  | byLook
  | directory
  | plain
  deriving DecidableEq, Repr

/-- The words of a command that have been taken so far. -/
structure Taken where
  plain : List Text := []
  print : Bool := false
  directory : Option Text := none
  stage : Stage := .byLook
  deriving DecidableEq, Repr

/-- Why the words of a command are not taken to their end. -/
inductive Stop where
  | help
  | misuse
  deriving DecidableEq, Repr

/-- The options of a command and its plain words, each with what it has to be. -/
structure Form where
  plain : List (Text → Bool)
  print : Bool := false
  directory : Bool := false

/-- The line number that a word of a command line writes. A minus may stand before zeros: the number
is read with a sign, and its range is looked at afterwards. -/
def lineOf? : Text → Option Nat
  | '-' :: zeros => if zeros ≠ [] ∧ zeros.all (· = '0') then some 0 else none
  | word => Text.lineNumber? word

/-- Take a plain word. It is looked at as soon as it is taken. -/
def takePlain (form : Form) (taken : Taken) (word : Text) : Except Stop Taken :=
  match form.plain[taken.plain.length]? with
  | some isFit =>
    if isFit word then .ok { taken with plain := taken.plain ++ [word] } else .error .misuse
  | none => .error .misuse

/-- Take an option. An option is taken once, and only the one that names a directory has a value. -/
def takeOption (form : Form) (taken : Taken) (name : Text) (value : Option Text) :
    Except Stop Taken :=
  if name = "help".toList ∧ value = none then .error .help
  else if name = "print".toList ∧ form.print ∧ ! taken.print ∧ value = none then
    .ok { taken with print := true }
  else if name = "build-dir".toList ∧ form.directory ∧ taken.directory = none then
    match value with
    | some directory => .ok { taken with directory := some directory }
    | none => .ok { taken with stage := .directory }
  else .error .misuse

/-- Take a word. -/
def takeWord (form : Form) (taken : Taken) (word : Text) : Except Stop Taken :=
  match taken.stage, Word.of word with
  | .plain, _ => takePlain form taken word
  | .directory, .plain directory =>
    .ok { taken with directory := some directory, stage := .byLook }
  | .directory, _ => .error .misuse
  | .byLook, .separator => .ok { taken with stage := .plain }
  | .byLook, .long name value => takeOption form taken name value
  | .byLook, .short letter => .error (if letter = 'h' then .help else .misuse)
  | .byLook, .plain word => takePlain form taken word

/-- Take the words of a command. A directory that was announced has to be given. -/
def take (form : Form) (words : List Text) : Except Stop Taken :=
  match words.foldlM (takeWord form) {} with
  | .error stop => .error stop
  | .ok taken => if taken.stage = .directory then .error .misuse else .ok taken

/-- The directory that is meant when none is given. -/
def here : Text := ".".toList

/-- The command that the words taken make. -/
def checkOf (taken : Taken) : Option Command :=
  some (.check (taken.plain.headD here) taken.print)

/-- The command that the words taken make. A file and a line have to be among them. -/
def lookupOf (taken : Taken) : Option Command :=
  match taken.plain with
  | [file, line] =>
    (lineOf? line).map fun line => .lookup file line (taken.directory.getD here)
  | _ => none

/-- The request that the words after the name of a command make. -/
def requestOf (form : Form) (commandOf : Taken → Option Command) (words : List Text) : Request :=
  match take form words with
  | .error .help => .help
  | .error .misuse => .misuse
  | .ok taken => ((commandOf taken).map .command).getD .misuse

/-- Whatever a word is. -/
def anyWord (_ : Text) : Bool :=
  true

/-- A line number. -/
def isLine (word : Text) : Bool :=
  (lineOf? word).isSome

/-- The commands, each with its form. -/
def commands : List (Text × (List Text → Request)) :=
  [("check".toList, requestOf { plain := [anyWord], print := true } checkOf),
   ("lookup".toList, requestOf { plain := [anyWord, isLine], directory := true } lookupOf),
   ("rules".toList, requestOf { plain := [] } fun _ => some .rules)]

/-- The request that begins with a word that is no option. -/
def commandRequest (name : Text) (words : List Text) : Request :=
  if name = "help".toList then
    if words = [] ∨ words = [name] ∨ commands.any (words = [·.1]) then .help else .misuse
  else
    match commands.lookup name with
    | some request => request words
    | none => .misuse

end CommandLine

/-- The request that the words of a command line make. -/
def Request.ofArguments : List Text → Request
  | [] => .misuse
  | word :: words =>
    match CommandLine.Word.of word with
    | .separator => .misuse
    | .plain name => CommandLine.commandRequest name words
    | .short letter => if letter = 'h' then .help else if letter = 'V' then .version else .misuse
    | .long name value =>
      if value ≠ none then .misuse
      else if name = "help".toList then .help
      else if name = "version".toList then .version
      else .misuse

end DoxTriage
