import DoxTriage.Text.Digit
import DoxTriage.Toml.Reading

/-!
# Quoted text in TOML

Text stands between quotes in four ways. Between double quotes there are escapes, between
apostrophes there are none; and three quotes instead of one allow several lines. The end of the line
right after three quotes is not part of the text, and up to two quotes may stand directly before the
three that end it.

A quoted text is read one character at a time, and what a character does depends on how far an
escape has been read. This dependence is `Step`, which looks at what follows but does not read it.

## Main definitions

* `Toml.Escape`, `Toml.Step`: how far an escape has been read, and what a character does.
* `Toml.readLine`: a text of one line, between either kind of quotes.
* `Toml.readText`: a text of any of the four kinds.
-/

namespace DoxTriage

namespace Toml

/-- How far an escape has been read: not begun; its backslash; some of its digits, with how many are
to come and the value so far; or the blanks after a backslash at the end of a line, with whether the
line has ended. -/
inductive Escape where
  | outside
  | begun
  | digits (left value : Nat)
  | gap (lineEnded : Bool)
  deriving DecidableEq, Repr

/-- What a character of a quoted text does: it goes on with some letters, it ends the text with some
letters and a rest, or it must not stand there. -/
inductive Step where
  | goesOn (letters : Text) (escape : Escape)
  | ends (letters rest : Text)
  | fails
  deriving DecidableEq, Repr

/-- Read a quoted text step by step. A step is given the character and what follows it. -/
def readSteps (step : Escape → Char → Text → Step) : Escape → Reader Text
  | _, [] => none
  | escape, c :: s =>
    match step escape c s with
    | .goesOn letters escape =>
      (readSteps step escape s).map fun cut => (letters ++ cut.1, cut.2)
    | .ends letters rest => some (letters, rest)
    | .fails => none

/-! ### Ends of texts -/

/-- The step of the three quotes that end a text of several lines, if they stand there: quotes that
follow directly, two at most, belong to the text. -/
def closing? (quote : Char) (s : Text) : Option Step :=
  ([quote, quote, quote].isPrefixOf? s).map fun rest =>
    let letters := (rest.take 2).takeWhile (· = quote)
    .ends letters (rest.drop letters.length)

/-- A character that is the end of a line, or the first of two that are. -/
def endsLine (c : Char) (s : Text) : Bool :=
  c = '\n' || (c = '\r' && s.head? = some '\n')

/-- The step of a character without a backslash. -/
def plainStep (several : Bool) (quote c : Char) (s : Text) : Step :=
  if several then
    match closing? quote (c :: s) with
    | some step => step
    | none => if isPlain c || endsLine c s then .goesOn [c] .outside else .fails
  else if c = quote then .ends [] s
  else if isPlain c then .goesOn [c] .outside
  else .fails

/-! ### Escapes -/

/-- The character that an escape of one letter stands for. -/
def letterEscape? : Char → Option Char
  | 'b' => some '\x08'
  | 't' => some '\t'
  | 'n' => some '\n'
  | 'f' => some '\x0C'
  | 'r' => some '\r'
  | 'e' => some '\x1B'
  | '"' => some '"'
  | '\\' => some '\\'
  | _ => none

/-- The number of digits of an escape that gives a character by its number. -/
def escapeDigits? : Char → Option Nat
  | 'x' => some 2
  | 'u' => some 4
  | 'U' => some 8
  | _ => none

/-- The step of a character right after a backslash. In a text of several lines a backslash may end
the line, and then it takes all blanks and ends of lines after it along. -/
def begunStep (several : Bool) (c : Char) (s : Text) : Step :=
  match letterEscape? c, escapeDigits? c with
  | some character, _ => .goesOn [character] .outside
  | none, some count => .goesOn [] (.digits count 0)
  | none, none =>
    if several && (isBlankChar c || endsLine c s) then .goesOn [] (.gap (c = '\n')) else .fails

/-- The step of a digit of an escape. -/
def digitStep (left value : Nat) (c : Char) : Step :=
  match hexDigit? c with
  | none => .fails
  | some digit =>
    let number := value * 16 + digit
    if 1 < left then .goesOn [] (.digits (left - 1) number)
    else if number.isValidChar then .goesOn [Char.ofNat number] .outside
    else .fails

/-- The step of a character of a text with escapes. -/
def escapedStep (several : Bool) (escape : Escape) (c : Char) (s : Text) : Step :=
  match escape with
  | .begun => begunStep several c s
  | .digits left value => digitStep left value c
  | .gap lineEnded =>
    if isBlankChar c || endsLine c s then .goesOn [] (.gap (lineEnded || c = '\n'))
    else if ! lineEnded then .fails
    else if c = '\\' then .goesOn [] .begun
    else plainStep several '"' c s
  | .outside => if c = '\\' then .goesOn [] .begun else plainStep several '"' c s

/-! ### The four kinds -/

/-- Read up to the quotes that end a text with escapes. -/
def readEscaped (several : Bool) : Reader Text :=
  readSteps (escapedStep several) .outside

/-- Read up to the quotes that end a text without escapes. -/
def readLiteral (several : Bool) : Reader Text :=
  readSteps (fun _ c s => plainStep several '\'' c s) .outside

/-- Read a text of one line. -/
def readLine : Reader Text
  | '"' :: s => readEscaped false s
  | '\'' :: s => readLiteral false s
  | _ => none

/-- Skip the end of the line right after three quotes. -/
def skipFirstLineEnd (s : Text) : Text :=
  (skipLineEnd? s).getD s

/-- Read a text of one or several lines. -/
def readText (s : Text) : Option (Text × Text) :=
  match skip? "\"\"\"" s, skip? "'''" s with
  | some rest, _ => readEscaped true (skipFirstLineEnd rest)
  | none, some rest => readLiteral true (skipFirstLineEnd rest)
  | none, none => readLine s

end Toml

end DoxTriage
