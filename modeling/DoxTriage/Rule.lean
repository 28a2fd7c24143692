import DoxTriage.ParameterCommand
import DoxTriage.ParameterList
import DoxTriage.SymbolIndex
import DoxTriage.Warning.Record

/-!
# Rules

Some warnings of the generator are known to be false. A rule recognises one kind of them by the
headline. Four kinds are recognised by the headline alone. The fifth is a complaint that a
documented parameter does not exist: it is false if the parameter exists in the declaration that the
comment belongs to, which the symbol index finds.

A record is dropped as soon as one rule suppresses it. No headline has the shape of two rules, so
the order of rules cannot matter.

## Main definitions

* `Rule`, `Rule.all`: the rules.
* `Rule.suppresses`: a rule drops a record.
* `Rule.classify`: the first of several rules that drops a record.
* `Rule.retain`: the records that no rule drops.

## Implementation notes

Only the fifth rule asks the index. A question may fail, and it may leave the index knowing more
than before; both happen in the order of the records and, for one record, of the rules.
-/

namespace DoxTriage

/-- Kinds of false warnings. -/
inductive Rule where
  | groupConflict
  | undeclaredSymbol
  | noUniqueMember
  | undocumentedParameters
  | argumentNotFound
  deriving DecidableEq, Repr

namespace Rule

/-- All rules. -/
def all : List Rule :=
  [.groupConflict, .undeclaredSymbol, .noUniqueMember, .undocumentedParameters, .argumentNotFound]

/-- The name by which a rule is reported. -/
def identifier : Rule → Text
  | .groupConflict => "group_conflict".toList
  | .undeclaredSymbol => "undeclared_symbol".toList
  | .noUniqueMember => "no_unique_member".toList
  | .undocumentedParameters => "undocumented_parameters".toList
  | .argumentNotFound => "argument_not_found".toList

/-- What a rule is for. -/
def description : Rule → Text
  | .groupConflict =>
    "member declared in one group and defined in another; always ignored".toList
  | .undeclaredSymbol => "documented symbol was not declared or defined; known Doxygen bug".toList
  | .noUniqueMember =>
    "no uniquely matching class member found for <empty>; known Doxygen bug".toList
  | .undocumentedParameters =>
    "undocumented parameters; Doxygen may capture the next line as description".toList
  | .argumentNotFound =>
    ("@param not in argument list; ignored when the nearest following declaration " ++
      "has it").toList

/-! ### Shapes of headlines -/

/-- What stands between a fixed beginning and a fixed end of a text. -/
def between? (front back s : Text) : Option Text :=
  (front.isPrefixOf? s).bind (back.isSuffixOf? ·)

/-- A member documented in one group and defined in another. -/
def isGroupConflict (headline : Text) : Bool :=
  (between? "member ".toList
    (" belongs to two different groups. The second one found here will be ignored.").toList
    headline).any Text.isSolid

/-- A documented symbol that is said not to exist. -/
def isUndeclaredSymbol (headline : Text) : Bool :=
  (between? "documented symbol `".toList "' was not declared or defined.".toList headline).any
    Text.isSolid

/-- A member without a name for which there is no match. -/
def isNoUniqueMember (headline : Text) : Bool :=
  headline = "no uniquely matching class member found for ".toList

/-- Parameters of something that are said not to be documented. -/
def isUndocumentedParameters (headline : Text) : Bool :=
  (between? "The following parameters of ".toList " are not documented:".toList headline).any
    fun function => function ≠ [] && ! function.contains '\n'

/-- What follows the name of the parameter in a complaint that it does not exist. -/
def complaints : List Text :=
  ParameterCommand.all.map fun command =>
    " of command ".toList ++ command ++ " is not found in the argument list of ".toList

/-- The name of a parameter that is said not to exist. The name is everything up to the next blank
but the apostrophe before it. -/
def missingArgument? (headline : Text) : Option Text :=
  match "argument '".toList.isPrefixOf? headline with
  | none => none
  | some s =>
    let word := s.takeWhile (! isBlank ·)
    let tail := s.dropWhile (! isBlank ·)
    if word.getLast? = some '\'' ∧ word.dropLast ≠ [] ∧ complaints.any (·.isPrefixOf tail) then
      some word.dropLast
    else none

/-! ### Dropping records -/

/-- A declaration has the parameter after all. -/
def confirms (name : Text) (candidates : List Declaration) : Bool :=
  candidates.any fun declaration => ParameterList.declares declaration.parameters name

/-- A rule drops a record. -/
def suppresses (disk : Disk) (rule : Rule) (record : Record) : SymbolIndex.Query Bool :=
  match rule with
  | .groupConflict => pure (isGroupConflict record.headline)
  | .undeclaredSymbol => pure (isUndeclaredSymbol record.headline)
  | .noUniqueMember => pure (isNoUniqueMember record.headline)
  | .undocumentedParameters => pure (isUndocumentedParameters record.headline)
  | .argumentNotFound =>
    match missingArgument? record.headline with
    | none => pure false
    | some name => confirms name <$> SymbolIndex.nearest disk record.file record.line

/-- The first of several rules that drops a record. -/
def classify (disk : Disk) : List Rule → Record → SymbolIndex.Query (Option Rule)
  | [], _ => pure none
  | rule :: rules, record => do
    if ← rule.suppresses disk record then return some rule
    else classify disk rules record

/-- The records that none of several rules drops. -/
def retain (disk : Disk) (rules : List Rule) : List Record → SymbolIndex.Query (List Record)
  | [] => pure []
  | record :: records => do
    let verdict ← classify disk rules record
    let kept ← retain disk rules records
    return if verdict.isNone then record :: kept else kept

end Rule

end DoxTriage
