import DoxTriage.Text.Digit
import DoxTriage.Text.Quoted

/-!
# What can be wrong with an XML document

Three kinds of fault, from three layers of reading: the markup itself, the attributes of a tag that
is looked at, and the entities of a text or a value that is looked at. A fault carries what its
message shows and nothing else. Places are counted in bytes: of the document for markup, from the
name of the tag for an attribute, and of the text itself for an entity.

## Main definitions

* `Xml.MarkupFault`, `Xml.AttributeFault`, `Xml.EntityFault`: faults by layer.
* `Xml.Fault`: a fault with what is known about its place.
* `Xml.Fault.message`: the wording.
-/

namespace DoxTriage

namespace Xml

/-- What can be wrong with the markup of a document. -/
inductive MarkupFault where
  | unclosedTag
  | unknownMarkup
  | unclosedComment
  | unclosedVerbatim
  | unclosedDocType
  | unclosedInstruction
  | namelessDocType
  | mismatchedEnd (expected found : Text)
  | unmatchedEnd (found : Text)
  deriving DecidableEq, Repr

/-- What can be wrong with the attributes of a tag. -/
inductive AttributeFault where
  | equalsExpected (place : Nat)
  | valueExpected (place : Nat)
  | unquotedValue (place : Nat)
  | unclosedQuote (place : Nat) (quote : Char)
  | duplicated (place previous : Nat)
  deriving DecidableEq, Repr

/-- What can be wrong with an entity. -/
inductive EntityFault where
  | unterminated (start length : Nat)
  | unrecognized (start stop : Nat) (name : Text)
  | signedNumber
  | emptyNumber
  | invalidDigit
  | numberTooLarge
  | noCharacter (number : Nat)
  | zero
  deriving DecidableEq, Repr

/-- What can be wrong with a document. -/
inductive Fault where
  | inMarkup (place : Nat) (fault : MarkupFault)
  | inTag (fault : AttributeFault)
  | inEntity (fault : EntityFault)
  deriving DecidableEq, Repr

/-- An end tag, as messages show it. -/
def endTag (name : Text) : Text :=
  "`</".toList ++ name ++ ">`".toList

/-- The wording of a fault in the markup. -/
def MarkupFault.message : MarkupFault → Text
  | .unclosedTag => "syntax error: tag not closed: `>` not found before end of input".toList
  | .unknownMarkup => "syntax error: unknown or missed symbol in markup".toList
  | .unclosedComment =>
    "syntax error: comment not closed: `-->` not found before end of input".toList
  | .unclosedVerbatim =>
    "syntax error: CDATA not closed: `]]>` not found before end of input".toList
  | .unclosedDocType =>
    "syntax error: DOCTYPE not closed: `>` not found before end of input".toList
  | .unclosedInstruction =>
    ("syntax error: processing instruction or xml declaration not closed: " ++
      "`?>` not found before end of input").toList
  | .namelessDocType =>
    ("ill-formed document: `<!DOCTYPE>` declaration does not contain " ++
      "a name of a document type").toList
  | .mismatchedEnd expected found =>
    "ill-formed document: expected ".toList ++ endTag expected ++ ", but ".toList ++
      endTag found ++ " was found".toList
  | .unmatchedEnd found =>
    "ill-formed document: close tag ".toList ++ endTag found ++
      " does not match any open tag".toList

/-- The place of a fault in the attributes, in bytes from the name of the tag. -/
def AttributeFault.place : AttributeFault → Nat
  | .equalsExpected place | .valueExpected place | .unquotedValue place
  | .unclosedQuote place _ | .duplicated place _ => place

/-- The wording of a fault in the attributes, without its place. -/
def AttributeFault.reason : AttributeFault → Text
  | .equalsExpected _ => "attribute key must be directly followed by `=` or space".toList
  | .valueExpected _ => "`=` must be followed by an attribute value".toList
  | .unquotedValue _ => "attribute value must be enclosed in `\"` or `'`".toList
  | .unclosedQuote _ quote =>
    "missing closing quote `".toList ++ [quote] ++ "` in attribute value".toList
  | .duplicated _ previous =>
    "duplicated attribute, previous declaration at position ".toList ++ Text.decimal previous

/-- The wording of a fault in the attributes. -/
def AttributeFault.message (fault : AttributeFault) : Text :=
  "position ".toList ++ Text.decimal fault.place ++ ": ".toList ++ fault.reason

/-- A range of bytes, the end excluded. -/
def byteRange (start stop : Nat) : Text :=
  Text.decimal start ++ "..".toList ++ Text.decimal stop

/-- The wording of a fault in an entity. -/
def EntityFault.message : EntityFault → Text
  | .unterminated start length =>
    "Error while escaping character at range ".toList ++ byteRange start length ++
      ": Cannot find ';' after '&'".toList
  | .unrecognized start stop name =>
    "at ".toList ++ byteRange start stop ++ ": unrecognized entity `".toList ++ name ++ "`".toList
  | .signedNumber => "invalid character reference: unexpected number sign".toList
  | .emptyNumber => "invalid character reference: cannot parse integer from empty string".toList
  | .invalidDigit => "invalid character reference: invalid digit found in string".toList
  | .numberTooLarge =>
    "invalid character reference: number too large to fit in target type".toList
  | .noCharacter number =>
    "invalid character reference: `".toList ++ Text.decimal number ++
      "` is not a valid codepoint".toList
  | .zero => "invalid character reference: 0x0 character is not permitted in XML".toList

/-- The wording of a fault in a document. -/
def Fault.message : Fault → Text
  | .inMarkup place fault =>
    "at position ".toList ++ Text.decimal place ++ ": ".toList ++ fault.message
  | .inTag fault => fault.message
  | .inEntity fault => fault.message

end Xml

end DoxTriage
