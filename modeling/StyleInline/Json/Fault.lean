import StyleInline.Text.Position

/-!
What can be wrong with a JSON text, and where. A reader that stops names the cause and how much of the
text was left at the place it blames; line and column are counted once, for the fault that is reported.
-/
namespace StyleInline.Json
open Text

/-- The text ends too early, breaks the grammar, or holds a value of the wrong form. -/
inductive Category where
  | endOfText
  | grammar
  | data
deriving DecidableEq, Repr

/-- Why a text was refused. -/
inductive Cause where
  | endInList
  | endInObject
  | endInString
  | endInValue
  | noColon
  | noListSeparator
  | noObjectSeparator
  | noWord
  | noValue
  | keyNotString
  | trailingComma
  | trailingCharacters
  | controlCharacter
  | badEscape
  | loneSurrogate
  | unpairedEscape
  | badNumber
  | numberTooLarge
  /-- A value of another form than the one asked for; both are given in words. -/
  | mismatch (found expected : String)
  | unknownField (name : String) (known : List String)
  | repeatedField (name : String)
  | unknownVariant (name : String) (known : List String)
  /-- The name of a variant stands alone where it needs a value. -/
  | variantWithoutValue
deriving DecidableEq, Repr

/-- The names as a message lists them. -/
def listed (names : List String) : String :=
  " or ".intercalate (names.map fun name => "`" ++ name ++ "`")

namespace Cause

def text : Cause → String
  | endInList => "EOF while parsing a list"
  | endInObject => "EOF while parsing an object"
  | endInString => "EOF while parsing a string"
  | endInValue => "EOF while parsing a value"
  | noColon => "expected `:`"
  | noListSeparator => "expected `,` or `]`"
  | noObjectSeparator => "expected `,` or `\x7d`"
  | noWord => "expected ident"
  | noValue => "expected value"
  | keyNotString => "key must be a string"
  | trailingComma => "trailing comma"
  | trailingCharacters => "trailing characters"
  | controlCharacter => "control character (\\u0000-\\u001F) found while parsing a string"
  | badEscape => "invalid escape"
  | loneSurrogate => "lone leading surrogate in hex escape"
  | unpairedEscape => "unexpected end of hex escape"
  | badNumber => "invalid number"
  | numberTooLarge => "number out of range"
  | mismatch found expected => "invalid type: " ++ found ++ ", expected " ++ expected
  | unknownField name known => "unknown field `" ++ name ++ "`, expected " ++ listed known
  | repeatedField name => "duplicate field `" ++ name ++ "`"
  | unknownVariant name known => "unknown variant `" ++ name ++ "`, expected " ++ listed known
  | variantWithoutValue => "invalid type: unit variant, expected newtype variant"

def category : Cause → Category
  | endInList | endInObject | endInString | endInValue => .endOfText
  | mismatch .. | unknownField .. | repeatedField .. | unknownVariant .. | variantWithoutValue => .data
  | _ => .grammar

end Cause

/-- A cause, and the bytes of the text after the place that is blamed. -/
structure Fault where
  cause : Cause
  left : Nat
deriving DecidableEq, Repr

namespace Fault

/-- Blames the place just before `rest`. -/
def before (cause : Cause) (rest : List Char) : Fault :=
  ⟨cause, byteCount rest⟩

/-- Blames the place one byte into `rest`, or the end of the text when nothing is left. -/
def into (cause : Cause) (rest : List Char) : Fault :=
  ⟨cause, byteCount rest - 1⟩

end Fault

/-- A fault as it is reported: with its line and column. -/
structure Report where
  cause : Cause
  position : Position
deriving DecidableEq, Repr

namespace Report

def ofFault (text : List Char) (fault : Fault) : Report :=
  ⟨fault.cause, .after (byteCount text - fault.left) text⟩

def message (r : Report) : String :=
  r.cause.text ++ " at line " ++ toString r.position.line ++ " column " ++ toString r.position.column

end Report
end StyleInline.Json
