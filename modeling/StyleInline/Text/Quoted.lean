import StyleInline.Text.Hidden

/-!
Quoted texts, as messages show a string that stands where something else was expected. Every character
that would end the quotation or would not be seen is written by an escape.
-/
namespace StyleInline.Text

/-- A code point in lower-case hexadecimal, without leading zeros. -/
def hexOf (code : Nat) : String :=
  String.ofList (Nat.toDigits 16 code)

/-- What stands for a character between double quotes. A single quote stands for itself. -/
def quotedChar (c : Char) : String :=
  match c with
  | '\x00' => "\\0"
  | '\t' => "\\t"
  | '\r' => "\\r"
  | '\n' => "\\n"
  | '"' => "\\\""
  | '\\' => "\\\\"
  | c => if isHidden c then "\\u\x7b" ++ hexOf c.toNat ++ "\x7d" else c.toString

/-- The text between double quotes. -/
def quoted (text : String) : String :=
  "\"" ++ String.join (text.toList.map quotedChar) ++ "\""

end StyleInline.Text
