import StyleInline.Json.Reader
import StyleInline.Decimal.Notation

/-!
Numbers of a JSON text. No value of the library is a number; they are read to be named in the message
that refuses them, and because a number can itself be wrong. A number without fraction and exponent that
fits 64 bits is an integer. Any other is a floating-point number: as many digits as keep the significand
below 2^64 are taken, and the significand is then multiplied or divided by a power of ten.
-/
namespace StyleInline.Json
open Text

/-- A number that a text spells. -/
inductive Number where
  | integer (value : Int)
  | float (value : Float)

namespace Number

/-- The number in the words of a message. -/
def describe : Number → String
  | integer value => "integer `" ++ toString value ++ "`"
  | float value => "floating point `" ++ Decimal.renderFloat value ++ "`"

def digitValue (c : Char) : Nat := c.toNat - '0'.toNat

/-- Takes digits while the significand stays below 2^64, and counts them. -/
def absorb (significand taken : Nat) : List Char → Nat × Nat × List Char
  | [] => (significand, taken, [])
  | c :: rest =>
    if c.isDigit ∧ significand * 10 + digitValue c < 2 ^ 64 then
      absorb (significand * 10 + digitValue c) (taken + 1) rest
    else (significand, taken, c :: rest)

/-- The digits that the significand has no room for, by their number. -/
def skipDigits (text : List Char) : Nat × List Char :=
  ((text.takeWhile Char.isDigit).length, text.dropWhile Char.isDigit)

def powerOfTen (exponent : Nat) : Float :=
  Float.ofScientific 1 false exponent

/-- `significand * 10 ^ exponent` in binary64 arithmetic; none if it is too large. The table of powers
ends at 308, so a smaller exponent than -308 takes two divisions. -/
def scale? (significand : Nat) (exponent : Int) : Option Float :=
  let start := Float.ofNat significand
  if 0 ≤ exponent then
    if exponent ≤ 308 then
      let value := start * powerOfTen exponent.toNat
      if value.isInf then none else some value
    else if significand = 0 then some start
    else none
  else if -308 ≤ exponent then some (start / powerOfTen (-exponent).toNat)
  else if -616 ≤ exponent then some (start / powerOfTen 308 / powerOfTen (-exponent - 308).toNat)
  else some 0

def signed (negative : Bool) (value : Float) : Number :=
  .float (if negative then -value else value)

def finish (negative : Bool) (significand : Nat) (exponent : Int) (rest : List Char) :
    Except Fault (Number × List Char) :=
  match scale? significand exponent with
  | some value => .ok (signed negative value, rest)
  | none => .error (.before .numberTooLarge rest)

/-- The digits of an exponent after the first. One that does not fit 32 bits is too large at the digit
that shows it, unless it makes the number zero. -/
def exponentDigits (negative : Bool) (significand : Nat) (exponent : Int) (upward : Bool)
    (soFar : Nat) : List Char → Except Fault (Number × List Char)
  | [] => finish negative significand (if upward then exponent + soFar else exponent - soFar) []
  | c :: rest =>
    if c.isDigit then
      let next := soFar * 10 + digitValue c
      if 2 ^ 31 ≤ next then
        if significand ≠ 0 ∧ upward then .error (.before .numberTooLarge rest)
        else .ok (signed negative 0, (skipDigits rest).2)
      else exponentDigits negative significand exponent upward next rest
    else
      finish negative significand (if upward then exponent + soFar else exponent - soFar) (c :: rest)

/-- What follows the letter of an exponent. -/
def exponentPart (negative : Bool) (significand : Nat) (exponent : Int) (text : List Char) :
    Except Fault (Number × List Char) :=
  let (upward, digits) :=
    match text with
    | '+' :: rest => (true, rest)
    | '-' :: rest => (false, rest)
    | rest => (true, rest)
  match digits with
  | [] => .error (.before .endInValue [])
  | c :: rest =>
    if c.isDigit then exponentDigits negative significand exponent upward (digitValue c) rest
    else .error (.into .badNumber (c :: rest))

def beforeExponent (negative : Bool) (significand : Nat) (exponent : Int)
    (text : List Char) : Except Fault (Number × List Char) :=
  match text with
  | 'e' :: rest => exponentPart negative significand exponent rest
  | 'E' :: rest => exponentPart negative significand exponent rest
  | rest => finish negative significand exponent rest

/-- What follows the point. -/
def fractionPart (negative : Bool) (significand : Nat) (exponent : Int) (text : List Char) :
    Except Fault (Number × List Char) :=
  let (significand, taken, more) := absorb significand 0 text
  let (dropped, rest) := skipDigits more
  if taken = 0 ∧ dropped = 0 then
    match rest with
    | [] => .error (.into .endInValue [])
    | other => .error (.into .badNumber other)
  else beforeExponent negative significand (exponent - taken) rest

/-- What follows the whole part, of which `dropped` digits found no room in the significand. -/
def afterWhole (negative : Bool) (significand dropped : Nat) (text : List Char) :
    Except Fault (Number × List Char) :=
  match text with
  | '.' :: rest => fractionPart negative significand dropped rest
  | 'e' :: rest => exponentPart negative significand dropped rest
  | 'E' :: rest => exponentPart negative significand dropped rest
  | rest =>
    if dropped ≠ 0 then finish negative significand dropped rest
    else if ¬ negative then .ok (.integer significand, rest)
    else if significand = 0 ∨ Nat.pow 2 63 < significand then
      .ok (signed true (Float.ofNat significand), rest)
    else .ok (.integer (-significand), rest)

/-- A number whose sign has been read. A leading zero stands alone. -/
def read (negative : Bool) (text : List Char) : Except Fault (Number × List Char) :=
  match text with
  | [] => .error (.before .endInValue [])
  | c :: rest =>
    if ¬ c.isDigit then .error (.into .badNumber (c :: rest))
    else if c = '0' then
      if rest.head?.any Char.isDigit then .error (.into .badNumber rest)
      else afterWhole negative 0 0 rest
    else
      let (significand, _, more) := absorb (digitValue c) 0 rest
      let (dropped, after) := skipDigits more
      afterWhole negative significand dropped after

end Number
end StyleInline.Json
