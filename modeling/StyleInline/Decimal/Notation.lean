import StyleInline.Decimal.Shortest

/-!
How a floating-point number is written in a message. The shortest decimal is written out with at least
one digit after the point when its leading digit stands for a power of ten from -5 to 15; otherwise one
digit stands before the point and the exponent follows an `e`, with no plus sign and no padding.
-/
namespace StyleInline.Decimal

/-- The digits without the zeros at their end, and the number of those. -/
def stripZeros (digits : List Char) : List Char × Nat :=
  let zeros := digits.reverse.takeWhile (· = '0')
  (digits.take (digits.length - zeros.length), zeros.length)

def zeros (count : Nat) : List Char := List.replicate count '0'

/-- The text of a positive decimal. -/
def Scaled.render (d : Scaled) : String :=
  let (digits, dropped) := stripZeros (Nat.toDigits 10 d.digits)
  -- how many digits stand before the point when nothing is shifted
  let whole : Int := digits.length + (d.exponent + dropped)
  String.ofList <|
    if 0 < whole ∧ whole ≤ 16 then
      let before := whole.toNat
      if digits.length ≤ before then digits ++ zeros (before - digits.length) ++ ['.', '0']
      else digits.take before ++ '.' :: digits.drop before
    else if -5 < whole ∧ whole ≤ 0 then
      ['0', '.'] ++ zeros (-whole).toNat ++ digits
    else
      let mantissa :=
        match digits with
        | first :: second :: more => first :: '.' :: second :: more
        | few => few
      mantissa ++ 'e' :: (toString (whole - 1)).toList

/-- The text of a finite number. The sign of zero shows. -/
def renderFloat (x : Float) : String :=
  let bits := x.toBits
  let size := bits &&& 0x7FFFFFFFFFFFFFFF
  let text := if size = 0 then "0.0" else (Rounding.ofBits size).shortest.render
  if bits = size then text else "-" ++ text

end StyleInline.Decimal
