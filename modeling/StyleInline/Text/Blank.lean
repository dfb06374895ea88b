/-!
White space, as the Unicode property White_Space has it: twenty-five characters. A configuration text
made of nothing else counts as empty.
-/
namespace StyleInline.Text

/-- The character has the property White_Space. -/
def isBlank (c : Char) : Bool :=
  let code := c.toNat
  (0x9 ≤ code && code ≤ 0xD) || code == 0x20 || code == 0x85 || code == 0xA0 || code == 0x1680 ||
    (0x2000 ≤ code && code ≤ 0x200A) || code == 0x2028 || code == 0x2029 || code == 0x202F ||
    code == 0x205F || code == 0x3000

/-- Nothing but white space, or nothing at all. -/
def isBlankText (text : String) : Bool :=
  text.toList.all isBlank

end StyleInline.Text
