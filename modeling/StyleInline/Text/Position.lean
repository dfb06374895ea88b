/-!
Places in a text. Messages name a place by its line and by its column in bytes, so a place is an offset
in bytes and may fall inside a character.
-/
namespace StyleInline.Text

/-- A line, counted from one, and the bytes before the place on that line. -/
structure Position where
  line : Nat
  column : Nat
deriving DecidableEq, Repr

/-- The bytes that a text takes. -/
def byteCount (cs : List Char) : Nat :=
  cs.foldr (fun c bytes => c.utf8Size + bytes) 0

namespace Position

/-- The place `bytes` further on in a text that begins at `start`; its end if it has no more. -/
def advance (start : Position) (bytes : Nat) : List Char → Position
  | [] => start
  | c :: rest =>
    if bytes = 0 then start
    else if c = '\n' then advance ⟨start.line + 1, 0⟩ (bytes - 1) rest
    else advance ⟨start.line, start.column + min bytes c.utf8Size⟩ (bytes - c.utf8Size) rest

/-- The place with `bytes` before it. -/
def after (bytes : Nat) (text : List Char) : Position :=
  advance ⟨1, 0⟩ bytes text

end Position
end StyleInline.Text
