import StyleInline.Path.Basic

/-!
Reading a file, and how that can fail. All that the library asks of a file system is a function from a
path to the bytes of the file there, so its statements hold for every file system.
-/
namespace StyleInline

/-- Why a file cannot be read as text. -/
inductive ReadFault where
  | notFound
  | isDirectory
  | notDirectory
  | nameTooLong
  | unusablePath
  | notText
deriving DecidableEq, Repr

/-- A file system, as far as reading goes. -/
abbrev FileReader := Path → Except ReadFault ByteArray

namespace FileReader

/-- The text of a file; its bytes have to be the encoding of one. -/
def readText (files : FileReader) (path : Path) : Except ReadFault String :=
  match files path with
  | .error fault => .error fault
  | .ok bytes =>
    match String.fromUTF8? bytes with
    | some text => .ok text
    | none => .error .notText

variable {files : FileReader} {path : Path}

/-- A text is read where the file holds its encoding. -/
theorem readText_eq_ok_iff {text : String} : files.readText path = .ok text ↔ files path = .ok text.toUTF8 := by
  unfold readText
  rw [String.toUTF8_eq_toByteArray]
  cases stored : files path with
  | error fault => simp
  | ok bytes =>
    by_cases valid : bytes.IsValidUTF8
    · simp [String.fromUTF8?, valid, String.fromUTF8, ← String.toByteArray_inj]
    · have other : bytes ≠ text.toByteArray := fun same => valid (same ▸ text.isValidUTF8)
      simp [String.fromUTF8?, valid, other]

/-- Bytes that encode nothing are no text. -/
theorem readText_of_invalid {bytes : ByteArray} (stored : files path = .ok bytes) (invalid : ¬ bytes.IsValidUTF8) :
    files.readText path = .error .notText := by
  simp [readText, stored, String.fromUTF8?, invalid]

end FileReader

end StyleInline
