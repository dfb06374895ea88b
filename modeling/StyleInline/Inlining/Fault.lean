import StyleInline.Syntax.Basic

/-!
Why an import cannot be inlined. A provider's fault is passed on as it is.
-/
namespace StyleInline

/-- The fault of one import; `ε` is the provider's kind of fault. -/
inductive ImportFault (ε : Type) where
  | fileUnknown
  | rootUnknown
  | lookup (fault : ε)
deriving Repr

/-- The words for a fault, given the words for the provider's faults. -/
def ImportFault.message {ε : Type} (words : ε → String) : ImportFault ε → String
  | fileUnknown =>
    "invalid state: `filename` is missing (the host must pass the filename of the file being compiled)"
  | rootUnknown =>
    "invalid config: `absoluteRootDirPath` is missing and the host did not supply a cwd"
  | lookup fault => words fault

/-- A fault with the import it stopped at, named by its place and its source as written. -/
structure Failure (ε : Type) where
  span : Span
  source : String
  fault : ImportFault ε
deriving Repr

end StyleInline
