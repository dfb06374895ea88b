import StyleInline.Exports.Basic
import StyleInline.Syntax.Basic

/-!
What an import of a stylesheet becomes: a constant with the name that the import bound, holding an object
of the exports.
-/
namespace StyleInline

/-- The exports as an object literal, in their order. -/
def Exports.toObject (exports : Exports) : ObjectLiteral :=
  ⟨exports.toList⟩

/-- The constant that holds exports. The binding is kept with all it says of its place and scope; what is
new around it stands nowhere in the source. -/
def VarDecl.ofExports (binding : Ident) (exports : Exports) : VarDecl where
  kind := .constant
  declare := false
  scope := 0
  span := .nowhere
  declarators := [⟨binding, .nowhere, some exports.toObject, false⟩]

end StyleInline
