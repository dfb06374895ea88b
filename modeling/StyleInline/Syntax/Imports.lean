import StyleInline.Syntax.Basic
import StyleInline.Path.Stylesheet

/-!
The imports of a program: those at the top of a module and those in module blocks, however deeply nested,
in the order of the text. A block of statements is not entered, for no import can stand in one.
-/
namespace StyleInline

mutual

/-- The imports in an item. -/
def Item.imports : Item → List Import
  | .importDecl decl => [decl]
  | .moduleBlock _ _ items => importsOf items
  | _ => []

/-- The imports in items, in order. -/
def importsOf : List Item → List Import
  | [] => []
  | item :: rest => item.imports ++ importsOf rest

end

/-- What an import is to the inlining. -/
inductive Import.Role where
  /-- It binds just the default of a stylesheet with exports, so it is inlined. -/
  | stylesheet (binding : Ident)
  /-- It binds just a default, but of something else. -/
  | skipped
  | other
deriving DecidableEq, Repr

/-- The role of an import hangs on what it binds and on its source, on nothing else. -/
def Import.role (decl : Import) : Import.Role :=
  match decl.specifiers with
  | [.byDefault binding] => if isStylesheetSource decl.source then .stylesheet binding else .skipped
  | _ => .other

end StyleInline
