/-!
The part of a program's syntax that inlining reads and writes: imports, declarations of constants with
object literals, and the module blocks that nest further items. The other items are kept whole, and
nothing below asks what they hold.
-/
namespace StyleInline

/-- A stretch of the source text. -/
structure Span where
  lo : Nat
  hi : Nat
  lo_le_hi : lo ≤ hi := by omega
deriving DecidableEq, Repr

namespace Span

/-- The span of what stands nowhere in the source text. -/
def nowhere : Span where
  lo := 0
  hi := 0

instance : Inhabited Span := ⟨nowhere⟩

/-- The span between two positions, given in either order. -/
def between (a b : Nat) : Span where
  lo := min a b
  hi := max a b

end Span

/-- A name bound or used at a place. `scope` tells apart equal names of different scopes. -/
structure Ident where
  name : String
  span : Span
  scope : Nat
  optional : Bool
deriving DecidableEq, Repr, Inhabited

/-- An object literal: properties with string names and string values, in the order written. -/
structure ObjectLiteral where
  properties : List (String × String)
deriving DecidableEq, Repr, Inhabited

/-- One of the things an import binds: what the module exports by default, the module as a whole, or
one of its exports by name. -/
inductive Specifier where
  | byDefault (binding : Ident)
  | whole (binding : Ident)
  | named (binding : Ident) (imported : Option String) (typeOnly : Bool)
deriving DecidableEq, Repr

inductive ImportPhase where
  | evaluation
  | source
  | defer
deriving DecidableEq, Repr, Inhabited

/-- An import declaration. -/
structure Import where
  source : String
  specifiers : List Specifier
  typeOnly : Bool
  phase : ImportPhase
  attributes : Option ObjectLiteral
  span : Span
deriving DecidableEq, Repr, Inhabited

inductive BindingKind where
  | constant
  | lexical
  | variable
deriving DecidableEq, Repr, Inhabited

structure Declarator where
  binding : Ident
  span : Span
  init : Option ObjectLiteral
  definite : Bool
deriving DecidableEq, Repr, Inhabited

/-- A declaration of variables. -/
structure VarDecl where
  kind : BindingKind
  declare : Bool
  scope : Nat
  span : Span
  declarators : List Declarator
deriving DecidableEq, Repr, Inhabited

/-- A module block is named by a string or by an identifier. -/
inductive ModuleName where
  | text (text : String)
  | ident (name : String)
deriving DecidableEq, Repr, Inhabited

/-- What stands in front of a module block. `asNamespace` tells which of its two keywords is written. -/
structure ModuleHeader where
  name : ModuleName
  declare : Bool
  global : Bool
  asNamespace : Bool
  exported : Bool
  span : Span
deriving DecidableEq, Repr, Inhabited

/-- An item of a module, or a statement. A block of statements is an item as well. -/
inductive Item where
  | importDecl (decl : Import)
  | varDecl (exported : Bool) (decl : VarDecl)
  /-- A module block; `inner` are the further names of a dotted name such as `A.B.C`. -/
  | moduleBlock (header : ModuleHeader) (inner : List String) (items : List Item)
  /-- A module that is declared without a body. -/
  | moduleName (header : ModuleHeader)
  | expression (name : String)
  | block (body : List Item)
  | exportNamed (source : Option String) (names : List String)
  | exportAll (source : String)
  | exportDefault (name : String)
  | exportAssign (name : String)
  | exportNamespace (name : String)
  | importEquals (name source : String)
deriving Repr, Inhabited

/-- A whole file. Only a module can import. -/
inductive Program where
  | module (items : List Item)
  | script (body : List Item)
deriving Repr, Inhabited

end StyleInline
