import CppIntrospect.Cursor.Kind
import CppIntrospect.TranslationUnit.Basic

/-! Cursors: small handles, each naming one entity of one translation unit together with
its kind. -/

namespace CppIntrospect

/-- Where an expression cursor hangs in the tree. -/
inductive ParentLink where
  | decl (id : DeclId)
  /-- The parent is not recorded, and never guessed. -/
  | unknown
  deriving DecidableEq, Repr

inductive Cursor where
  | null
  | decl (kind : CursorKind) (unit : UnitId) (id : DeclId)
  | base (unit : UnitId) (id : BaseId)
  /-- The argument at `position` in the list that `owner` has. -/
  | argument (unit : UnitId) (owner : DeclId) (position : Nat) (kind : ArgumentKind)
  | expr (kind : CursorKind) (unit : UnitId) (id : ExprId) (parent : ParentLink)
  deriving DecidableEq, Repr

/-- A handle to a type of a unit. -/
inductive TypeHandle where
  | invalid
  | valid (unit : UnitId) (type : TypeId)
  deriving DecidableEq, Repr

inductive CursorError where
  /-- The cursor has outlived its unit. -/
  | staleUnit (unit : UnitId)
  /-- A position beyond the end of a template argument list. -/
  | argumentOutOfRange (position count : Nat)
  /-- A position beyond the end of a template parameter list. -/
  | parameterOutOfRange (position count : Nat)
  /-- The text of an expression that is its own operand, directly or not. The question is
  never answered. -/
  | endlessText
  deriving DecidableEq, Repr

namespace CursorError

def message : CursorError → String
  | staleUnit unit =>
    "cursor refers to translation unit " ++ unit.label ++ ", which has been disposed"
  | argumentOutOfRange position count =>
    "template argument " ++ position.repr ++ " out of range for " ++ count.repr ++ " arguments"
  | parameterOutOfRange position count =>
    "template parameter " ++ position.repr ++ " out of range for " ++ count.repr ++ " parameters"
  | endlessText => "the text of an expression never ends"

def code? : CursorError → Option String
  | staleUnit _ => some "cxcursor::stale_unit"
  | _ => none

def help? : CursorError → Option String
  | staleUnit _ => some "cursors are only valid while their translation unit is alive"
  | _ => none

end CursorError

namespace Cursor

def kind : Cursor → CursorKind
  | null => .null
  | decl kind _ _ => kind
  | base _ _ => .baseSpecifier
  | argument _ _ _ _ => .templateArgument
  | expr kind _ _ _ => kind

def isNull : Cursor → Bool
  | null => true
  | _ => false

def unit? : Cursor → Option UnitId
  | null => none
  | decl _ unit _ => some unit
  | base unit _ => some unit
  | argument unit _ _ _ => some unit
  | expr _ unit _ _ => some unit

def decl? : Cursor → Option DeclId
  | decl _ _ id => some id
  | _ => none

def base? : Cursor → Option BaseId
  | base _ id => some id
  | _ => none

def expr? : Cursor → Option ExprId
  | expr _ _ id _ => some id
  | _ => none

/-- The owner and the position of a template argument. -/
def argument? : Cursor → Option (DeclId × Nat)
  | argument _ owner position _ => some (owner, position)
  | _ => none

def argumentKind? : Cursor → Option ArgumentKind
  | argument _ _ _ kind => some kind
  | _ => none

def parentLink? : Cursor → Option ParentLink
  | expr _ _ _ parent => some parent
  | _ => none

def label : Cursor → String
  | null => "<null>"
  | decl kind unit id => kind.spelling ++ " " ++ id.label ++ " in " ++ unit.label
  | base unit id => "CXXBaseSpecifier " ++ id.label ++ " in " ++ unit.label
  | argument unit owner position kind =>
    "TemplateArgument " ++ owner.label ++ "[" ++ position.repr ++ "] (" ++ kind.spelling ++
      ") in " ++ unit.label
  | expr kind unit id _ => kind.spelling ++ " " ++ id.label ++ " in " ++ unit.label

/-- The cursor of a declaration of a unit. -/
def ofDecl? (unit : TranslationUnit) (id : DeclId) : Option Cursor :=
  (unit.decl? id).map fun decl => .decl (.ofDecl decl) unit.id id

/-- The cursor of a base specifier of a unit. -/
def ofBase? (unit : TranslationUnit) (id : BaseId) : Option Cursor :=
  (unit.base? id).map fun _ => .base unit.id id

/-- The cursor of an expression of a unit. -/
def ofExpr? (unit : TranslationUnit) (id : ExprId) (parent : ParentLink) : Option Cursor :=
  (unit.expr? id).map fun expr => .expr (.ofExpr expr) unit.id id parent

/-- The cursor of a declaration, null if the unit has no such declaration. -/
def ofDecl (unit : TranslationUnit) (id : DeclId) : Cursor := (ofDecl? unit id).getD null

/-- The cursor of a base specifier, null if the unit has no such base specifier. -/
def ofBase (unit : TranslationUnit) (id : BaseId) : Cursor := (ofBase? unit id).getD null

/-- The cursor of an expression, null if the unit has no such expression. -/
def ofExpr (unit : TranslationUnit) (id : ExprId) (parent : ParentLink) : Cursor :=
  (ofExpr? unit id parent).getD null

end Cursor

end CppIntrospect
