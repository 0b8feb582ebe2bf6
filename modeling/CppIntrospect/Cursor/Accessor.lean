import CppIntrospect.Cursor.Basic
import CppIntrospect.Store
import CppIntrospect.TranslationUnit.Spelling

/-! The questions a cursor answers. Each looks at the kind of the cursor first: a cursor
of the wrong kind has no answer, whether its unit is alive or not. Only then is the
unit looked up, and a disposed unit is an error. -/

namespace CppIntrospect

/-- The unit a cursor points into. -/
def Store.resolve (store : Store) (unit : UnitId) : Except CursorError TranslationUnit :=
  match store.find? unit with
  | some unit => .ok unit
  | none => .error (.staleUnit unit)

/-- How a declaration takes part in templates. -/
inductive TemplateClass where
  | ordinary
  | primaryTemplate
  | classSpecialization
  | classPartialSpecialization
  | memberSpecialization
  | dependentSpecialization
  | functionSpecialization
  /-- A function that is neither a specialization nor a member of one. -/
  | nonTemplate
  deriving DecidableEq, Repr

namespace TemplateClass

def hasArguments : TemplateClass → Bool
  | classSpecialization | classPartialSpecialization | memberSpecialization
  | dependentSpecialization | functionSpecialization => true
  | _ => false

def hasParameters : TemplateClass → Bool
  | primaryTemplate | classPartialSpecialization => true
  | _ => false

def ofTemplating : FunctionTemplating → TemplateClass
  | .nonTemplate => nonTemplate
  | .pattern _ => nonTemplate
  | .member _ _ => memberSpecialization
  | .specialization _ _ => functionSpecialization
  | .dependent _ _ => dependentSpecialization

def ofDecl (decl : Decl) : TemplateClass :=
  match decl.kind with
  | .template _ => primaryTemplate
  | .record record =>
    match record.specialization with
    | some (.ofPattern _ _ _) => classPartialSpecialization
    | some (.full _ _) => classSpecialization
    | none => ordinary
  | .function function => ofTemplating function.templating
  | _ => ordinary

end TemplateClass

namespace TranslationUnit

/-- The template argument at a position of the list that a declaration owns. -/
def argument? (unit : TranslationUnit) (owner : DeclId) (position : Nat) :
    Option TemplateArgument :=
  match (unit.decl? owner).bind Decl.args? with
  | some args => args[position]?
  | none => none

/-- The kind of declaration that a template is a template of. -/
def templatedKind (unit : TranslationUnit) (id : DeclId) : CursorKind :=
  match (unit.decl? id).bind Decl.template? with
  | some template =>
    match unit.decl? template.templated with
    | some decl => .ofDecl decl
    | none => .noDeclFound
  | none => .noDeclFound

/-- The kind of record that a partial specialization produces. -/
def specializedKind (unit : TranslationUnit) (id : DeclId) : CursorKind :=
  match (unit.decl? id).bind Decl.record? with
  | some record => if record.tag = .enumTag then .noDeclFound else .ofTag record.tag
  | none => .noDeclFound

end TranslationUnit

/-- The cursor of a declaration, if its unit is alive. -/
def Store.declCursor (store : Store) (unit : UnitId) (id : DeclId) : Except CursorError Cursor :=
  (store.resolve unit).map (Cursor.ofDecl · id)

/-- The cursor of a base specifier, if its unit is alive. -/
def Store.baseCursor (store : Store) (unit : UnitId) (id : BaseId) : Except CursorError Cursor :=
  (store.resolve unit).map (Cursor.ofBase · id)

/-- The spelling of the type behind a handle. -/
def TypeHandle.spelling (handle : TypeHandle) (store : Store) :
    Except CursorError (Option String) :=
  match handle with
  | invalid => .ok none
  | valid unit type => (store.resolve unit).map fun u => (u.type? type).map CppType.spelling

namespace Cursor

/-- The cursors of the base specifiers of a record, in order. -/
def baseCursors (cursor : Cursor) (store : Store) : Except CursorError (List Cursor) :=
  match cursor with
  | decl _ unit id => (store.resolve unit).map fun u => (u.basesOf id).map (ofBase u)
  | _ => .ok []

def isVirtualBase (cursor : Cursor) (store : Store) : Except CursorError Bool :=
  match cursor with
  | base unit id => (store.resolve unit).map fun u =>
    match u.base? id with
    | some b => b.isVirtual
    | none => false
  | _ => .ok false

/-- The access of a member or of a base specifier. The access of a base specifier is the
one written on it, whatever the access of the base class. -/
def accessSpecifier (cursor : Cursor) (store : Store) : Except CursorError Access :=
  match cursor with
  | base unit id => (store.resolve unit).map fun u =>
    match u.base? id with
    | some b => b.access
    | none => .unspecified
  | decl kind unit id =>
    if kind.carriesAccess then
      (store.resolve unit).map fun u =>
        match u.decl? id with
        | some d => d.access
        | none => .unspecified
    else .ok .unspecified
  | _ => .ok .unspecified

/-- The kind of declaration that a class or function template, or a partial
specialization, produces. -/
def templateCursorKind (cursor : Cursor) (store : Store) : Except CursorError CursorKind :=
  match cursor with
  | decl .classTemplate unit id => (store.resolve unit).map (·.templatedKind id)
  | decl .functionTemplate unit id => (store.resolve unit).map (·.templatedKind id)
  | decl .classTemplatePartialSpecialization unit id =>
    (store.resolve unit).map (·.specializedKind id)
  | _ => .ok .noDeclFound

/-- The declaration that a declaration was specialized or instantiated from. -/
def specializedTemplate (cursor : Cursor) (store : Store) :
    Except CursorError (Option Cursor) :=
  if cursor.kind.isDeclaration then
    match cursor with
    | decl _ unit id => (store.resolve unit).map fun u =>
      ((u.decl? id).bind Decl.origin).bind (ofDecl? u)
    | _ => .ok none
  else .ok none

/-- The declaration an entity belongs to: the parent of a declaration, the record of a
base specifier, the owner of a template argument, the recorded parent of an
expression. -/
def semanticParent (cursor : Cursor) (store : Store) : Except CursorError (Option Cursor) :=
  match cursor with
  | null => .ok none
  | decl _ unit id => (store.resolve unit).map fun u =>
    ((u.decl? id).bind Decl.parent).bind (ofDecl? u)
  | base unit id => (store.resolve unit).map fun u =>
    ((u.base? id).map BaseSpecifier.owner).bind (ofDecl? u)
  | argument unit owner _ _ => (store.resolve unit).map (ofDecl? · owner)
  | expr _ unit _ parent => (store.resolve unit).map fun u =>
    match parent with
    | .decl owner => ofDecl? u owner
    | .unknown => none

/-- A text, if going through the operands of its expressions comes to an end. -/
def ended : Option String → Except CursorError (Option String)
  | some text => .ok (some text)
  | none => .error .endlessText

/-- The text of an entity: a name, a type, an argument or an expression. -/
def spelling (cursor : Cursor) (store : Store) : Except CursorError (Option String) :=
  match cursor with
  | null => .ok none
  | decl _ unit id => (store.resolve unit).map fun u => (u.decl? id).map Decl.name
  | base unit id => (store.resolve unit).map fun u =>
    ((u.base? id).bind fun base => u.type? base.type).map CppType.spelling
  | argument unit owner position _ => (store.resolve unit).bind fun u =>
    match u.argument? owner position with
    | some arg => ended (u.argumentText arg)
    | none => .ok none
  | expr _ unit id _ => (store.resolve unit).bind fun u => ended (u.exprText id)

def classify (cursor : Cursor) (store : Store) : Except CursorError TemplateClass :=
  match cursor with
  | decl _ unit id => (store.resolve unit).map fun u =>
    match u.decl? id with
    | some d => .ofDecl d
    | none => .ordinary
  | _ => .ok .ordinary

/-- The length of the template argument list, if there is one. -/
def numTemplateArguments (cursor : Cursor) (store : Store) : Except CursorError (Option Nat) :=
  if cursor.kind.isDeclaration then
    match cursor with
    | decl _ unit id => (store.resolve unit).map fun u =>
      ((u.decl? id).bind Decl.args?).map List.length
    | _ => .ok none
  else .ok none

/-- The cursor of the template argument at a position. -/
def templateArgument (cursor : Cursor) (store : Store) (position : Nat) :
    Except CursorError (Option Cursor) :=
  if cursor.kind.isDeclaration then
    match cursor with
    | decl _ unit id => (store.resolve unit).bind fun u =>
      match (u.decl? id).bind Decl.args? with
      | none => .ok none
      | some args =>
        match args[position]? with
        | some arg => .ok (some (argument u.id id position arg.kind))
        | none => .error (.argumentOutOfRange position args.length)
    | _ => .ok none
  else .ok none

/-- The length of the template parameter list, if there is one. -/
def numTemplateParameters (cursor : Cursor) (store : Store) : Except CursorError (Option Nat) :=
  match cursor with
  | decl kind unit id =>
    if kind.ownsParameters then
      (store.resolve unit).map fun u => ((u.decl? id).bind Decl.params?).map List.length
    else .ok none
  | _ => .ok none

/-- The cursor of the template parameter at a position. -/
def templateParameter (cursor : Cursor) (store : Store) (position : Nat) :
    Except CursorError (Option Cursor) :=
  match cursor with
  | decl kind unit id =>
    if kind.ownsParameters then
      (store.resolve unit).bind fun u =>
        match (u.decl? id).bind Decl.params? with
        | none => .ok none
        | some params =>
          match params[position]? with
          | some param => .ok (ofDecl? u param)
          | none => .error (.parameterOutOfRange position params.length)
    else .ok none
  | _ => .ok none

def isTemplateArgument (cursor : Cursor) : Bool := cursor.kind == .templateArgument

/-- The type of a type argument. -/
def asType (cursor : Cursor) (store : Store) : Except CursorError (Option TypeHandle) :=
  match cursor with
  | argument unit owner position .type => (store.resolve unit).map fun u =>
    ((u.argument? owner position).bind TemplateArgument.type?).map (TypeHandle.valid u.id)
  | _ => .ok none

/-- The value of an integral argument, reduced to 64 bits. -/
def asIntegral (cursor : Cursor) (store : Store) : Except CursorError (Option Int64) :=
  match cursor with
  | argument unit owner position .integral => (store.resolve unit).map fun u =>
    ((u.argument? owner position).bind TemplateArgument.integral?).map Int64.ofInt
  | _ => .ok none

/-- The declaration of a declaration argument. -/
def asDeclaration (cursor : Cursor) (store : Store) : Except CursorError (Option Cursor) :=
  match cursor with
  | argument unit owner position .declaration => (store.resolve unit).map fun u =>
    ((u.argument? owner position).bind TemplateArgument.declaration?).bind (ofDecl? u)
  | _ => .ok none

/-- The template of a template argument, with or without an ellipsis. -/
def asTemplate (cursor : Cursor) (store : Store) : Except CursorError (Option Cursor) :=
  match cursor with
  | argument unit owner position kind =>
    if kind = .template ∨ kind = .templateExpansion then
      (store.resolve unit).map fun u =>
        ((u.argument? owner position).bind TemplateArgument.template?).bind (ofDecl? u)
    else .ok none
  | _ => .ok none

/-- The expression of an expression argument. Arguments do not record where their
expression hangs in the tree. -/
def asExpression (cursor : Cursor) (store : Store) : Except CursorError (Option Cursor) :=
  match cursor with
  | argument unit owner position .expression => (store.resolve unit).map fun u =>
    ((u.argument? owner position).bind TemplateArgument.expression?).bind (ofExpr? u · .unknown)
  | _ => .ok none

/-- The number of elements of a pack argument, reduced to 32 bits. -/
def packSize (cursor : Cursor) (store : Store) : Except CursorError (Option UInt32) :=
  match cursor with
  | argument unit owner position .pack => (store.resolve unit).map fun u =>
    (u.argument? owner position).map fun arg => .ofNat arg.packElements.length
  | _ => .ok none

end Cursor

end CppIntrospect
