import CppIntrospect.Cursor.Accessor
import CppIntrospect.Data.Datum

/-! Reports: for every declaration of a unit, what its cursor answers. -/

namespace CppIntrospect.Report

structure ArgumentReport where
  kind : String
  spelling : String
  deriving DecidableEq, Repr

structure BaseReport where
  type : String
  access : String
  isVirtual : Bool
  deriving DecidableEq, Repr

structure DeclReport where
  id : String
  name : String
  kind : String
  parent : Option String
  access : Option String
  templateClass : String
  specializedFrom : Option String
  produces : Option String
  parameters : Option (List String)
  arguments : Option (List ArgumentReport)
  bases : List BaseReport
  deriving DecidableEq, Repr

def templateClassName : TemplateClass → String
  | .ordinary => "ordinary"
  | .primaryTemplate => "primary template"
  | .classSpecialization => "class specialization"
  | .classPartialSpecialization => "class partial specialization"
  | .memberSpecialization => "member specialization"
  | .dependentSpecialization => "dependent specialization"
  | .functionSpecialization => "function specialization"
  | .nonTemplate => "non-template function"

/-- The text of an entity, empty if it has none. -/
def textOf (store : Store) (cursor : Cursor) : Except CursorError String :=
  (cursor.spelling store).map fun text => text.getD ""

/-- The text of an entity followed by its kind. -/
def label (store : Store) (cursor : Cursor) : Except CursorError String :=
  (textOf store cursor).map fun text => text ++ " (" ++ cursor.kind.spelling ++ ")"

def label? (store : Store) : Option Cursor → Except CursorError (Option String)
  | some cursor => (label store cursor).map some
  | none => .ok none

/-- The answers at the given positions, without those that are missing. -/
def answersAt {α : Type} (ask : Nat → Except CursorError (Option α)) :
    List Nat → Except CursorError (List α)
  | [] => .ok []
  | position :: positions => do
    let answer ← ask position
    let answers ← answersAt ask positions
    return answer.toList ++ answers

def parameters (store : Store) (cursor : Cursor) :
    Except CursorError (Option (List String)) := do
  match ← cursor.numTemplateParameters store with
  | none => return none
  | some count =>
    let labels ← answersAt
      (fun i => (cursor.templateParameter store i).bind (label? store)) (List.range count)
    return some labels

def argument (store : Store) (cursor : Cursor) : Except CursorError ArgumentReport := do
  let spelling ← textOf store cursor
  return ⟨(cursor.argumentKind?.getD .invalid).spelling, spelling⟩

def argument? (store : Store) : Option Cursor → Except CursorError (Option ArgumentReport)
  | some cursor => (argument store cursor).map some
  | none => .ok none

def arguments (store : Store) (cursor : Cursor) :
    Except CursorError (Option (List ArgumentReport)) := do
  match ← cursor.numTemplateArguments store with
  | none => return none
  | some count =>
    let reports ← answersAt
      (fun i => (cursor.templateArgument store i).bind (argument? store)) (List.range count)
    return some reports

def base (store : Store) (cursor : Cursor) : Except CursorError BaseReport := do
  let type ← textOf store cursor
  let access ← cursor.accessSpecifier store
  let isVirtual ← cursor.isVirtualBase store
  return ⟨type, access.spelling, isVirtual⟩

def bases (store : Store) (cursor : Cursor) : Except CursorError (List BaseReport) := do
  let cursors ← cursor.baseCursors store
  cursors.mapM (base store)

/-- The report on the declaration behind a cursor. -/
def ofCursor (store : Store) (cursor : Cursor) : Except CursorError DeclReport := do
  let parent ← (cursor.semanticParent store).bind (label? store)
  let access ← cursor.accessSpecifier store
  let specializedFrom ← (cursor.specializedTemplate store).bind (label? store)
  let produces ← cursor.templateCursorKind store
  let parameters ← parameters store cursor
  let arguments ← arguments store cursor
  let bases ← bases store cursor
  let name ← textOf store cursor
  let templateClass ← cursor.classify store
  return {
    id := (cursor.decl?.map DeclId.label).getD ""
    name
    kind := cursor.kind.spelling
    parent
    access := if access = .unspecified then none else some access.spelling
    templateClass := templateClassName templateClass
    specializedFrom
    produces := if produces = .noDeclFound then none else some produces.spelling
    parameters
    arguments
    bases }

end CppIntrospect.Report

namespace CppIntrospect

structure Report where
  unit : String
  decls : List Report.DeclReport
  deriving DecidableEq, Repr

namespace Report

/-- Whether a report restricted to a name covers a declaration. -/
def covers (only : Option String) (unit : TranslationUnit) (id : DeclId) : Bool :=
  match only with
  | none => true
  | some name => unit.declName id == name

/-- The report on a unit, restricted to declarations with a name if one is given. -/
def ofUnit (store : Store) (id : UnitId) (only : Option String) :
    Except CursorError Report := do
  let unit ← store.resolve id
  let decls ← (unit.declIds.filter (covers only unit)).mapM fun decl =>
    (store.declCursor id decl).bind (ofCursor store)
  return ⟨unit.name, decls⟩

end Report

end CppIntrospect
