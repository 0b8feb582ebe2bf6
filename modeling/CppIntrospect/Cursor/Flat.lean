import CppIntrospect.Log.Record

/-! The flat surface: every question answered by a plain value. A missing answer and a
disposed unit both give the sentinel of the question; a disposed unit is put on record, since
the sentinel does not show it. -/

namespace CppIntrospect.Cursor.Flat

/-- The count of a list that does not exist. -/
def unknownCount : Nat := UInt32.size - 1

/-- The value of an argument that is not integral. -/
def notIntegral : Int64 := Int64.minValue

def flatten {α : Type} (accessor : Accessor) (cursor : Cursor) (sentinel : α) :
    Except CursorError α → Recorded α
  | .ok value => ⟨value, Log.ofQuery accessor cursor⟩
  | .error fault => ⟨sentinel, Log.ofQuery accessor cursor ++ [.staleQuery accessor fault]⟩

def flattenSome {α : Type} (accessor : Accessor) (cursor : Cursor) (sentinel : α)
    (typed : Except CursorError (Option α)) : Recorded α :=
  (flatten accessor cursor none typed).map fun found => found.getD sentinel

/-- A position beyond the end of a list stays an error, and nothing reports it. -/
def flattenAt (accessor : Accessor) (cursor : Cursor) :
    Except CursorError (Option Cursor) → Recorded (Except CursorError Cursor)
  | .ok found => (flattenSome accessor cursor .null (.ok found)).map .ok
  | .error (.staleUnit unit) =>
    (flattenSome accessor cursor .null (.error (.staleUnit unit))).map .ok
  | .error fault => ⟨.error fault, Log.ofQuery accessor cursor⟩

def isVirtualBase (cursor : Cursor) (store : Store) : Recorded Bool :=
  flatten .isVirtualBase cursor false (cursor.isVirtualBase store)

def accessSpecifier (cursor : Cursor) (store : Store) : Recorded Access :=
  flatten .accessSpecifier cursor .unspecified (cursor.accessSpecifier store)

def templateCursorKind (cursor : Cursor) (store : Store) : Recorded CursorKind :=
  flatten .templateCursorKind cursor .noDeclFound (cursor.templateCursorKind store)

def specializedTemplate (cursor : Cursor) (store : Store) : Recorded Cursor :=
  flattenSome .specializedTemplate cursor .null (cursor.specializedTemplate store)

def semanticParent (cursor : Cursor) (store : Store) : Recorded Cursor :=
  flattenSome .semanticParent cursor .null (cursor.semanticParent store)

def numTemplateArguments (cursor : Cursor) (store : Store) : Recorded Nat :=
  flattenSome .numTemplateArguments cursor unknownCount (cursor.numTemplateArguments store)

def templateArgument (cursor : Cursor) (store : Store) (position : Nat) :
    Recorded (Except CursorError Cursor) :=
  flattenAt .templateArgument cursor (cursor.templateArgument store position)

def numTemplateParameters (cursor : Cursor) (store : Store) : Recorded Nat :=
  flattenSome .numTemplateParameters cursor unknownCount (cursor.numTemplateParameters store)

def templateParameter (cursor : Cursor) (store : Store) (position : Nat) :
    Recorded (Except CursorError Cursor) :=
  flattenAt .templateParameter cursor (cursor.templateParameter store position)

/-- The kind of an argument is read off the cursor, so no unit can be missing. -/
def argumentKind (cursor : Cursor) : Recorded ArgumentKind :=
  ⟨cursor.argumentKind?.getD .invalid, []⟩

def argumentType (cursor : Cursor) (store : Store) : Recorded TypeHandle :=
  flattenSome .asType cursor .invalid (cursor.asType store)

def argumentValue (cursor : Cursor) (store : Store) : Recorded Int64 :=
  flattenSome .asIntegral cursor notIntegral (cursor.asIntegral store)

def argumentDeclaration (cursor : Cursor) (store : Store) : Recorded Cursor :=
  flattenSome .asDeclaration cursor .null (cursor.asDeclaration store)

def argumentTemplate (cursor : Cursor) (store : Store) : Recorded Cursor :=
  flattenSome .asTemplate cursor .null (cursor.asTemplate store)

def argumentExpression (cursor : Cursor) (store : Store) : Recorded Cursor :=
  flattenSome .asExpression cursor .null (cursor.asExpression store)

end CppIntrospect.Cursor.Flat
