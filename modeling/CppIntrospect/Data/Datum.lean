/-! Values of the data formats that manifests are written in and reports are printed in. -/

namespace CppIntrospect

inductive Datum where
  | null
  | bool (value : Bool)
  | integer (value : Int)
  | text (value : String)
  | list (items : List Datum)
  /-- Fields in the order in which they are written; names may repeat. -/
  | record (fields : List (String × Datum))
  /-- A number that is no integer, or a date. No field takes one. -/
  | other
  deriving Repr

namespace Datum

/-- The value of a field written at most once: `none` if it is repeated. -/
def fieldOnce (fields : List (String × Datum)) (name : String) : Option (Option Datum) :=
  match fields.filter (·.1 == name) with
  | [] => some none
  | [(_, value)] => some (some value)
  | _ => none

/-- Reads a field that has to be there, exactly once. -/
def required {α : Type} (read : Datum → Option α) (fields : List (String × Datum))
    (name : String) : Option α :=
  match fieldOnce fields name with
  | some (some value) => read value
  | _ => none

/-- Reads a field that may be missing. -/
def optional {α : Type} (read : Datum → Option α) (default : α)
    (fields : List (String × Datum)) (name : String) : Option α :=
  match fieldOnce fields name with
  | some (some value) => read value
  | some none => some default
  | none => none

def text? : Datum → Option String
  | text value => some value
  | _ => none

def bool? : Datum → Option Bool
  | bool value => some value
  | _ => none

/-- An integer of 64 bits with sign. -/
def int64? : Datum → Option Int64
  | integer value =>
    if Int64.minValue.toInt ≤ value ∧ value ≤ Int64.maxValue.toInt then some (.ofInt value)
    else none
  | _ => none

/-- An integer of 32 bits without sign. -/
def uint32? : Datum → Option UInt32
  | integer value =>
    if 0 ≤ value ∧ value < UInt32.size then some (.ofNat value.toNat) else none
  | _ => none

/-- A value that may also be written as null. -/
def nullable? {α : Type} (read : Datum → Option α) : Datum → Option (Option α)
  | null => some none
  | value => (read value).map some

/-- Reads the items of a list in order; all of them have to be readable. -/
def readAll {α : Type} (read : Datum → Option α) : List Datum → Option (List α)
  | [] => some []
  | item :: items =>
    match read item, readAll read items with
    | some value, some values => some (value :: values)
    | _, _ => none

def listOf? {α : Type} (read : Datum → Option α) : Datum → Option (List α)
  | list items => readAll read items
  | _ => none

end Datum

end CppIntrospect
