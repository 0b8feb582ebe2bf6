import CppIntrospect.Json.Basic
import CppIntrospect.Manifest.Decode

/-! Manifests written in JSON. Unknown fields of the manifest and of its unit only have to
follow the grammar; everything in an entry has to be data. -/

namespace CppIntrospect.Manifest

/-- How deep lists and records may stand within each other, the whole text included. -/
def jsonDepth : Nat := 127

/-- Keeps and converts the members with a wanted name, and drops the others unseen. Every
name has to be a text. -/
def keepMembers (convert : String → Option (Json → Option Datum)) :
    List (Option String × Json) → Option (List (String × Datum))
  | [] => some []
  | (none, _) :: _ => none
  | (some name, value) :: members =>
    match convert name with
    | none => keepMembers convert members
    | some convert' =>
      match convert' value, keepMembers convert members with
      | some datum, some fields => some ((name, datum) :: fields)
      | _, _ => none

/-- The unit, without its unknown fields. -/
def unitData : Json → Option Datum
  | .object members =>
    (keepMembers
      (fun name => if name = "name" then some (Json.toDatum (jsonDepth - 2)) else none)
      members).map .record
  | value => value.toDatum (jsonDepth - 1)

def entriesData (value : Json) : Option Datum := value.toDatum (jsonDepth - 1)

/-- The manifest, without its unknown fields. -/
def jsonData : Json → Option Datum
  | .object members =>
    (keepMembers
      (fun name =>
        if name = "unit" then some unitData
        else if name = "decl" then some entriesData
        else none)
      members).map .record
  | .array [unit] => do
    return .list [← unitData unit]
  | .array [unit, entries] => do
    return .list [← unitData unit, ← entriesData entries]
  | _ => none

def ofJson? (text : String) : Option Manifest := do
  let json ← Json.parse? text
  let datum ← jsonData json
  decode .json datum

end CppIntrospect.Manifest
