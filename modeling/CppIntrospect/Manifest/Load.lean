import CppIntrospect.Log.Record
import CppIntrospect.Manifest.Lower
import CppIntrospect.Store

/-! Loading a manifest into a store. -/

namespace CppIntrospect.Manifest

/-- A loaded manifest: the new unit, the store after it, and what was put on record. -/
structure Loading where
  result : Except ManifestError UnitId
  store : Store
  events : List Event

/-- The record of the entries that were lowered. -/
def loweredEvents (manifest : Manifest) : List Event :=
  manifest.lowerInPlace.1.map fun (entry, place) => .lowered entry place

/-- Lowers a manifest and registers the unit. -/
def load (manifest : Manifest) (store : Store) : Loading :=
  match manifest.toBuilder with
  | .error fault => ⟨.error fault, store, manifest.loweredEvents⟩
  | .ok builder =>
    match store.add builder with
    | (.error fault, store) => ⟨.error (.rejected fault), store, manifest.loweredEvents⟩
    | (.ok id, store) =>
      ⟨.ok id, store, manifest.loweredEvents ++ Log.ofAdd builder (.ok id) ++
        [.loaded id manifest.unitName manifest.entries.length]⟩

end CppIntrospect.Manifest
