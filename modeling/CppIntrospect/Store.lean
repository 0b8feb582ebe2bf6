import CppIntrospect.TranslationUnit.References

/-! The store of live translation units. A unit lives in a slot, and the generation of
the slot advances when the unit is disposed, so that old ids never name a new unit
until the generation comes round again. -/

namespace CppIntrospect

structure Slot where
  generation : UInt32 := 0
  unit : Option TranslationUnit := none
  deriving DecidableEq, Repr

structure Store where
  slots : List Slot := []
  deriving DecidableEq, Repr

namespace Store

def empty : Store := {}

/-- The first slot without a unit, or the place after the last slot. -/
def freeSlot (store : Store) : Nat := store.slots.findIdx (·.unit.isNone)

/-- The slots, with one more if all are taken. -/
def withFreeSlot (store : Store) : List Slot :=
  if store.freeSlot < store.slots.length then store.slots else store.slots ++ [⟨0, none⟩]

/-- The id that the next registered unit gets. -/
def nextId (store : Store) : UnitId :=
  { slot := store.freeSlot
    generation := ((store.withFreeSlot[store.freeSlot]?).map Slot.generation).getD 0 }

/-- Checks a unit and registers it. -/
def add (store : Store) (builder : Builder) : Except UnitError UnitId × Store :=
  let id := store.nextId
  match builder.build id with
  | .error fault => (.error fault, ⟨store.withFreeSlot⟩)
  | .ok unit =>
    (.ok id, ⟨store.withFreeSlot.modify id.slot fun slot => { slot with unit := some unit }⟩)

/-- The live unit with an id. -/
def find? (store : Store) (id : UnitId) : Option TranslationUnit :=
  match store.slots[id.slot]? with
  | some slot => if slot.generation = id.generation then slot.unit else none
  | none => none

def unit (store : Store) (id : UnitId) : Except UnitError TranslationUnit :=
  match store.find? id with
  | some unit => .ok unit
  | none => .error (.staleUnit id)

def isAlive (store : Store) (id : UnitId) : Bool := (store.find? id).isSome

/-- Removes a unit. Every id into it becomes stale. -/
def dispose (store : Store) (id : UnitId) : Except UnitError TranslationUnit × Store :=
  match store.find? id with
  | some unit =>
    (.ok unit, ⟨store.slots.modify id.slot fun slot => ⟨slot.generation + 1, none⟩⟩)
  | none => (.error (.staleUnit id), store)

/-- The live units in the order of their slots. -/
def units (store : Store) : List TranslationUnit := store.slots.filterMap Slot.unit

end Store

end CppIntrospect
