import CppIntrospect.Store

/-! A store seen as a function from slot numbers to slots. A slot beyond the last one
looks like a new slot, so making room for a unit is not visible. -/

theorem CppIntrospect.Builder.build_id {builder : Builder} {id : UnitId} {unit : TranslationUnit}
    (h : builder.build id = .ok unit) : unit.id = id := by
  unfold Builder.build at h
  split at h
  · cases h
  · cases h
    rfl

theorem CppIntrospect.Builder.build_fields {builder : Builder} {id : UnitId}
    {unit : TranslationUnit} (h : builder.build id = .ok unit) :
    unit.decls = builder.decls ∧ unit.bases = builder.bases ∧ unit.types = builder.types ∧
      unit.exprs = builder.exprs := by
  unfold Builder.build at h
  split at h
  · cases h
  · cases h
    exact ⟨rfl, rfl, rfl, rfl⟩

namespace CppIntrospect.Store

def slotAt (store : Store) (slot : Nat) : Slot := (store.slots[slot]?).getD ⟨0, none⟩

theorem find?_eq_slotAt (store : Store) (id : UnitId) :
    store.find? id =
      if (store.slotAt id.slot).generation = id.generation then (store.slotAt id.slot).unit
      else none := by
  unfold find? slotAt
  cases store.slots[id.slot]? with
  | none => simp
  | some slot => rfl

theorem find?_eq_some_iff {store : Store} {id : UnitId} {unit : TranslationUnit} :
    store.find? id = some unit ↔
      (store.slotAt id.slot).generation = id.generation ∧
        (store.slotAt id.slot).unit = some unit := by
  rw [find?_eq_slotAt]
  split <;> simp_all

theorem unit_eq_ok_iff {store : Store} {id : UnitId} {unit : TranslationUnit} :
    store.unit id = .ok unit ↔ store.find? id = some unit := by
  unfold Store.unit
  cases store.find? id <;> simp

theorem unit_eq_stale_iff {store : Store} {id : UnitId} :
    store.unit id = .error (.staleUnit id) ↔ store.find? id = none := by
  unfold Store.unit
  cases store.find? id <;> simp

/-- Looking up and disposing a unit give the same answer. -/
theorem dispose_fst (store : Store) (id : UnitId) : (store.dispose id).1 = store.unit id := by
  unfold dispose Store.unit
  cases store.find? id <;> rfl

theorem slotAt_withFreeSlot (store : Store) (slot : Nat) :
    slotAt ⟨store.withFreeSlot⟩ slot = store.slotAt slot := by
  unfold slotAt withFreeSlot
  split
  · rfl
  · rcases Nat.lt_trichotomy slot store.slots.length with h | h | h
    · rw [List.getElem?_append_left h]
    · simp [h]
    · rw [List.getElem?_eq_none (by simp; omega), List.getElem?_eq_none (by omega)]

theorem freeSlot_lt (store : Store) : store.freeSlot < store.withFreeSlot.length := by
  have h : store.freeSlot ≤ store.slots.length := List.findIdx_le_length
  unfold withFreeSlot
  split
  · assumption
  · simp only [List.length_append, List.length_singleton]
    omega

theorem slotAt_nextId_unit (store : Store) : (store.slotAt store.nextId.slot).unit = none := by
  change (store.slotAt store.freeSlot).unit = none
  unfold slotAt
  by_cases h : store.freeSlot < store.slots.length
  · have hf : (store.slots[store.freeSlot]).unit.isNone = true :=
      List.findIdx_getElem (p := fun slot : Slot => slot.unit.isNone) (w := h)
    rw [List.getElem?_eq_getElem h]
    simpa using hf
  · rw [List.getElem?_eq_none (Nat.not_lt.mp h)]
    rfl

theorem slotAt_nextId_generation (store : Store) :
    (store.slotAt store.nextId.slot).generation = store.nextId.generation := by
  rw [← slotAt_withFreeSlot]
  unfold slotAt nextId
  rw [List.getElem?_eq_getElem store.freeSlot_lt]
  rfl

theorem find?_nextId (store : Store) : store.find? store.nextId = none := by
  rw [find?_eq_slotAt]
  split
  · exact store.slotAt_nextId_unit
  · rfl

theorem lt_length_of_slotAt_unit {store : Store} {slot : Nat} {unit : TranslationUnit}
    (h : (store.slotAt slot).unit = some unit) : slot < store.slots.length := by
  apply Nat.lt_of_not_le
  intro hn
  simp [slotAt, List.getElem?_eq_none hn] at h

theorem slotAt_modify {slots : List Slot} {place : Nat} (change : Slot → Slot)
    (hp : place < slots.length) (slot : Nat) :
    slotAt ⟨slots.modify place change⟩ slot =
      if slot = place then change (slotAt ⟨slots⟩ slot) else slotAt ⟨slots⟩ slot := by
  unfold slotAt
  rw [List.getElem?_modify]
  by_cases h : slot = place
  · simp [h, List.getElem?_eq_getElem hp]
  · simp [h, Ne.symm h]

/-- Everything that registering a unit can do. -/
theorem add_cases (store : Store) (builder : Builder) :
    (∃ fault, builder.build store.nextId = .error fault ∧
      (store.add builder).1 = .error fault ∧
      ∀ slot, (store.add builder).2.slotAt slot = store.slotAt slot) ∨
    ∃ unit, builder.build store.nextId = .ok unit ∧ (store.add builder).1 = .ok store.nextId ∧
      ∀ slot, (store.add builder).2.slotAt slot =
        if slot = store.nextId.slot then ⟨store.nextId.generation, some unit⟩
        else store.slotAt slot := by
  cases hb : builder.build store.nextId with
  | error fault =>
    refine .inl ⟨fault, rfl, ?_, fun slot => ?_⟩
    · simp [add, hb]
    · simpa [add, hb] using store.slotAt_withFreeSlot slot
  | ok unit =>
    refine .inr ⟨unit, rfl, ?_, fun slot => ?_⟩
    · simp [add, hb]
    · have hlt : store.nextId.slot < store.withFreeSlot.length := store.freeSlot_lt
      simp only [add, hb]
      rw [slotAt_modify _ hlt, slotAt_withFreeSlot]
      split
      · next h => rw [h, slotAt_nextId_generation]
      · rfl

/-- Everything that disposing a unit can do. -/
theorem dispose_cases (store : Store) (id : UnitId) :
    (store.find? id = none ∧ store.dispose id = (.error (.staleUnit id), store)) ∨
    ∃ unit, store.find? id = some unit ∧ (store.dispose id).1 = .ok unit ∧
      ∀ slot, (store.dispose id).2.slotAt slot =
        if slot = id.slot then ⟨id.generation + 1, none⟩ else store.slotAt slot := by
  cases hf : store.find? id with
  | none => exact .inl ⟨rfl, by simp [dispose, hf]⟩
  | some unit =>
    refine .inr ⟨unit, rfl, by simp [dispose, hf], fun slot => ?_⟩
    have hs := find?_eq_some_iff.mp hf
    simp only [dispose, hf]
    rw [slotAt_modify _ (lt_length_of_slotAt_unit hs.2)]
    split
    · next h => rw [h, hs.1]
    · rfl

theorem units_eq_range (store : Store) :
    store.units =
      (List.range store.slots.length).filterMap fun slot => (store.slotAt slot).unit := by
  have h : store.slots = (List.range store.slots.length).map store.slotAt := by
    apply List.ext_getElem (by simp)
    intro i hi _
    simp [slotAt, List.getElem?_eq_getElem hi]
  calc
    store.units = ((List.range store.slots.length).map store.slotAt).filterMap Slot.unit := by
      rw [← h]; rfl
    _ = _ := by rw [List.filterMap_map]; rfl

theorem mem_units_iff {store : Store} {unit : TranslationUnit} :
    unit ∈ store.units ↔ ∃ slot, (store.slotAt slot).unit = some unit := by
  simp only [units_eq_range, List.mem_filterMap, List.mem_range]
  constructor
  · rintro ⟨slot, _, h⟩
    exact ⟨slot, h⟩
  · rintro ⟨slot, h⟩
    exact ⟨slot, lt_length_of_slotAt_unit h, h⟩

theorem filterMap_modify_perm {place : Nat} {change : Slot → Slot} {slot : Slot}
    {unit : TranslationUnit} {slots : List Slot} (hs : slots[place]? = some slot)
    (hn : slot.unit = none) (hc : (change slot).unit = some unit) :
    ((slots.modify place change).filterMap Slot.unit).Perm (unit :: slots.filterMap Slot.unit) := by
  induction slots generalizing place with
  | nil => simp at hs
  | cons first slots ih =>
    cases place with
    | zero =>
      obtain rfl : first = slot := by simpa using hs
      simp [hn, hc]
    | succ place =>
      have hp := ih (by simpa using hs)
      rw [List.modify_succ_cons]
      cases hf : first.unit with
      | none => simpa [List.filterMap_cons, hf] using hp
      | some held =>
        rw [List.filterMap_cons_some hf, List.filterMap_cons_some hf]
        exact (hp.cons held).trans (List.Perm.swap unit held _)

theorem units_withFreeSlot (store : Store) :
    store.withFreeSlot.filterMap Slot.unit = store.units := by
  unfold withFreeSlot
  split
  · rfl
  · simp [units]

/-- A registered unit is the only change that a store shows. -/
theorem add_ok_lookup {store : Store} {builder : Builder} {id : UnitId}
    (h : (store.add builder).1 = .ok id) :
    store.unit id = .error (.staleUnit id) ∧
    (∃ unit, builder.build id = .ok unit ∧ (store.add builder).2.unit id = .ok unit ∧
      (store.add builder).2.units.Perm (unit :: store.units)) ∧
    ∀ other, other ≠ id → (store.add builder).2.unit other = store.unit other := by
  rcases store.add_cases builder with ⟨fault, _, hf, _⟩ | ⟨unit, hb, hi, hs⟩
  · simp [hf] at h
  · obtain rfl : store.nextId = id := by simpa [hi] using h
    refine ⟨unit_eq_stale_iff.mpr store.find?_nextId, ⟨unit, hb, ?_, ?_⟩, ?_⟩
    · rw [unit_eq_ok_iff, find?_eq_some_iff, hs, if_pos rfl]
      exact ⟨rfl, rfl⟩
    · have hlt : store.nextId.slot < store.withFreeSlot.length := store.freeSlot_lt
      have hfree : (store.withFreeSlot[store.nextId.slot]).unit = none := by
        have hh := store.slotAt_nextId_unit
        rw [← slotAt_withFreeSlot] at hh
        simpa [slotAt, List.getElem?_eq_getElem hlt] using hh
      rw [← units_withFreeSlot store]
      simp only [add, hb, units]
      refine filterMap_modify_perm (List.getElem?_eq_getElem hlt) hfree ?_
      rfl
    · intro other hne
      have hfind : (store.add builder).2.find? other = store.find? other := by
        rw [find?_eq_slotAt, find?_eq_slotAt, hs]
        by_cases hslot : other.slot = store.nextId.slot
        · -- The slot was free, and the new unit has another generation.
          have hgen : store.nextId.generation ≠ other.generation := by
            intro hg
            apply hne
            rw [show other = ⟨other.slot, other.generation⟩ from rfl, hslot, ← hg]
          rw [if_pos hslot, if_neg hgen, hslot, slotAt_nextId_unit, ite_self]
        · rw [if_neg hslot]
      unfold Store.unit
      rw [hfind]

end CppIntrospect.Store
