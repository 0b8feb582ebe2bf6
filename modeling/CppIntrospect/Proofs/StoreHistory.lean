import CppIntrospect.Proofs.StoreView
import Mathlib.Data.List.Induction
import Mathlib.Data.List.Pairwise
import Mathlib.Data.Nat.ModEq

/-! Runs of a store from the empty store, each with the record of what its calls did.
The record decides what a lookup answers: the generation of a slot counts the removals
from it, modulo `2 ^ 32`, and the unit of a slot is the one stored last and not removed. -/

namespace CppIntrospect

inductive StoreCall where
  | add (builder : Builder)
  | dispose (id : UnitId)
  deriving DecidableEq, Repr

inductive StoreEffect where
  | stored (id : UnitId) (builder : Builder)
  | removed (id : UnitId)
  | refused
  deriving DecidableEq, Repr

namespace StoreEffect

/-- The id that was given out or taken back. -/
def unit? : StoreEffect → Option UnitId
  | stored id _ => some id
  | removed id => some id
  | refused => none

def storedId? : StoreEffect → Option UnitId
  | stored id _ => some id
  | _ => none

def removesFrom (slot : Nat) : StoreEffect → Bool
  | removed id => id.slot == slot
  | _ => false

end StoreEffect

def StoreCall.perform (store : Store) : StoreCall → StoreEffect × Store
  | add builder =>
    match store.add builder with
    | (.ok id, next) => (.stored id builder, next)
    | (.error _, next) => (.refused, next)
  | dispose id =>
    match store.dispose id with
    | (.ok _, next) => (.removed id, next)
    | (.error _, next) => (.refused, next)

def removals (slot : Nat) (history : List StoreEffect) : Nat :=
  history.countP (StoreEffect.removesFrom slot)

/-- A unit was stored in a slot after `count` removals from that slot, and none came since. -/
def Resides (history : List StoreEffect) (slot count : Nat) (unit : TranslationUnit) : Prop :=
  ∃ past later id builder, history = past ++ .stored id builder :: later ∧ id.slot = slot ∧
    builder.build id = .ok unit ∧ removals slot past = count ∧ removals slot later = 0

/-- A store and the record of how it came about, oldest effect first. -/
structure StoreRun where
  store : Store := Store.empty
  history : List StoreEffect := []

namespace StoreRun

def next (run : StoreRun) (call : StoreCall) : StoreRun :=
  ⟨(call.perform run.store).2, run.history ++ [(call.perform run.store).1]⟩

def of (calls : List StoreCall) : StoreRun := calls.foldl next {}

theorem of_append (calls more : List StoreCall) :
    of (calls ++ more) = more.foldl next (of calls) := List.foldl_append

end StoreRun

theorem removals_append (slot : Nat) (history more : List StoreEffect) :
    removals slot (history ++ more) = removals slot history + removals slot more :=
  List.countP_append

theorem removals_cons_stored (slot : Nat) (id : UnitId) (builder : Builder)
    (history : List StoreEffect) :
    removals slot (.stored id builder :: history) = removals slot history := rfl

theorem removals_cons_removed (id : UnitId) (history : List StoreEffect) :
    removals id.slot (.removed id :: history) = removals id.slot history + 1 := by
  simp [removals, StoreEffect.removesFrom]

theorem removals_removed_of_ne {slot : Nat} {id : UnitId} (h : slot ≠ id.slot) :
    removals slot [.removed id] = 0 := by
  simp [removals, StoreEffect.removesFrom, Ne.symm h]

theorem append_singleton_eq_split {past later history : List StoreEffect}
    {effect last : StoreEffect} (h : history ++ [last] = past ++ effect :: later) :
    (history = past ∧ last = effect ∧ later = []) ∨
      ∃ rest, later = rest ++ [last] ∧ history = past ++ effect :: rest := by
  cases later using List.reverseRecOn with
  | nil => exact .inl ⟨(List.append_inj' h rfl).1, by simpa using (List.append_inj' h rfl).2, rfl⟩
  | append_singleton rest final =>
    rw [← List.cons_append, ← List.append_assoc] at h
    have hh := List.append_inj' h rfl
    exact .inr ⟨rest, by rw [List.cons.inj hh.2 |>.1], hh.1⟩

theorem Resides.count_eq {history : List StoreEffect} {slot count : Nat} {unit : TranslationUnit}
    (h : Resides history slot count unit) : count = removals slot history := by
  obtain ⟨past, later, id, builder, rfl, _, _, rfl, hl⟩ := h
  rw [removals_append, removals_cons_stored, hl, Nat.add_zero]

theorem Resides.append {history : List StoreEffect} {slot count : Nat} {unit : TranslationUnit}
    (h : Resides history slot count unit) {effect : StoreEffect}
    (he : removals slot [effect] = 0) : Resides (history ++ [effect]) slot count unit := by
  obtain ⟨past, later, id, builder, rfl, hs, hb, hc, hl⟩ := h
  refine ⟨past, later ++ [effect], id, builder, by simp, hs, hb, hc, ?_⟩
  rw [removals_append, hl, he]

theorem resides_append_iff {history : List StoreEffect} {effect : StoreEffect}
    {slot count : Nat} {unit : TranslationUnit} :
    Resides (history ++ [effect]) slot count unit ↔
      (Resides history slot count unit ∧ removals slot [effect] = 0) ∨
      ∃ id builder, effect = .stored id builder ∧ id.slot = slot ∧
        builder.build id = .ok unit ∧ removals slot history = count := by
  constructor
  · rintro ⟨past, later, id, builder, he, hs, hb, hc, hl⟩
    rcases append_singleton_eq_split he with ⟨rfl, rfl, rfl⟩ | ⟨rest, rfl, rfl⟩
    · exact .inr ⟨id, builder, rfl, hs, hb, hc⟩
    · rw [removals_append] at hl
      exact .inl ⟨⟨past, rest, id, builder, rfl, hs, hb, hc, by omega⟩, by omega⟩
  · rintro (⟨h, he⟩ | ⟨id, builder, rfl, hs, hb, hc⟩)
    · exact h.append he
    · exact ⟨history, [], id, builder, rfl, hs, hb, hc, rfl⟩

theorem removals_refused (slot : Nat) : removals slot [.refused] = 0 := rfl

theorem removals_stored (slot : Nat) (id : UnitId) (builder : Builder) :
    removals slot [.stored id builder] = 0 := rfl

/-- Everything that a call can do to the slots of a store. -/
theorem StoreCall.perform_cases (store : Store) (call : StoreCall) :
    ((call.perform store).1 = .refused ∧
      ∀ slot, (call.perform store).2.slotAt slot = store.slotAt slot) ∨
    (∃ builder unit, (call.perform store).1 = .stored store.nextId builder ∧
      builder.build store.nextId = .ok unit ∧
      ∀ slot, (call.perform store).2.slotAt slot =
        if slot = store.nextId.slot then ⟨store.nextId.generation, some unit⟩
        else store.slotAt slot) ∨
    ∃ id unit, (call.perform store).1 = .removed id ∧ store.find? id = some unit ∧
      ∀ slot, (call.perform store).2.slotAt slot =
        if slot = id.slot then ⟨id.generation + 1, none⟩ else store.slotAt slot := by
  cases call with
  | add builder =>
    rcases ha : store.add builder with ⟨answer, after⟩
    rcases store.add_cases builder with ⟨fault, _, hf, hs⟩ | ⟨unit, hb, hi, hs⟩
    · rw [ha] at hf hs
      subst hf
      exact .inl ⟨by simp only [perform, ha], by simpa only [perform, ha] using hs⟩
    · rw [ha] at hi hs
      subst hi
      exact .inr (.inl ⟨builder, unit, by simp only [perform, ha], hb,
        by simpa only [perform, ha] using hs⟩)
  | dispose id =>
    rcases ha : store.dispose id with ⟨answer, after⟩
    rcases store.dispose_cases id with ⟨_, hd⟩ | ⟨unit, hf, hu, hs⟩
    · obtain ⟨rfl, rfl⟩ := Prod.mk.inj (ha.symm.trans hd)
      exact .inl (by simp [perform, hd])
    · rw [ha] at hu hs
      subst hu
      exact .inr (.inr ⟨id, unit, by simp only [perform, ha], hf,
        by simpa only [perform, ha] using hs⟩)

/-- The slots of a store agree with the record of its run. -/
structure StoreRun.Tracks (run : StoreRun) : Prop where
  generation : ∀ slot,
    (run.store.slotAt slot).generation = UInt32.ofNat (removals slot run.history)
  unit : ∀ slot unit, (run.store.slotAt slot).unit = some unit ↔
    Resides run.history slot (removals slot run.history) unit
  /-- An id carries the number of removals that came before it was given out or taken back. -/
  numbered : ∀ past effect later id, run.history = past ++ effect :: later →
    effect.unit? = some id → id.generation = UInt32.ofNat (removals id.slot past)
  accepted : ∀ id builder, .stored id builder ∈ run.history → ∃ unit, builder.build id = .ok unit

variable {run : StoreRun}

namespace StoreRun

theorem tracks_start : Tracks {} where
  generation _ := rfl
  unit slot unit := by
    constructor
    · intro h
      cases h
    · rintro ⟨past, later, id, builder, h, _⟩
      simp at h
  numbered past effect later id h := by simp at h
  accepted id builder h := by simp at h

theorem Tracks.next_generation (h : run.Tracks) (call : StoreCall) (slot : Nat) :
    ((run.next call).store.slotAt slot).generation =
      UInt32.ofNat (removals slot (run.next call).history) := by
  simp only [next, removals_append]
  rcases call.perform_cases run.store with
    ⟨he, hs⟩ | ⟨builder, unit, he, _, hs⟩ | ⟨id, unit, he, hf, hs⟩
  · rw [hs, he, removals_refused]
    exact h.generation slot
  · rw [hs, he, removals_stored]
    split
    · next hn =>
      rw [← Store.slotAt_nextId_generation, hn]
      exact h.generation _
    · exact h.generation slot
  · rw [hs, he]
    by_cases hn : slot = id.slot
    · have hg := (Store.find?_eq_some_iff.mp hf).1
      subst hn
      rw [if_pos rfl, removals_cons_removed, ← hg, h.generation]
      simp [removals, UInt32.ofNat_add]
    · rw [if_neg hn, removals_removed_of_ne hn]
      exact h.generation slot

theorem Tracks.next_unit (h : run.Tracks) (call : StoreCall) (slot : Nat)
    (unit : TranslationUnit) :
    ((run.next call).store.slotAt slot).unit = some unit ↔
      Resides (run.next call).history slot (removals slot (run.next call).history) unit := by
  simp only [next, removals_append, resides_append_iff]
  rcases call.perform_cases run.store with
    ⟨he, hs⟩ | ⟨builder, made, he, hb, hs⟩ | ⟨id, gone, he, hf, hs⟩
  · simp [hs, he, removals_refused, h.unit]
  · rw [hs, he, removals_stored]
    by_cases hn : slot = run.store.nextId.slot
    · -- The slot was free, so nothing resided in it.
      have hfree : ¬ Resides run.history slot (removals slot run.history) unit := by
        rw [← h.unit, hn]
        simp [Store.slotAt_nextId_unit]
      rw [if_pos hn]
      constructor
      · intro hu
        obtain rfl : made = unit := by simpa using hu
        exact .inr ⟨_, builder, rfl, hn.symm, hb, rfl⟩
      · rintro (⟨hr, _⟩ | ⟨_, _, heq, _, hb', _⟩)
        · exact absurd hr hfree
        · obtain ⟨rfl, rfl⟩ := StoreEffect.stored.inj heq
          simpa [hb] using hb'
    · rw [if_neg hn, h.unit]
      constructor
      · exact fun hr => .inl ⟨hr, rfl⟩
      · rintro (⟨hr, _⟩ | ⟨_, _, heq, hslot, _⟩)
        · exact hr
        · obtain ⟨rfl, rfl⟩ := StoreEffect.stored.inj heq
          exact absurd hslot.symm hn
  · rw [hs, he]
    by_cases hn : slot = id.slot
    · subst hn
      rw [removals_cons_removed]
      simp
    · rw [if_neg hn, removals_removed_of_ne hn, h.unit]
      simp

theorem Tracks.next_numbered (h : run.Tracks) (call : StoreCall) {past later : List StoreEffect}
    {effect : StoreEffect} {id : UnitId}
    (hh : (run.next call).history = past ++ effect :: later) (hu : effect.unit? = some id) :
    id.generation = UInt32.ofNat (removals id.slot past) := by
  rcases append_singleton_eq_split hh with ⟨rfl, rfl, rfl⟩ | ⟨rest, _, hr⟩
  · rw [← h.generation]
    rcases call.perform_cases run.store with
      ⟨he, _⟩ | ⟨builder, unit, he, _, _⟩ | ⟨gone, unit, he, hf, _⟩
    · simp [he, StoreEffect.unit?] at hu
    · obtain rfl : run.store.nextId = id := by simpa [he, StoreEffect.unit?] using hu
      exact (Store.slotAt_nextId_generation _).symm
    · obtain rfl : gone = id := by simpa [he, StoreEffect.unit?] using hu
      exact (Store.find?_eq_some_iff.mp hf).1.symm
  · exact h.numbered past effect rest id hr hu

theorem Tracks.next_accepted (h : run.Tracks) (call : StoreCall) {id : UnitId}
    {builder : Builder} (hm : .stored id builder ∈ (run.next call).history) :
    ∃ unit, builder.build id = .ok unit := by
  rcases List.mem_append.mp hm with hm | hm
  · exact h.accepted id builder hm
  · rcases call.perform_cases run.store with
      ⟨he, _⟩ | ⟨builder', unit, he, hb, _⟩ | ⟨gone, unit, he, _, _⟩
    · simp [he] at hm
    · obtain ⟨rfl, rfl⟩ : id = run.store.nextId ∧ builder = builder' := by simpa [he] using hm
      exact ⟨unit, hb⟩
    · simp [he] at hm

theorem Tracks.next (h : run.Tracks) (call : StoreCall) : (run.next call).Tracks where
  generation := h.next_generation call
  unit := h.next_unit call
  numbered _ _ _ _ := h.next_numbered call
  accepted _ _ := h.next_accepted call

theorem tracks_of (calls : List StoreCall) : (of calls).Tracks := by
  induction calls using List.reverseRecOn with
  | nil => exact tracks_start
  | append_singleton calls call ih =>
    rw [of_append]
    exact ih.next call

end StoreRun

theorem ofNat_eq_iff_modEq {count : Nat} {generation : UInt32} :
    UInt32.ofNat count = generation ↔ count ≡ generation.toNat [MOD 2 ^ 32] := by
  have hlt := generation.toNat_lt
  rw [← UInt32.toNat_inj, UInt32.toNat_ofNat', Nat.ModEq, Nat.mod_eq_of_lt hlt]

theorem ofNat_inj_of_lt {m n : Nat} (hm : m < 2 ^ 32) (hn : n < 2 ^ 32)
    (h : UInt32.ofNat m = UInt32.ofNat n) : m = n := by
  have hh := congrArg UInt32.toNat h
  rwa [UInt32.toNat_ofNat', UInt32.toNat_ofNat', Nat.mod_eq_of_lt hm, Nat.mod_eq_of_lt hn] at hh

namespace StoreRun

theorem Tracks.unit_id (h : run.Tracks) {slot : Nat} {unit : TranslationUnit}
    (hu : (run.store.slotAt slot).unit = some unit) :
    unit.id = ⟨slot, (run.store.slotAt slot).generation⟩ := by
  obtain ⟨past, later, id, builder, hh, rfl, hb, hc, hl⟩ := (h.unit slot unit).mp hu
  have hg := h.numbered past _ later id hh rfl
  rw [Builder.build_id hb, h.generation, ← hc, ← hg]

theorem Tracks.unit_eq_ok_iff (h : run.Tracks) {id : UnitId} {unit : TranslationUnit} :
    run.store.unit id = .ok unit ↔
      ∃ count, Resides run.history id.slot count unit ∧
        count ≡ id.generation.toNat [MOD 2 ^ 32] := by
  rw [Store.unit_eq_ok_iff, Store.find?_eq_some_iff, h.generation, h.unit, ofNat_eq_iff_modEq]
  constructor
  · rintro ⟨hg, hr⟩
    exact ⟨_, hr, hg⟩
  · rintro ⟨count, hr, hg⟩
    obtain rfl := hr.count_eq
    exact ⟨hg, hr⟩

theorem Tracks.id_of_unit (h : run.Tracks) {id : UnitId} {unit : TranslationUnit}
    (hu : run.store.unit id = .ok unit) : unit.id = id := by
  have hs := Store.find?_eq_some_iff.mp (Store.unit_eq_ok_iff.mp hu)
  rw [h.unit_id hs.2, hs.1]

theorem Tracks.mem_units_iff (h : run.Tracks) {unit : TranslationUnit} :
    unit ∈ run.store.units ↔ run.store.unit unit.id = .ok unit := by
  rw [Store.mem_units_iff, Store.unit_eq_ok_iff, Store.find?_eq_some_iff]
  constructor
  · rintro ⟨slot, hu⟩
    rw [h.unit_id hu]
    exact ⟨rfl, hu⟩
  · rintro ⟨_, hu⟩
    exact ⟨_, hu⟩

theorem Tracks.units_sorted (h : run.Tracks) :
    run.store.units.Pairwise (fun u v => u.id.slot < v.id.slot) := by
  rw [Store.units_eq_range, List.pairwise_filterMap]
  apply List.pairwise_lt_range.imp
  intro slot slot' hlt unit hu unit' hu'
  rw [h.unit_id hu, h.unit_id hu']
  exact hlt

theorem Tracks.nextId_new (h : run.Tracks) {builder : Builder}
    (hb : removals run.store.nextId.slot run.history < 2 ^ 32) :
    .stored run.store.nextId builder ∉ run.history := by
  intro hm
  obtain ⟨past, later, hh⟩ := List.append_of_mem hm
  obtain ⟨unit, hu⟩ := h.accepted _ builder hm
  have hsplit : removals run.store.nextId.slot run.history =
      removals run.store.nextId.slot past + removals run.store.nextId.slot later := by
    rw [hh, removals_append, removals_cons_stored]
  have hnow := h.generation run.store.nextId.slot
  rw [Store.slotAt_nextId_generation, h.numbered past _ later _ hh rfl] at hnow
  have hcount := ofNat_inj_of_lt (by omega) hb hnow
  -- The same generation means no removal since, so the slot would still be taken.
  have hr : Resides run.history run.store.nextId.slot
      (removals run.store.nextId.slot run.history) unit :=
    ⟨past, later, _, builder, hh, rfl, hu, hcount, by omega⟩
  have hfull := (h.unit _ _).mpr hr
  rw [Store.slotAt_nextId_unit] at hfull
  cases hfull

theorem stored_pairwise (calls : List StoreCall)
    (hb : ∀ slot, removals slot (of calls).history < 2 ^ 32) :
    (of calls).history.Pairwise
      (fun e e' => ∀ id, e.storedId? = some id → e'.storedId? ≠ some id) := by
  induction calls using List.reverseRecOn with
  | nil => exact .nil
  | append_singleton calls call ih =>
    rw [of_append] at hb ⊢
    simp only [List.foldl_cons, List.foldl_nil, next, removals_append] at hb ⊢
    have hprev : ∀ slot, removals slot (of calls).history < 2 ^ 32 :=
      fun slot => Nat.lt_of_le_of_lt (Nat.le_add_right _ _) (hb slot)
    refine List.pairwise_append.mpr ⟨ih hprev, by simp, ?_⟩
    intro old hold last hlast id ho hl
    obtain rfl := List.mem_singleton.mp hlast
    rcases call.perform_cases (of calls).store with
      ⟨he, _⟩ | ⟨builder, unit, he, _, _⟩ | ⟨gone, unit, he, _, _⟩
    · simp [he, StoreEffect.storedId?] at hl
    · obtain rfl : (of calls).store.nextId = id := by simpa [he, StoreEffect.storedId?] using hl
      cases old with
      | stored id' builder' =>
        obtain rfl : id' = (of calls).store.nextId := by simpa [StoreEffect.storedId?] using ho
        exact (tracks_of calls).nextId_new (hprev _) hold
      | removed _ => simp [StoreEffect.storedId?] at ho
      | refused => simp [StoreEffect.storedId?] at ho
    · simp [he, StoreEffect.storedId?] at hl

theorem Tracks.removed_stale (h : run.Tracks) {id : UnitId}
    (hb : removals id.slot run.history < 2 ^ 32) (hm : .removed id ∈ run.history) :
    run.store.find? id = none := by
  obtain ⟨past, later, hh⟩ := List.append_of_mem hm
  have hold := h.numbered past _ later id hh rfl
  have hsplit : removals id.slot run.history =
      removals id.slot past + (removals id.slot later + 1) := by
    rw [hh, removals_append, removals_cons_removed]
  rw [Store.find?_eq_slotAt, if_neg]
  intro hg
  rw [h.generation, hold] at hg
  have hcount := ofNat_inj_of_lt hb (by omega) hg
  omega

/-- What a store answers after any run, told from the record of the run alone. As long as
no slot has seen `2 ^ 32` removals, no id is given out twice and no removed id comes back. -/
theorem lookup_follows_history (calls : List StoreCall) :
    let run := of calls
    (∀ id unit, run.store.unit id = .ok unit ↔
      ∃ count, Resides run.history id.slot count unit ∧
        count ≡ id.generation.toNat [MOD 2 ^ 32]) ∧
    (∀ id, (¬ ∃ unit count, Resides run.history id.slot count unit ∧
        count ≡ id.generation.toNat [MOD 2 ^ 32]) →
      run.store.unit id = .error (.staleUnit id)) ∧
    (∀ id unit, run.store.unit id = .ok unit → unit.id = id) ∧
    (∀ id, (run.store.dispose id).1 = run.store.unit id) ∧
    (∀ unit, unit ∈ run.store.units ↔ ∃ id, run.store.unit id = .ok unit) ∧
    run.store.units.Pairwise (fun u v => u.id.slot < v.id.slot) ∧
    ((∀ slot, removals slot run.history < 2 ^ 32) →
      (run.history.filterMap StoreEffect.storedId?).Nodup ∧
      ∀ id, .removed id ∈ run.history → run.store.unit id = .error (.staleUnit id)) := by
  have h := tracks_of calls
  refine ⟨fun _ _ => h.unit_eq_ok_iff, ?_, fun _ _ => h.id_of_unit, fun _ => Store.dispose_fst _ _,
    ?_, h.units_sorted, ?_⟩
  · intro id hn
    rw [Store.unit_eq_stale_iff, Option.eq_none_iff_forall_ne_some]
    intro unit hu
    obtain ⟨count, hc⟩ := h.unit_eq_ok_iff.mp (Store.unit_eq_ok_iff.mpr hu)
    exact hn ⟨unit, count, hc⟩
  · intro unit
    rw [h.mem_units_iff]
    constructor
    · exact fun hu => ⟨_, hu⟩
    · rintro ⟨id, hu⟩
      rwa [h.id_of_unit hu]
  · intro hb
    refine ⟨?_, fun id hm => Store.unit_eq_stale_iff.mpr (h.removed_stale (hb _) hm)⟩
    rw [List.Nodup, List.pairwise_filterMap]
    apply (stored_pairwise calls hb).imp
    intro old last hne id ho id' hl heq
    exact hne id ho (heq ▸ hl)

/-- A slot that is used again: the first id is stale and the second is another one. -/
theorem lookup_after_reuse :
    let run := of [.add { name := "a.cpp", decls := [{ name := "Point", kind := .enumeration }] },
      .dispose ⟨0, 0⟩, .add { name := "b.cpp" }]
    (∀ slot, removals slot run.history < 2 ^ 32) ∧ .removed ⟨0, 0⟩ ∈ run.history ∧
      run.history.filterMap StoreEffect.storedId? = [⟨0, 0⟩, ⟨0, 1⟩] ∧
      (run.history.filterMap StoreEffect.storedId?).Nodup ∧
      run.store.unit ⟨0, 0⟩ = .error (.staleUnit ⟨0, 0⟩) := by
  intro run
  have hb : ∀ slot, removals slot run.history < 2 ^ 32 :=
    fun slot => Nat.lt_of_le_of_lt List.countP_le_length (by decide)
  have hm : .removed ⟨0, 0⟩ ∈ run.history := by decide
  have h := (lookup_follows_history _).2.2.2.2.2.2 hb
  exact ⟨hb, hm, by decide, h.1, h.2 _ hm⟩

end StoreRun

end CppIntrospect
