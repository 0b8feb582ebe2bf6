import CppIntrospect.Proofs.StoreView
import Mathlib.Order.Bounds.Defs

/-! Registrations that a store rejects. A rejected builder may leave an empty slot behind, so
the store itself can change; but every later answer is what it would have been without it.
Stores that look alike slot by slot answer alike, and stay alike. -/

namespace CppIntrospect

/-- What a client can ask of a store. -/
inductive StoreRequest where
  | add (builder : Builder)
  | dispose (id : UnitId)
  | unit (id : UnitId)
  | isAlive (id : UnitId)
  | units
  deriving DecidableEq, Repr

inductive StoreAnswer where
  | registered (id : UnitId)
  | found (unit : TranslationUnit)
  | refused (fault : UnitError)
  | alive (answer : Bool)
  | listed (units : List TranslationUnit)
  deriving DecidableEq, Repr

def StoreAnswer.of {α : Type} (value : α → StoreAnswer) : Except UnitError α → StoreAnswer
  | .ok result => value result
  | .error fault => refused fault

def StoreRequest.perform (store : Store) : StoreRequest → StoreAnswer × Store
  | add builder => (.of .registered (store.add builder).1, (store.add builder).2)
  | dispose id => (.of .found (store.dispose id).1, (store.dispose id).2)
  | unit id => (.of .found (store.unit id), store)
  | isAlive id => (.alive (store.isAlive id), store)
  | units => (.listed store.units, store)

abbrev StoreTranscript := List (StoreRequest × StoreAnswer)

/-- The requests of a run, each with its answer. -/
def Store.transcript (store : Store) : List StoreRequest → StoreTranscript
  | [] => []
  | request :: later =>
    (request, (request.perform store).1) :: (request.perform store).2.transcript later

/-- Any number of rejected registrations, at any places, are struck from a transcript. -/
inductive StoreTranscript.Strikes : StoreTranscript → StoreTranscript → Prop
  | done : Strikes [] []
  | keep {full rest : StoreTranscript} (entry : StoreRequest × StoreAnswer) :
    Strikes full rest → Strikes (entry :: full) (entry :: rest)
  | strike {full rest : StoreTranscript} (builder : Builder) (fault : UnitError) :
    Strikes full rest → Strikes ((.add builder, .refused fault) :: full) rest

theorem StoreAnswer.of_eq_refused_iff {answer : Except UnitError UnitId} {fault : UnitError} :
    of registered answer = refused fault ↔ answer = .error fault := by
  cases answer <;> simp [of]

namespace Store

/-- Two stores with the same slots, apart from empty slots at the end that were never used. -/
def Alike (store other : Store) : Prop := ∀ slot, store.slotAt slot = other.slotAt slot

variable {store other : Store}

theorem slotAt_unit_of_lt_freeSlot {slot : Nat} (h : slot < store.freeSlot) :
    ∃ unit, (store.slotAt slot).unit = some unit := by
  have hlt : slot < store.slots.length := Nat.lt_of_lt_of_le h List.findIdx_le_length
  have hn := List.not_of_lt_findIdx h
  rw [slotAt, List.getElem?_eq_getElem hlt]
  exact Option.isSome_iff_exists.mp (by simpa using hn)

theorem units_eq_range_of_le {count : Nat} (h : store.slots.length ≤ count) :
    store.units = (List.range count).filterMap fun slot => (store.slotAt slot).unit := by
  obtain ⟨extra, rfl⟩ := Nat.exists_eq_add_of_le h
  have hnone : ((List.range extra).map (store.slots.length + ·)).filterMap
      (fun slot => (store.slotAt slot).unit) = [] := by
    rw [List.filterMap_eq_nil_iff]
    intro slot hs
    obtain ⟨i, -, rfl⟩ := List.mem_map.mp hs
    rw [Option.eq_none_iff_forall_ne_some]
    intro unit hu
    have := lt_length_of_slotAt_unit hu
    omega
  rw [List.range_add, List.filterMap_append, hnone, List.append_nil, units_eq_range]

namespace Alike

theorem symm (h : store.Alike other) : other.Alike store := fun slot => (h slot).symm

theorem freeSlot_le (h : store.Alike other) : store.freeSlot ≤ other.freeSlot := by
  apply Nat.le_of_not_lt
  intro hlt
  obtain ⟨unit, hu⟩ := slotAt_unit_of_lt_freeSlot hlt
  have hn : (other.slotAt other.freeSlot).unit = none := other.slotAt_nextId_unit
  rw [← h, hu] at hn
  cases hn

theorem nextId_eq (h : store.Alike other) : store.nextId = other.nextId := by
  have hslot : store.nextId.slot = other.nextId.slot :=
    Nat.le_antisymm h.freeSlot_le h.symm.freeSlot_le
  have hgen : store.nextId.generation = other.nextId.generation := by
    rw [← slotAt_nextId_generation, ← slotAt_nextId_generation, ← hslot, h]
  cases hs : store.nextId
  cases ho : other.nextId
  simp_all

theorem find?_eq (h : store.Alike other) (id : UnitId) : store.find? id = other.find? id := by
  rw [find?_eq_slotAt, find?_eq_slotAt, h]

theorem units_eq (h : store.Alike other) : store.units = other.units := by
  rw [units_eq_range_of_le (Nat.le_max_left _ other.slots.length),
    units_eq_range_of_le (Nat.le_max_right store.slots.length _)]
  simp only [h _]

theorem add (h : store.Alike other) (builder : Builder) :
    (store.add builder).1 = (other.add builder).1 ∧
      (store.add builder).2.Alike (other.add builder).2 := by
  have hid := h.nextId_eq
  rcases store.add_cases builder with ⟨fault, hb, ha, hs⟩ | ⟨unit, hb, ha, hs⟩
  · rcases other.add_cases builder with ⟨fault', hb', ha', hs'⟩ | ⟨unit', hb', _, _⟩
    · obtain rfl : fault = fault' := by simpa [hid, hb'] using hb.symm
      exact ⟨by rw [ha, ha'], fun slot => by rw [hs, hs', h]⟩
    · simp [hid, hb'] at hb
  · rcases other.add_cases builder with ⟨fault', hb', _, _⟩ | ⟨unit', hb', ha', hs'⟩
    · simp [hid, hb'] at hb
    · obtain rfl : unit = unit' := by simpa [hid, hb'] using hb.symm
      exact ⟨by rw [ha, ha', hid], fun slot => by rw [hs, hs', hid, h]⟩

theorem dispose (h : store.Alike other) (id : UnitId) :
    (store.dispose id).1 = (other.dispose id).1 ∧
      (store.dispose id).2.Alike (other.dispose id).2 := by
  have hf := h.find?_eq id
  rcases store.dispose_cases id with ⟨hn, hd⟩ | ⟨unit, hu, ha, hs⟩
  · rcases other.dispose_cases id with ⟨_, hd'⟩ | ⟨unit', hu', _, _⟩
    · rw [hd, hd']
      exact ⟨rfl, h⟩
    · simp [hf, hu'] at hn
  · rcases other.dispose_cases id with ⟨hn', _⟩ | ⟨unit', hu', ha', hs'⟩
    · simp [hf, hn'] at hu
    · obtain rfl : unit = unit' := by simpa [hf, hu'] using hu.symm
      exact ⟨by rw [ha, ha'], fun slot => by rw [hs, hs', h]⟩

/-- One request: the answers are the same, and so is what can be seen afterwards. -/
theorem perform (h : store.Alike other) (request : StoreRequest) :
    (request.perform store).1 = (request.perform other).1 ∧
      (request.perform store).2.Alike (request.perform other).2 := by
  cases request with
  | add builder =>
    obtain ⟨ha, hs⟩ := h.add builder
    exact ⟨congrArg (StoreAnswer.of .registered) ha, hs⟩
  | dispose id =>
    obtain ⟨ha, hs⟩ := h.dispose id
    exact ⟨congrArg (StoreAnswer.of .found) ha, hs⟩
  | unit id => exact ⟨by simp only [StoreRequest.perform, Store.unit, h.find?_eq], h⟩
  | isAlive id => exact ⟨by simp only [StoreRequest.perform, Store.isAlive, h.find?_eq], h⟩
  | units => exact ⟨by simp only [StoreRequest.perform, h.units_eq], h⟩

theorem add_rejected (h : store.Alike other) {builder : Builder} {fault : UnitError}
    (ha : (store.add builder).1 = .error fault) : (store.add builder).2.Alike other := by
  rcases store.add_cases builder with ⟨_, _, _, hs⟩ | ⟨_, _, hok, _⟩
  · exact fun slot => by rw [hs, h]
  · simp [hok] at ha

/-- A whole run: the induction is on the requests, and the store of the shorter run stays
alike through the rejected registrations that it does not see. -/
theorem transcript_strike (h : store.Alike other) {requests : List StoreRequest}
    {rest : StoreTranscript} (hs : StoreTranscript.Strikes (store.transcript requests) rest) :
    rest = other.transcript (rest.map Prod.fst) := by
  induction requests generalizing store other rest with
  | nil =>
    cases hs
    rfl
  | cons request later ih =>
    obtain ⟨ha, hnext⟩ := h.perform request
    rw [transcript] at hs
    generalize he : (request, (request.perform store).1) = entry at hs
    cases hs with
    | keep _ hs =>
      subst he
      rw [List.map_cons, transcript, ← ha, ← ih hnext hs]
    | strike builder fault hs =>
      obtain ⟨rfl, hf⟩ := Prod.mk.inj he
      exact ih (h.add_rejected (StoreAnswer.of_eq_refused_iff.mp hf)) hs

end Alike

/-- The slot of a new unit is the least one that holds no live unit. -/
theorem nextId_isLeast (store : Store) :
    IsLeast {slot | ∀ generation unit, store.unit ⟨slot, generation⟩ ≠ .ok unit}
      store.nextId.slot := by
  constructor
  · intro generation unit hu
    have hh := (find?_eq_some_iff.mp (unit_eq_ok_iff.mp hu)).2
    simp [slotAt_nextId_unit] at hh
  · intro slot hfree
    apply Nat.le_of_not_lt
    intro hlt
    obtain ⟨unit, hu⟩ := slotAt_unit_of_lt_freeSlot hlt
    refine hfree (store.slotAt slot).generation unit ?_
    rw [unit_eq_ok_iff, find?_eq_some_iff]
    exact ⟨rfl, hu⟩

theorem nextId_slot_le (store : Store) : store.nextId.slot ≤ store.units.length := by
  have hall : ((List.range store.freeSlot).filterMap fun slot => (store.slotAt slot).unit).length =
      store.freeSlot := by
    rw [List.filterMap_length_eq_length.mpr, List.length_range]
    intro slot hs
    obtain ⟨unit, hu⟩ := slotAt_unit_of_lt_freeSlot (List.mem_range.mp hs)
    rw [hu, Option.isSome_some]
  have hsub : (List.range store.freeSlot).Sublist (List.range store.slots.length) :=
    List.range_sublist.mpr List.findIdx_le_length
  rw [units_eq_range]
  calc
    store.nextId.slot = _ := hall.symm
    _ ≤ _ := (hsub.filterMap _).length_le

/-- A rejected registration leaves no trace: whichever of them are struck from a transcript,
the rest is the transcript of the run without them. A new unit takes the least slot that holds
no live unit. -/
theorem rejected_add_unseen (store : Store) :
    (∀ requests rest, StoreTranscript.Strikes (store.transcript requests) rest →
      rest = store.transcript (rest.map Prod.fst)) ∧
    ∀ builder id, (store.add builder).1 = .ok id →
      IsLeast {slot | ∀ generation unit, store.unit ⟨slot, generation⟩ ≠ .ok unit} id.slot ∧
      id.slot ≤ store.units.length := by
  refine ⟨fun requests rest hs => Alike.transcript_strike (fun _ => rfl) hs, ?_⟩
  intro builder id ha
  rcases store.add_cases builder with ⟨fault, _, hf, _⟩ | ⟨unit, _, hok, _⟩
  · simp [hf] at ha
  · obtain rfl : store.nextId = id := by simpa [hok] using ha
    exact ⟨store.nextId_isLeast, store.nextId_slot_le⟩

/-- Two rejected builders, the first of which leaves an empty slot, beside two that share a
slot one after the other. -/
theorem rejected_add_between :
    let bad : Builder := { name := "bad.cpp", exprs := [⟨.integerLiteral 1, ⟨7⟩⟩] }
    let good : Builder := { name := "a.cpp" }
    let made (id : UnitId) : TranslationUnit := ⟨id, "a.cpp", [], [], [], [], []⟩
    let requests : List StoreRequest :=
      [.add bad, .add good, .dispose ⟨0, 0⟩, .add bad, .add good, .units]
    let rest : StoreTranscript :=
      [(.add good, .registered ⟨0, 0⟩), (.dispose ⟨0, 0⟩, .found (made ⟨0, 0⟩)),
        (.add good, .registered ⟨0, 1⟩), (.units, .listed [made ⟨0, 1⟩])]
    (empty.add bad).2 ≠ empty ∧ StoreTranscript.Strikes (empty.transcript requests) rest ∧
      rest = empty.transcript [.add good, .dispose ⟨0, 0⟩, .add good, .units] ∧
      (empty.add good).1 = .ok ⟨0, 0⟩ ∧
      IsLeast {slot | ∀ generation unit, empty.unit ⟨slot, generation⟩ ≠ .ok unit} 0 := by
  intro bad good made requests rest
  have hrun : empty.transcript requests =
      [(.add bad, .refused (.danglingType (.expr ⟨0⟩) ⟨7⟩)), (.add good, .registered ⟨0, 0⟩),
        (.dispose ⟨0, 0⟩, .found (made ⟨0, 0⟩)),
        (.add bad, .refused (.danglingType (.expr ⟨0⟩) ⟨7⟩)), (.add good, .registered ⟨0, 1⟩),
        (.units, .listed [made ⟨0, 1⟩])] := by decide
  have hs : StoreTranscript.Strikes (empty.transcript requests) rest :=
    hrun ▸ .strike bad _ (.keep _ (.keep _ (.strike bad _ (.keep _ (.keep _ .done)))))
  exact ⟨by decide, hs, (rejected_add_unseen empty).1 _ _ hs, rfl,
    ((rejected_add_unseen empty).2 good _ rfl).1⟩

end Store

end CppIntrospect
