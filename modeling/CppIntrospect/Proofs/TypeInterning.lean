import CppIntrospect.Proofs.BaseLists
import Mathlib.Data.List.Nodup
import Mathlib.Data.List.Range

/-! The ids that a builder hands out for types. A type gets the next free id when it is asked for
the first time and the same id ever after, whatever else the builder is told in between. The table
of the builder has the answers that were given and no others, and the registered unit has each
type under its id. -/

namespace CppIntrospect

/-- The type that a call asks an id for, with the id that it gets. -/
def BuilderCall.typeAnswer? (builder : Builder) : BuilderCall → Option (CppType × TypeId)
  | addType type => some (type, (builder.addType type).1)
  | _ => none

theorem eraseDups_append_singleton {α : Type} [DecidableEq α] (xs : List α) (x : α) :
    (xs ++ [x]).eraseDups = if x ∈ xs then xs.eraseDups else xs.eraseDups ++ [x] := by
  by_cases h : x ∈ xs <;> simp [List.eraseDups_append, List.removeAll, List.eraseDups_cons, h]

namespace Builder

def typeAnswers : Builder → List BuilderCall → List (CppType × TypeId)
  | _, [] => []
  | builder, call :: calls =>
    (call.typeAnswer? builder).toList ++ typeAnswers (call.perform builder) calls

variable {builder : Builder} {answers : List (CppType × TypeId)}

/-- The types of a builder and the answers that made them. -/
structure Interned (builder : Builder) (answers : List (CppType × TypeId)) : Prop where
  types : builder.types = (answers.map Prod.fst).eraseDups
  ids : (answers.map Prod.snd).eraseDups = (List.range builder.types.length).map TypeId.mk
  stored : ∀ answer ∈ answers, builder.types[answer.2.index]? = some answer.1

theorem Interned.mem_types_iff (h : builder.Interned answers) {type : CppType} :
    type ∈ builder.types ↔ type ∈ answers.map Prod.fst := by
  rw [h.types, List.mem_eraseDups]

theorem Interned.mem_ids_iff (h : builder.Interned answers) {i : Nat} :
    ⟨i⟩ ∈ answers.map Prod.snd ↔ i < builder.types.length := by
  rw [← List.mem_eraseDups, h.ids]
  simp

theorem Interned.found (h : builder.Interned answers) {type : CppType} {id : TypeId}
    (hi : builder.types[id.index]? = some type) : builder.Interned (answers ++ [(type, id)]) where
  types := by
    have hm := h.mem_types_iff.mp (List.mem_of_getElem? hi)
    rw [List.map_append, List.map_singleton, eraseDups_append_singleton, if_pos hm]
    exact h.types
  ids := by
    have hm := h.mem_ids_iff.mpr (List.getElem?_eq_some_iff.mp hi).1
    rw [List.map_append, List.map_singleton, eraseDups_append_singleton, if_pos hm]
    exact h.ids
  stored answer hm := by
    rcases List.mem_append.mp hm with hm | hm
    · exact h.stored answer hm
    · obtain rfl := List.mem_singleton.mp hm
      exact hi

theorem Interned.added (h : builder.Interned answers) {type : CppType}
    (hn : type ∉ builder.types) {typeIds : TypeTable}
    {inverts : typeIds.Inverts (builder.types ++ [type])} :
    Interned { builder with types := builder.types ++ [type], typeIds, inverts }
      (answers ++ [(type, ⟨builder.types.length⟩)]) where
  types := by
    have hm : type ∉ answers.map Prod.fst := fun hm => hn (h.mem_types_iff.mpr hm)
    rw [List.map_append, List.map_singleton, eraseDups_append_singleton, if_neg hm, ← h.types]
  ids := by
    have hm : (⟨builder.types.length⟩ : TypeId) ∉ answers.map Prod.snd :=
      fun hm => Nat.lt_irrefl _ (h.mem_ids_iff.mp hm)
    rw [List.map_append, List.map_singleton, eraseDups_append_singleton, if_neg hm, h.ids]
    simp [List.range_succ]
  stored answer hm := by
    rcases List.mem_append.mp hm with hm | hm
    · have hs := h.stored answer hm
      exact (List.getElem?_append_left (List.getElem?_eq_some_iff.mp hs).1).trans hs
    · obtain rfl := List.mem_singleton.mp hm
      simp

theorem Interned.kept (h : builder.Interned answers) {after : Builder}
    (ht : after.types = builder.types) : after.Interned (answers ++ []) := by
  obtain ⟨htypes, hids, hstored⟩ := h
  rw [List.append_nil]
  exact ⟨ht ▸ htypes, ht ▸ hids, ht ▸ hstored⟩

theorem addBase_types (builder : Builder) (owner : DeclId) (type : TypeId) (access : Access)
    (isVirtual : Bool) :
    (builder.addBase owner type access isVirtual).2.types = builder.types := by
  rcases builder.addBase_cases owner type access isVirtual with hf | ⟨_, _, _, _, hs⟩
  · rw [hf]
  · rw [hs]
    rfl

theorem Interned.perform (h : builder.Interned answers) (call : BuilderCall) :
    (call.perform builder).Interned (answers ++ (call.typeAnswer? builder).toList) := by
  cases call with
  | addType type =>
    simp only [BuilderCall.perform, BuilderCall.typeAnswer?, Option.toList_some]
    rcases builder.addType_cases type with ⟨id, hi, ha⟩ | ⟨hn, typeIds, inverts, ha⟩
    · rw [ha]
      exact h.found hi
    · rw [ha]
      exact h.added hn
  | addBase owner type access isVirtual =>
    exact h.kept (builder.addBase_types owner type access isVirtual)
  | _ => exact h.kept rfl

theorem Interned.run (h : builder.Interned answers) (calls : List BuilderCall) :
    (builder.run calls).Interned (answers ++ builder.typeAnswers calls) := by
  -- the answers so far grow along the run, so they vary with the builder
  induction calls generalizing builder answers with
  | nil =>
    rw [typeAnswers, List.append_nil]
    exact h
  | cons call calls ih =>
    rw [typeAnswers, ← List.append_assoc]
    exact ih (h.perform call)

theorem interned_run (name : String) (calls : List BuilderCall) :
    (({ name } : Builder).run calls).Interned (({ name } : Builder).typeAnswers calls) := by
  have hempty : ({ name } : Builder).Interned [] := ⟨rfl, rfl, by simp⟩
  exact hempty.run calls

theorem id_eq_of_type {type : CppType} {id other : TypeId}
    (hi : builder.types[id.index]? = some type) (ho : builder.types[other.index]? = some type) :
    id = other :=
  Option.some.inj (((builder.inverts type id).mpr hi).symm.trans
    ((builder.inverts type other).mpr ho))

/-- The table has the answers that were given, and no others. -/
theorem Interned.lookup_eq (h : builder.Interned answers) (type : CppType) :
    builder.typeIds.lookup type = answers.lookup type := by
  cases hl : answers.lookup type with
  | some id =>
    obtain ⟨past, later, ha, _⟩ := List.lookup_eq_some_iff.mp hl
    exact (builder.inverts type id).mpr (h.stored (type, id) (by simp [ha]))
  | none =>
    have hnew : type ∉ answers.map Prod.fst := by
      rw [List.mem_map]
      rintro ⟨answer, ha, rfl⟩
      simpa using List.lookup_eq_none_iff.mp hl answer ha
    cases ht : builder.typeIds.lookup type with
    | none => rfl
    | some id =>
      have hs := (builder.inverts type id).mp ht
      exact absurd (h.mem_types_iff.mp (List.mem_of_getElem? hs)) hnew

/-- An id is what was answered for the type before, or else the next one. -/
theorem Interned.addType_eq (h : builder.Interned answers) (type : CppType) :
    (builder.addType type).1 = (answers.lookup type).getD ⟨builder.types.length⟩ := by
  rw [← h.lookup_eq, addType]
  split
  · next id hl => simp [hl]
  · next hl => simp [hl]

/-- The answers of a run of calls. Two of them are one id exactly if they were given for one type,
and a further call repeats the answer given before, or else gives the next id. So the ids come in
the order in which their types came first. The types are kept in that order and none twice; the
table leads from each of them back to its id, and so to the answer; and a unit that is registered
then has each type under the id that was answered for it. -/
theorem types_interned (name : String) (calls : List BuilderCall) :
    let builder := ({ name } : Builder).run calls
    let answers := ({ name } : Builder).typeAnswers calls
    (∀ first ∈ answers, ∀ second ∈ answers, first.2 = second.2 ↔ first.1 = second.1) ∧
    (∀ type, (builder.addType type).1 = (answers.lookup type).getD ⟨builder.types.length⟩) ∧
    (answers.map Prod.snd).eraseDups = (List.range builder.types.length).map TypeId.mk ∧
    builder.types = (answers.map Prod.fst).eraseDups ∧ builder.types.Nodup ∧
    (∀ type id, builder.typeIds.lookup type = some id ↔ builder.types[id.index]? = some type) ∧
    (∀ type, builder.typeIds.lookup type = answers.lookup type) ∧
    ∀ (store : Store) id, (store.add builder).1 = .ok id →
      ∃ unit, (store.add builder).2.unit id = .ok unit ∧
        ∀ answer ∈ answers, unit.type? answer.2 = some answer.1 := by
  intro builder answers
  have h : builder.Interned answers := interned_run name calls
  refine ⟨fun first hf second hs => ⟨fun he => ?_, fun he => ?_⟩, h.addType_eq, h.ids, h.types,
    builder.inverts.nodup, builder.inverts, h.lookup_eq, fun store id ha => ?_⟩
  · have hfirst := h.stored first hf
    rw [he, h.stored second hs] at hfirst
    exact (Option.some.inj hfirst).symm
  · have hfirst := h.stored first hf
    rw [he] at hfirst
    exact id_eq_of_type hfirst (h.stored second hs)
  · obtain ⟨_, ⟨unit, hb, hu, _⟩, _⟩ := Store.add_ok_lookup ha
    refine ⟨unit, hu, fun answer hm => ?_⟩
    rw [TranslationUnit.type?, (build_fields hb).2.2.1]
    exact h.stored answer hm

/-- One type asked for twice, with another type and a refused base specifier in between. -/
theorem types_interned_again :
    let pointer : CppType := .pointer (.builtin .bool) true
    let calls : List BuilderCall :=
      [.addType pointer, .addDecl { name := "Flag", kind := .typedef ⟨1⟩ },
        .addType (.builtin .bool), .addBase ⟨0⟩ ⟨0⟩ .pub false, .addType pointer]
    let builder := ({ name := "a.cpp" } : Builder).run calls
    ({ name := "a.cpp" } : Builder).typeAnswers calls =
        [(pointer, ⟨0⟩), (.builtin .bool, ⟨1⟩), (pointer, ⟨0⟩)] ∧
      builder.types = [pointer, .builtin .bool] ∧ (builder.addType (.named "Flag")).1 = ⟨2⟩ ∧
      builder.typeIds.lookup pointer = some ⟨0⟩ ∧
      (Store.empty.add builder).1 = .ok ⟨0, 0⟩ ∧
      ∃ unit, (Store.empty.add builder).2.unit ⟨0, 0⟩ = .ok unit ∧
        unit.type? ⟨1⟩ = some (.builtin .bool) := by
  intro pointer calls builder
  have hanswers : ({ name := "a.cpp" } : Builder).typeAnswers calls =
      [(pointer, ⟨0⟩), (.builtin .bool, ⟨1⟩), (pointer, ⟨0⟩)] := by decide
  have hadd : (Store.empty.add builder).1 = .ok ⟨0, 0⟩ := rfl
  obtain ⟨_, hnext, _, htypes, _, _, htable, hunit⟩ := types_interned "a.cpp" calls
  obtain ⟨unit, hu, hall⟩ := hunit Store.empty ⟨0, 0⟩ hadd
  refine ⟨hanswers, ?_, ?_, ?_, hadd, unit, hu, ?_⟩
  · exact htypes.trans (by rw [hanswers]; decide)
  · exact (hnext (.named "Flag")).trans (by rw [hanswers]; decide)
  · exact (htable pointer).trans (by rw [hanswers]; decide)
  · exact hall (.builtin .bool, ⟨1⟩) (by rw [hanswers]; decide)

end Builder

end CppIntrospect
