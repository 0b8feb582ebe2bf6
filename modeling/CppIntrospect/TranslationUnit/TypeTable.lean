import CppIntrospect.CppType.Basic
import CppIntrospect.Id

/-! The table in which a builder finds the types that it has. The types stand in a list, in the
order of their ids, and the table leads back from a type to its id. -/

namespace CppIntrospect

/-- The ids of types, by type. -/
abbrev TypeTable := List (CppType × TypeId)

namespace TypeTable

/-- A table finds the id under which a list has a type, and finds no other. -/
def Inverts (table : TypeTable) (types : List CppType) : Prop :=
  ∀ type id, table.lookup type = some id ↔ types[id.index]? = some type

/-- The table of types whose ids start at `start`. -/
def ofTypes : Nat → List CppType → TypeTable
  | _, [] => []
  | start, type :: types => (type, ⟨start⟩) :: ofTypes (start + 1) types

theorem ofTypes_lookup_eq_some_iff {start : Nat} {types : List CppType} (h : types.Nodup)
    (type : CppType) (id : TypeId) :
    (ofTypes start types).lookup type = some id ↔
      ∃ i, types[i]? = some type ∧ id = ⟨start + i⟩ := by
  induction types generalizing start with
  | nil => simp [ofTypes]
  | cons first rest ih =>
    obtain ⟨hnew, hrest⟩ := List.nodup_cons.mp h
    by_cases hf : type = first
    · subst hf
      simp only [ofTypes, List.lookup_cons_self, Option.some.injEq]
      constructor
      · rintro rfl
        exact ⟨0, rfl, rfl⟩
      · rintro ⟨i, hi, rfl⟩
        cases i with
        | zero => rfl
        | succ i => exact absurd (List.mem_of_getElem? (l := rest) hi) hnew
    · have hb : (type == first) = false := beq_eq_false_iff_ne.mpr hf
      rw [ofTypes, List.lookup_cons, hb, ih hrest]
      constructor
      · rintro ⟨i, hi, rfl⟩
        exact ⟨i + 1, hi, by rw [Nat.add_assoc, Nat.add_comm 1 i]⟩
      · rintro ⟨i, hi, rfl⟩
        cases i with
        | zero => exact absurd (Option.some.inj hi).symm hf
        | succ i => exact ⟨i, hi, by rw [Nat.add_assoc, Nat.add_comm 1 i]⟩

theorem inverts_ofTypes {types : List CppType} (h : types.Nodup) :
    (ofTypes 0 types).Inverts types := by
  intro type id
  rw [ofTypes_lookup_eq_some_iff h]
  constructor
  · rintro ⟨i, hi, rfl⟩
    rwa [Nat.zero_add]
  · exact fun hi => ⟨id.index, hi, by rw [Nat.zero_add]⟩

/-- A list with an inverse has no type twice. -/
theorem Inverts.nodup {table : TypeTable} {types : List CppType} (h : table.Inverts types) :
    types.Nodup := by
  refine List.pairwise_iff_getElem.mpr fun i j hi hj hij he => ?_
  have hfirst := (h types[i] ⟨i⟩).mpr (List.getElem?_eq_getElem hi)
  have hsecond := (h types[i] ⟨j⟩).mpr (he ▸ List.getElem?_eq_getElem hj)
  have hsame : i = j := TypeId.mk.inj (Option.some.inj (hfirst.symm.trans hsecond))
  omega

theorem Inverts.not_mem {table : TypeTable} {types : List CppType} (h : table.Inverts types)
    {type : CppType} (hnew : table.lookup type = none) : type ∉ types := by
  intro hm
  obtain ⟨i, hi⟩ := List.getElem?_of_mem hm
  rw [(h type ⟨i⟩).mpr hi] at hnew
  cases hnew

/-- A type that is not in the table gets the next id. -/
theorem Inverts.push {table : TypeTable} {types : List CppType} (h : table.Inverts types)
    {type : CppType} (hnew : table.lookup type = none) :
    Inverts (table ++ [(type, ⟨types.length⟩)]) (types ++ [type]) := by
  intro other id
  rw [List.lookup_append, List.getElem?_append]
  by_cases ho : other = type
  · subst ho
    simp only [hnew, Option.none_or, List.lookup_cons_self, Option.some.injEq]
    constructor
    · rintro rfl
      simp
    · intro hi
      split at hi
      · exact absurd (List.mem_of_getElem? hi) (h.not_mem hnew)
      · obtain ⟨hlt, _⟩ := List.getElem?_eq_some_iff.mp hi
        have hindex : types.length = id.index := by
          rw [List.length_singleton] at hlt
          omega
        exact congrArg TypeId.mk hindex
  · have hb : (other == type) = false := beq_eq_false_iff_ne.mpr ho
    rw [List.lookup_cons, hb, List.lookup_nil, Option.or_none, h]
    by_cases hlt : id.index < types.length
    · rw [if_pos hlt]
    · rw [if_neg hlt, List.getElem?_eq_none (Nat.le_of_not_lt hlt)]
      simp only [reduceCtorEq, false_iff]
      intro hi
      exact ho (List.mem_singleton.mp (List.mem_of_getElem? hi))

end TypeTable

end CppIntrospect
