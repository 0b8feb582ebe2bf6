import CppIntrospect.Proofs.BaseLists
import CppIntrospect.Proofs.ManifestReport

/-! The base specifiers of a loaded manifest. They stand in the order in which they are written,
entry after entry, so those of a record are one run of ids, which starts where the ones of the
entries before it end. -/

namespace CppIntrospect.Manifest

/-- A base specifier as written, with its entry and the position of the entry. -/
structure WrittenBase where
  position : Nat
  entry : Entry
  base : BaseEntry

/-- The access of a base specifier, which hangs on the tag of its record if none is written. -/
inductive WrittenBase.HasAccess (written : WrittenBase) : Access → Prop
  | keyword {keyword : AccessKeyword} (h : written.base.access = some keyword) :
    HasAccess written keyword.access
  | ofClass (h : written.base.access = none)
    (ht : written.entry.kind.tag? = some .classTag) : HasAccess written .priv
  | ofOther (h : written.base.access = none)
    (ht : written.entry.kind.tag? ≠ some .classTag) : HasAccess written .pub

structure StoresBase (manifest : Manifest) (unit : TranslationUnit) (written : WrittenBase)
    (spec : BaseSpecifier) : Prop where
  owner : spec.owner = ⟨written.position⟩
  isVirtual : spec.isVirtual = written.base.isVirtual
  access : written.HasAccess spec.access
  type : HoldsType ⟨manifest.entries⟩ unit.arenas written.base.type spec.type

variable {manifest : Manifest} {builder : Builder} {unit : TranslationUnit}

theorem hasAccess_default (written : WrittenBase) :
    written.HasAccess ((written.base.access.map AccessKeyword.access).getD
      (defaultAccess written.entry.kind.tag?)) := by
  cases ha : written.base.access with
  | some keyword => exact .keyword ha
  | none =>
    by_cases ht : written.entry.kind.tag? = some .classTag
    · simpa [defaultAccess, ht] using WrittenBase.HasAccess.ofClass ha ht
    · simpa [defaultAccess, ht] using WrittenBase.HasAccess.ofOther ha ht

namespace Presents

variable (h : Presents manifest builder unit)
include h

theorem exists_storesBase {i j : Nat} {entry : Entry} {base : BaseEntry}
    (hi : manifest.entries[i]? = some entry) (hj : entry.kind.bases[j]? = some base) :
    ∃ spec, unit.base? ⟨baseOffset manifest.entries i + j⟩ = some spec ∧
      StoresBase manifest unit ⟨i, entry, base⟩ spec := by
  obtain ⟨spec, hs, hm⟩ := h.lowered.bases i entry j base hi hj
  have hat : unit.base? ⟨baseOffset manifest.entries i + j⟩ = some spec := by
    rw [TranslationUnit.base?, h.bases, hs]
  exact ⟨spec, hat, hm.owner, hm.isVirtual, hm.access ▸ hasAccess_default ⟨i, entry, base⟩,
    h.arenas_eq ▸ hm.type⟩

theorem forall₂_basesOf {i : Nat} {entry : Entry} (hi : manifest.entries[i]? = some entry) :
    List.Forall₂ (fun base id => ∃ spec, unit.base? id = some spec ∧
      StoresBase manifest unit ⟨i, entry, base⟩ spec) entry.kind.bases (unit.basesOf ⟨i⟩) := by
  rw [h.basesOf_eq_run hi]
  refine List.forall₂_iff_get.mpr ⟨by simp [baseRun], fun j hj hj' => ?_⟩
  obtain ⟨spec, hs, hstores⟩ := h.exists_storesBase hi (List.getElem?_eq_getElem hj)
  refine ⟨spec, ?_, hstores⟩
  simpa [baseRun] using hs

/-- Every id in the list of a record is the id of a base specifier of the record. -/
theorem owner_of_mem_basesOf {i : Nat} {entry : Entry} (hi : manifest.entries[i]? = some entry)
    {id : BaseId} (hm : id ∈ unit.basesOf ⟨i⟩) :
    (unit.base? id).map BaseSpecifier.owner = some ⟨i⟩ := by
  obtain ⟨j, hj, rfl⟩ := List.getElem_of_mem hm
  have hall := h.forall₂_basesOf hi
  have hj' : j < entry.kind.bases.length := hall.length_eq ▸ hj
  obtain ⟨spec, hs, hstores⟩ := hall.get hj' hj
  have hs : unit.base? (unit.basesOf ⟨i⟩)[j] = some spec := hs
  rw [hs, Option.map_some, hstores.owner]

theorem baseCursors {store : Store} (hlive : store.resolve unit.id = .ok unit) {i : Nat}
    {entry : Entry} (hi : manifest.entries[i]? = some entry) :
    ∃ cursor, store.declCursor unit.id ⟨i⟩ = .ok cursor ∧ cursor ≠ .null ∧
      cursor.baseCursors store = .ok ((unit.basesOf ⟨i⟩).map (Cursor.base unit.id)) ∧
      ∀ id ∈ unit.basesOf ⟨i⟩,
        (Cursor.base unit.id id).semanticParent store = .ok (some cursor) := by
  obtain ⟨decl, hd, -⟩ := h.exists_decl hi
  have hbase : ∀ id ∈ unit.basesOf ⟨i⟩, Cursor.ofBase unit id = .base unit.id id := by
    intro id hm
    obtain ⟨spec, hs, -⟩ := Option.map_eq_some_iff.mp (h.owner_of_mem_basesOf hi hm)
    simp [Cursor.ofBase, Cursor.ofBase?, hs]
  refine ⟨Cursor.ofDecl unit ⟨i⟩, ?_, ?_, ?_, fun id hm => ?_⟩
  · rw [Store.declCursor, hlive]
    rfl
  · simp [Cursor.ofDecl, Cursor.ofDecl?, hd]
  · rw [Cursor.baseCursors_ofDecl hlive]
    exact congrArg Except.ok (List.map_congr_left hbase)
  · rw [← hbase id hm]
    exact (Cursor.semanticParent_ofBase_iff hlive hd id).mpr (h.owner_of_mem_basesOf hi hm)

end Presents

end CppIntrospect.Manifest
