import CppIntrospect.Proofs.ManifestReport
import Mathlib.Data.List.FinRange

/-! The order of the entries of a manifest is not reported. Which entry an id names does not
hang on their order as long as the ids are distinct, and nothing else of an order is seen. -/

namespace CppIntrospect.Manifest

/-- The same entries in another order. -/
def permute (manifest : Manifest) (p : Equiv.Perm (Fin manifest.entries.length)) : Manifest where
  unitName := manifest.unitName
  entries := List.ofFn fun i => manifest.entries.get (p i)

variable {manifest other : Manifest}

theorem permute_perm (manifest : Manifest) (p : Equiv.Perm (Fin manifest.entries.length)) :
    (manifest.permute p).entries.Perm manifest.entries := by
  have h := Equiv.Perm.ofFn_comp_perm p manifest.entries.get
  rwa [List.ofFn_get] at h

theorem WellFormed.perm (h : manifest.WellFormed) (hp : manifest.entries.Perm other.entries) :
    other.WellFormed where
  distinct := (hp.map Entry.id).nodup_iff.mp h.distinct
  references entry he target hr := by
    obtain ⟨found, hf, hid⟩ := h.references entry (hp.mem_iff.mpr he) target hr
    exact ⟨found, hp.mem_iff.mp hf, hid⟩
  spellings entry he := h.spellings entry (hp.mem_iff.mpr he)
  baseSpellings entry he := h.baseSpellings entry (hp.mem_iff.mpr he)
  origins entry he := h.origins entry (hp.mem_iff.mpr he)
  links entry he := h.links entry (hp.mem_iff.mpr he)

theorem find?_eq_some_iff (hd : (manifest.entries.map Entry.id).Nodup) {id : String}
    {entry : Entry} :
    manifest.find? id = some entry ↔ entry ∈ manifest.entries ∧ entry.id = id := by
  constructor
  · intro h
    exact ⟨List.mem_of_find?_eq_some h, by simpa using List.find?_some h⟩
  · rintro ⟨he, rfl⟩
    cases hf : manifest.find? entry.id with
    | none => exact absurd (List.find?_eq_none.mp hf entry he) (by simp)
    | some found =>
      have hid : found.id = entry.id := by simpa using List.find?_some hf
      rw [List.inj_on_of_nodup_map hd (List.mem_of_find?_eq_some hf) he hid]

theorem find?_perm (hd : (manifest.entries.map Entry.id).Nodup)
    (hp : manifest.entries.Perm other.entries) : manifest.find? = other.find? := by
  have hd' : (other.entries.map Entry.id).Nodup := (hp.map Entry.id).nodup_iff.mp hd
  funext id
  apply Option.ext
  intro entry
  rw [find?_eq_some_iff hd, find?_eq_some_iff hd', hp.mem_iff]

theorem exists_load_iff (manifest : Manifest) (store : Store) :
    (∃ id, (manifest.load store).result = .ok id) ↔ manifest.WellFormed := by
  rw [← exists_toBuilder_iff_wellFormed]
  rcases manifest.load_cases store with ⟨fault, hb, hr, _⟩ | ⟨builder, hb, hr, _⟩ <;> simp [hb, hr]

theorem getElem?_report {i : Nat} {entry : Entry} (hi : manifest.entries[i]? = some entry) :
    manifest.report.decls[i]? = some (entry.report manifest.find? ⟨i⟩) := by
  simp [report, List.getElem?_zipIdx, hi]

/-- A reordered manifest loads where the manifest does, and its report lists the same in the
new order, but for the ids of the declarations. -/
theorem report_permute (manifest : Manifest) (p : Equiv.Perm (Fin manifest.entries.length))
    (store other : Store) :
    ((∃ id, (manifest.load store).result = .ok id) ↔
      ∃ id, ((manifest.permute p).load other).result = .ok id) ∧
    ∀ id id', (manifest.load store).result = .ok id →
      ((manifest.permute p).load other).result = .ok id' →
      ∃ report report', Report.ofUnit (manifest.load store).store id none = .ok report ∧
        Report.ofUnit ((manifest.permute p).load other).store id' none = .ok report' ∧
        report'.unit = report.unit ∧ report.decls.length = manifest.entries.length ∧
        report'.decls.length = manifest.entries.length ∧
        ∀ i, ∃ first, report.decls[(p i).val]? = some first ∧
          report'.decls[i.val]? = some { first with id := (DeclId.mk i.val).label } := by
  have hp := manifest.permute_perm p
  refine ⟨?_, fun id id' h h' => ⟨_, _, ofUnit_load h, ofUnit_load h', rfl, ?_, ?_, fun i => ?_⟩⟩
  · rw [exists_load_iff, exists_load_iff]
    exact ⟨fun hw => hw.perm hp.symm, fun hw => hw.perm hp⟩
  · simp [report]
  · simp [report, permute]
  · have hd := ((manifest.exists_load_iff store).mp ⟨id, h⟩).distinct
    have hget : manifest.entries[(p i).val]? = some (manifest.entries.get (p i)) := by simp
    have hget' : (manifest.permute p).entries[i.val]? = some (manifest.entries.get (p i)) := by
      simp [permute]
    refine ⟨_, getElem?_report hget, ?_⟩
    rw [getElem?_report hget', find?_perm hd hp.symm]
    rfl

/-- Two templates of one function, and two parameters of one name. -/
def overloads : Manifest where
  unitName := "overloads.cpp"
  entries :=
    [⟨"twice", none, none, none, .template .ofFunction ⟨"pattern", ["T"], none⟩⟩,
      ⟨"again", none, none, none, .template .ofFunction ⟨"pattern", ["U"], none⟩⟩,
      ⟨"pattern", some "twice", none, none, .function .free ⟨some "T", [], none, none, [], []⟩⟩,
      ⟨"T", none, some "twice", none, .typeParm ⟨0, 0, false⟩⟩,
      ⟨"U", some "T", some "again", none, .typeParm ⟨0, 1, false⟩⟩,
      ⟨"twice<T>", some "twice", none, none,
        .function .free ⟨none, [], some "twice", none, [], [.type "T *", .expression "2 * U" "T"]⟩⟩]

theorem overloads_reversed :
    ∃ id' report report', (overloads.load .empty).result = .ok ⟨0, 0⟩ ∧
      ((overloads.permute Fin.revPerm).load .empty).result = .ok id' ∧
      Report.ofUnit (overloads.load .empty).store ⟨0, 0⟩ none = .ok report ∧
      Report.ofUnit ((overloads.permute Fin.revPerm).load .empty).store id' none = .ok report' ∧
      ∃ first, report.decls[5]? = some first ∧
        report'.decls[0]? = some { first with id := (DeclId.mk 0).label } := by
  have hid : (overloads.load .empty).result.toOption = some ⟨0, 0⟩ := by decide +kernel
  have hload : (overloads.load .empty).result = .ok ⟨0, 0⟩ := by
    cases hr : (overloads.load .empty).result with
    | error fault => simp [hr, Except.toOption] at hid
    | ok id => simpa [hr, Except.toOption] using hid
  obtain ⟨hiff, hreports⟩ := report_permute overloads Fin.revPerm .empty .empty
  obtain ⟨id', hload'⟩ := hiff.mp ⟨_, hload⟩
  obtain ⟨report, report', hr, hr', -, -, -, hdecls⟩ := hreports _ _ hload hload'
  exact ⟨id', report, report', hload, hload', hr, hr', hdecls ⟨0, by decide⟩⟩

end CppIntrospect.Manifest
