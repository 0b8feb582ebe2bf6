import CppIntrospect.Proofs.LoweringPasses

/-! When a manifest can be lowered, and what is reported when it cannot. What has to hold of a
manifest is said here without the passes; a fault of an earlier pass hides those of a later
one, and inside a pass the first entry with a fault is the one that is named. -/

namespace CppIntrospect.Manifest

/-- An argument stands in a list, inside packs of any depth. -/
inductive ArgumentEntry.Within (arg : ArgumentEntry) : List ArgumentEntry → Prop
  | here {args : List ArgumentEntry} (h : arg ∈ args) : Within arg args
  | inPack {args elements : List ArgumentEntry} (h : .pack elements ∈ args)
    (hi : Within arg elements) : Within arg args

def ArgumentEntry.target? : ArgumentEntry → Option String
  | .decl id => some id
  | .template id => some id
  | .expansion id => some id
  | _ => none

def ArgumentEntry.spelling? : ArgumentEntry → Option String
  | .type spelling => some spelling
  | .integral _ spelling => some spelling
  | .expression _ spelling => some spelling
  | _ => none

/-- How many of the three links of a function are given. -/
def FunctionEntry.linkCount (entry : FunctionEntry) : Nat :=
  [entry.specializes.isSome, entry.origin.isSome, !entry.candidates.isEmpty].count true

def SpecializationEntry.originCount (entry : SpecializationEntry) : Nat :=
  [entry.primary.isSome, entry.pattern.isSome].count true

/-- The arguments that matter: those of a function without a link do not. -/
def EntryKind.examined : EntryKind → List ArgumentEntry
  | .function _ entry => if entry.linkCount = 0 then [] else entry.args
  | .partialSpecialization entry => entry.args
  | .specialization entry => entry.args
  | _ => []

inductive EntryKind.Refers : EntryKind → String → Prop
  | recordOrigin {keyword : RecordKeyword} {entry : RecordEntry} {target : String}
    (h : entry.origin = some target) : Refers (.record keyword entry) target
  | varOrigin {entry : VarEntry} {target : String} (h : entry.origin = some target) :
    Refers (.var entry) target
  | functionParam {flavor : FunctionFlavor} {entry : FunctionEntry} {target : String}
    (h : target ∈ entry.params) : Refers (.function flavor entry) target
  | specializes {flavor : FunctionFlavor} {entry : FunctionEntry} {target : String}
    (h : entry.specializes = some target) : Refers (.function flavor entry) target
  | functionOrigin {flavor : FunctionFlavor} {entry : FunctionEntry} {target : String}
    (h : entry.origin = some target) : Refers (.function flavor entry) target
  | candidate {flavor : FunctionFlavor} {entry : FunctionEntry} {target : String}
    (h : target ∈ entry.candidates) : Refers (.function flavor entry) target
  | templated {flavor : TemplateFlavor} {entry : TemplateEntry} :
    Refers (.template flavor entry) entry.templated
  | templateParam {flavor : TemplateFlavor} {entry : TemplateEntry} {target : String}
    (h : target ∈ entry.params) : Refers (.template flavor entry) target
  | templateOrigin {flavor : TemplateFlavor} {entry : TemplateEntry} {target : String}
    (h : entry.origin = some target) : Refers (.template flavor entry) target
  | partialTemplate {entry : PartialEntry} : Refers (.partialSpecialization entry) entry.template
  | partialParam {entry : PartialEntry} {target : String} (h : target ∈ entry.params) :
    Refers (.partialSpecialization entry) target
  | primary {entry : SpecializationEntry} {target : String} (h : entry.primary = some target) :
    Refers (.specialization entry) target
  | pattern {entry : SpecializationEntry} {target : String} (h : entry.pattern = some target) :
    Refers (.specialization entry) target
  | argument {kind : EntryKind} {arg : ArgumentEntry} {target : String}
    (h : arg.Within kind.examined) (ht : arg.target? = some target) : Refers kind target

/-- The type spellings of an entry, those of base specifiers apart. -/
inductive EntryKind.Spells : EntryKind → String → Prop
  | field {spelling : String} : Spells (.field spelling) spelling
  | var {entry : VarEntry} : Spells (.var entry) entry.type
  | parm {spelling : String} : Spells (.parm spelling) spelling
  | returns {flavor : FunctionFlavor} {entry : FunctionEntry} {spelling : String}
    (h : entry.returns = some spelling) : Spells (.function flavor entry) spelling
  | typedef {spelling : String} : Spells (.typedef spelling) spelling
  | typeAlias {spelling : String} : Spells (.typeAlias spelling) spelling
  | valueParm {spelling : String} {position : ParmPosition} :
    Spells (.valueParm spelling position) spelling
  | argument {kind : EntryKind} {arg : ArgumentEntry} {spelling : String}
    (h : arg.Within kind.examined) (ht : arg.spelling? = some spelling) : Spells kind spelling

/-- A specialization names one origin, and a function has one link at most. -/
def EntryKind.Clear : EntryKind → Prop
  | .specialization entry => entry.originCount = 1
  | .function _ entry => entry.linkCount ≤ 1
  | _ => True

inductive Entry.Refers (entry : Entry) : String → Prop
  | parent {target : String} (h : entry.parent = some target) : Refers entry target
  | kind {target : String} (h : entry.kind.Refers target) : Refers entry target

/-- What has to hold of a manifest. -/
structure WellFormed (manifest : Manifest) : Prop where
  distinct : (manifest.entries.map Entry.id).Nodup
  references : ∀ entry ∈ manifest.entries, ∀ target, entry.Refers target →
    ∃ other ∈ manifest.entries, other.id = target
  spellings : ∀ entry ∈ manifest.entries, ∀ spelling, entry.kind.Spells spelling →
    ∃ type, CppType.parse? spelling = some type
  baseSpellings : ∀ entry ∈ manifest.entries, ∀ base ∈ entry.kind.bases,
    ∃ type, CppType.parse? base.type = some type
  origins : ∀ entry ∈ manifest.entries, ∀ special, entry.kind = .specialization special →
    special.originCount = 1
  links : ∀ entry ∈ manifest.entries, ∀ flavor function,
    entry.kind = .function flavor function → function.linkCount ≤ 1

/-- Something wrong with an entry, base specifiers apart, and the fault that tells of it. -/
inductive Entry.Defect (scope : Scope) (entry : Entry) : ManifestError → Prop
  | reference {target : String} (h : entry.Refers target)
    (hm : ∀ other ∈ scope.entries, other.id ≠ target) :
    Defect scope entry (.unknownReference entry.id target)
  | spelling {spelling : String} (h : entry.kind.Spells spelling)
    (hm : CppType.parse? spelling = none) : Defect scope entry (.badType entry.id spelling)
  | origin {special : SpecializationEntry} (h : entry.kind = .specialization special)
    (hc : special.originCount ≠ 1) : Defect scope entry (.unclearOrigin entry.id)
  | links {flavor : FunctionFlavor} {function : FunctionEntry}
    (h : entry.kind = .function flavor function) (hc : 1 < function.linkCount) :
    Defect scope entry (.conflictingLinks entry.id)

variable {scope : Scope} {owner : String}

theorem raises_reference_iff {target : String} :
    scope.raises (.unknownReference owner target) = true ↔
      ∀ other ∈ scope.entries, other.id ≠ target := by
  simp [Scope.raises, Scope.find?]

theorem raises_spelling_iff {spelling : String} :
    scope.raises (.badType owner spelling) = true ↔ CppType.parse? spelling = none := by
  simp [Scope.raises]

theorem ArgumentEntry.Within.subset {arg : ArgumentEntry} {args more : List ArgumentEntry}
    (h : arg.Within args) (hs : args ⊆ more) : arg.Within more := by
  cases h with
  | here h => exact .here (hs h)
  | inPack h hi => exact .inPack (hs h) hi

/-- A possible fault of an argument that stands in a list. -/
inductive ToldBy (owner : String) (args : List ArgumentEntry) : ManifestError → Prop
  | reference {arg : ArgumentEntry} {target : String} (h : arg.Within args)
    (ht : arg.target? = some target) : ToldBy owner args (.unknownReference owner target)
  | spelling {arg : ArgumentEntry} {spelling : String} (h : arg.Within args)
    (ht : arg.spelling? = some spelling) : ToldBy owner args (.badType owner spelling)

theorem ToldBy.mono {args more : List ArgumentEntry} {risk : ManifestError}
    (h : ToldBy owner args risk)
    (hs : ∀ arg : ArgumentEntry, arg.Within args → arg.Within more) : ToldBy owner more risk := by
  cases h with
  | reference h ht => exact .reference (hs _ h) ht
  | spelling h ht => exact .spelling (hs _ h) ht

mutual

theorem toldBy_of_mem_risks {risk : ManifestError} (arg : ArgumentEntry)
    (h : risk ∈ arg.risks owner) : ToldBy owner [arg] risk := by
  have hself : arg.Within [arg] := .here (by simp)
  cases arg with
  | null => simp [ArgumentEntry.risks] at h
  | type | integral | expression =>
    obtain rfl : risk = _ := by simpa [ArgumentEntry.risks] using h
    exact .spelling hself rfl
  | decl | template | expansion =>
    obtain rfl : risk = _ := by simpa [ArgumentEntry.risks] using h
    exact .reference hself rfl
  | pack elements =>
    have helements := toldBy_of_mem_risksOfList elements (by simpa [ArgumentEntry.risks] using h)
    exact helements.mono fun _ hi => .inPack (by simp) hi

theorem toldBy_of_mem_risksOfList {risk : ManifestError} (args : List ArgumentEntry)
    (h : risk ∈ ArgumentEntry.risksOfList owner args) : ToldBy owner args risk := by
  cases args with
  | nil => simp [ArgumentEntry.risksOfList] at h
  | cons arg args =>
    rw [ArgumentEntry.risksOfList, List.mem_append] at h
    rcases h with h | h
    · exact (toldBy_of_mem_risks arg h).mono fun _ hw => hw.subset (by simp)
    · exact (toldBy_of_mem_risksOfList args h).mono fun _ hw => hw.subset (by simp)

end

theorem mem_risksOfList {args : List ArgumentEntry} {risk : ManifestError} :
    risk ∈ ArgumentEntry.risksOfList owner args ↔ ∃ arg ∈ args, risk ∈ arg.risks owner := by
  induction args with
  | nil => simp [ArgumentEntry.risksOfList]
  | cons arg args ih => simp [ArgumentEntry.risksOfList, ih]

theorem ArgumentEntry.Within.mem_risksOfList {arg : ArgumentEntry} {args : List ArgumentEntry}
    {risk : ManifestError} (h : arg.Within args) (hr : risk ∈ arg.risks owner) :
    risk ∈ ArgumentEntry.risksOfList owner args := by
  induction h with
  | here h => exact Manifest.mem_risksOfList.mpr ⟨arg, h, hr⟩
  | inPack h _ ih =>
    exact Manifest.mem_risksOfList.mpr ⟨_, h, by simpa [ArgumentEntry.risks] using ih⟩

theorem mem_risksOfList_iff {args : List ArgumentEntry} {risk : ManifestError} :
    risk ∈ ArgumentEntry.risksOfList owner args ↔ ToldBy owner args risk := by
  refine ⟨toldBy_of_mem_risksOfList args, fun h => ?_⟩
  cases h with
  | @reference arg target h ht =>
    apply h.mem_risksOfList
    cases arg <;> simp_all [ArgumentEntry.target?, ArgumentEntry.risks]
  | @spelling arg spelling h ht =>
    apply h.mem_risksOfList
    cases arg <;> simp_all [ArgumentEntry.spelling?, ArgumentEntry.risks]

/-- With one link at most, all links and the arguments that matter are looked at. -/
theorem FunctionEntry.linkRisks_of_le {entry : FunctionEntry} (flavor : FunctionFlavor)
    (h : entry.linkCount ≤ 1) :
    entry.linkRisks owner =
      (entry.specializes.toList ++ entry.origin.toList ++ entry.candidates).map
        (.unknownReference owner) ++
      ArgumentEntry.risksOfList owner (EntryKind.function flavor entry).examined := by
  obtain ⟨returns, params, specializes, origin, candidates, args⟩ := entry
  unfold FunctionEntry.linkCount at h
  unfold FunctionEntry.linkRisks EntryKind.examined FunctionEntry.linkCount
  cases specializes <;> cases origin <;> cases candidates <;>
    simp_all [ArgumentEntry.risksOfList]

theorem FunctionEntry.linkRisks_of_lt {entry : FunctionEntry} (h : 1 < entry.linkCount) :
    entry.linkRisks owner = [.conflictingLinks owner] := by
  obtain ⟨returns, params, specializes, origin, candidates, args⟩ := entry
  unfold FunctionEntry.linkCount at h
  unfold FunctionEntry.linkRisks
  cases specializes <;> cases origin <;> cases candidates <;> simp_all

theorem SpecializationEntry.originRisks_of_eq {entry : SpecializationEntry}
    (h : entry.originCount = 1) :
    entry.originRisks owner =
      (entry.primary.toList ++ entry.pattern.toList).map (.unknownReference owner) := by
  unfold SpecializationEntry.originCount at h
  unfold SpecializationEntry.originRisks
  cases hp : entry.primary <;> cases hq : entry.pattern <;> simp_all

theorem SpecializationEntry.originRisks_of_ne {entry : SpecializationEntry}
    (h : entry.originCount ≠ 1) : entry.originRisks owner = [.unclearOrigin owner] := by
  unfold SpecializationEntry.originCount at h
  unfold SpecializationEntry.originRisks
  cases hp : entry.primary <;> cases hq : entry.pattern <;> simp_all

/-- A possible fault of an entry. -/
inductive EntryKind.Told (owner : String) (kind : EntryKind) : ManifestError → Prop
  | reference {target : String} (h : kind.Refers target) :
    Told owner kind (.unknownReference owner target)
  | spelling {spelling : String} (h : kind.Spells spelling) :
    Told owner kind (.badType owner spelling)
  | void : Told owner kind (.badType owner "void")
  | origin {special : SpecializationEntry} (h : kind = .specialization special)
    (hc : special.originCount ≠ 1) : Told owner kind (.unclearOrigin owner)
  | links {flavor : FunctionFlavor} {function : FunctionEntry}
    (h : kind = .function flavor function) (hc : 1 < function.linkCount) :
    Told owner kind (.conflictingLinks owner)

theorem told_of_mem_examined {kind : EntryKind} {risk : ManifestError}
    (h : risk ∈ ArgumentEntry.risksOfList owner kind.examined) : kind.Told owner risk := by
  cases mem_risksOfList_iff.mp h with
  | reference hw ht => exact .reference (.argument hw ht)
  | spelling hw ht => exact .spelling (.argument hw ht)

theorem told_of_mem_map {kind : EntryKind} {targets : List String} {risk : ManifestError}
    (h : risk ∈ targets.map (.unknownReference owner))
    (hr : ∀ target ∈ targets, kind.Refers target) : kind.Told owner risk := by
  obtain ⟨target, ht, rfl⟩ := List.mem_map.mp h
  exact .reference (hr target ht)

theorem told_of_mem_functionRisks {flavor : FunctionFlavor} {entry : FunctionEntry}
    {risk : ManifestError} (h : risk ∈ entry.risks owner) :
    (EntryKind.function flavor entry).Told owner risk := by
  rw [FunctionEntry.risks, List.mem_append, List.mem_cons] at h
  rcases h with (rfl | h) | h
  · cases hs : entry.returns with
    | none => exact .void
    | some spelling => exact .spelling (.returns hs)
  · exact told_of_mem_map h fun target ht => .functionParam ht
  · by_cases hc : entry.linkCount ≤ 1
    · rw [entry.linkRisks_of_le flavor hc, List.mem_append] at h
      rcases h with h | h
      · refine told_of_mem_map h fun target ht => ?_
        rw [List.mem_append, List.mem_append, Option.mem_toList, Option.mem_toList] at ht
        rcases ht with (ht | ht) | ht
        · exact .specializes ht
        · exact .functionOrigin ht
        · exact .candidate ht
      · exact told_of_mem_examined h
    · rw [FunctionEntry.linkRisks_of_lt (by omega), List.mem_singleton] at h
      exact h ▸ .links rfl (by omega)

theorem told_of_mem_specializationRisks {entry : SpecializationEntry} {risk : ManifestError}
    (h : risk ∈ (EntryKind.specialization entry).risks owner) :
    (EntryKind.specialization entry).Told owner risk := by
  rw [EntryKind.risks, List.mem_append] at h
  rcases h with h | h
  · by_cases hc : entry.originCount = 1
    · rw [SpecializationEntry.originRisks_of_eq hc] at h
      refine told_of_mem_map h fun target ht => ?_
      rw [List.mem_append, Option.mem_toList, Option.mem_toList] at ht
      exact ht.elim .primary .pattern
    · rw [SpecializationEntry.originRisks_of_ne hc, List.mem_singleton] at h
      exact h ▸ .origin rfl hc
  · exact told_of_mem_examined h

theorem told_of_mem_kindRisks {kind : EntryKind} {risk : ManifestError}
    (h : risk ∈ kind.risks owner) : kind.Told owner risk := by
  cases kind with
  | namespaceDecl | enumeration | enumConstant | accessLabel | typeParm | templateParm =>
    simp [EntryKind.risks] at h
  | field spelling => exact List.mem_singleton.mp h ▸ .spelling .field
  | parm spelling => exact List.mem_singleton.mp h ▸ .spelling .parm
  | typedef spelling => exact List.mem_singleton.mp h ▸ .spelling .typedef
  | typeAlias spelling => exact List.mem_singleton.mp h ▸ .spelling .typeAlias
  | valueParm spelling position => exact List.mem_singleton.mp h ▸ .spelling .valueParm
  | record keyword entry =>
    exact told_of_mem_map h fun target ht => .recordOrigin (Option.mem_toList.mp ht)
  | var entry =>
    rcases List.mem_cons.mp h with rfl | h
    · exact .spelling .var
    · exact told_of_mem_map h fun target ht => .varOrigin (Option.mem_toList.mp ht)
  | function flavor entry => exact told_of_mem_functionRisks h
  | template flavor entry =>
    rw [EntryKind.risks, TemplateEntry.risks, List.mem_append, List.mem_cons] at h
    rcases h with (rfl | h) | h
    · exact .reference .templated
    · exact told_of_mem_map h fun target ht => .templateParam ht
    · exact told_of_mem_map h fun target ht => .templateOrigin (Option.mem_toList.mp ht)
  | partialSpecialization entry =>
    rw [EntryKind.risks, PartialEntry.risks, List.mem_append, List.mem_cons] at h
    rcases h with (rfl | h) | h
    · exact .reference .partialTemplate
    · exact told_of_mem_map h fun target ht => .partialParam ht
    · exact told_of_mem_examined h
  | specialization entry => exact told_of_mem_specializationRisks h

theorem defect_of_mem_risks {entry : Entry} {risk : ManifestError} (h : risk ∈ entry.risks)
    (hr : scope.raises risk = true) : entry.Defect scope risk := by
  rw [Entry.risks, List.mem_append] at h
  rcases h with h | h
  · cases told_of_mem_kindRisks h with
    | reference hk => exact .reference (.kind hk) (raises_reference_iff.mp hr)
    | spelling hk => exact .spelling hk (raises_spelling_iff.mp hr)
    | void =>
      have hvoid : (CppType.parse? "void").isSome = true := by decide +kernel
      simp [raises_spelling_iff.mp hr] at hvoid
    | origin hk hc => exact .origin hk hc
    | links hk hc => exact .links hk hc
  · obtain ⟨target, ht, rfl⟩ := List.mem_map.mp h
    exact .reference (.parent (Option.mem_toList.mp ht)) (raises_reference_iff.mp hr)

theorem examined_subset_risks {kind : EntryKind} (hc : kind.Clear) :
    ArgumentEntry.risksOfList owner kind.examined ⊆ kind.risks owner := by
  cases kind with
  | function flavor entry =>
    rw [EntryKind.risks, FunctionEntry.risks, FunctionEntry.linkRisks_of_le flavor hc]
    exact fun risk h => List.mem_append_right _ (List.mem_append_right _ h)
  | partialSpecialization entry => exact List.subset_append_right _ _
  | specialization entry => exact List.subset_append_right _ _
  | _ => exact List.nil_subset _

theorem reference_mem_risks {kind : EntryKind} (hc : kind.Clear) {target : String}
    (h : kind.Refers target) : .unknownReference owner target ∈ kind.risks owner := by
  cases h with
  | recordOrigin h | varOrigin h => simp [EntryKind.risks, h]
  | templated => simp [EntryKind.risks, TemplateEntry.risks]
  | templateParam h | templateOrigin h => simp [EntryKind.risks, TemplateEntry.risks, h]
  | partialTemplate => simp [EntryKind.risks, PartialEntry.risks]
  | partialParam h => simp [EntryKind.risks, PartialEntry.risks, h]
  | primary h | pattern h =>
    simp [EntryKind.risks, SpecializationEntry.originRisks_of_eq hc, h]
  | functionParam h => simp [EntryKind.risks, FunctionEntry.risks, h]
  | @specializes flavor _ _ h | @functionOrigin flavor _ _ h | @candidate flavor _ _ h =>
    simp [EntryKind.risks, FunctionEntry.risks, FunctionEntry.linkRisks_of_le flavor hc, h]
  | argument h ht => exact examined_subset_risks hc (mem_risksOfList_iff.mpr (.reference h ht))

theorem spelling_mem_risks {kind : EntryKind} (hc : kind.Clear) {spelling : String}
    (h : kind.Spells spelling) : .badType owner spelling ∈ kind.risks owner := by
  cases h with
  | field | var | parm | typedef | typeAlias | valueParm => simp [EntryKind.risks]
  | returns h => simp [EntryKind.risks, FunctionEntry.risks, h]
  | argument h ht => exact examined_subset_risks hc (mem_risksOfList_iff.mpr (.spelling h ht))

theorem raises_of_not_clear {kind : EntryKind} (hc : ¬ kind.Clear) :
    ∃ risk ∈ kind.risks owner, scope.raises risk = true := by
  cases kind with
  | specialization entry =>
    refine ⟨.unclearOrigin owner, ?_, rfl⟩
    simp [EntryKind.risks, SpecializationEntry.originRisks_of_ne hc]
  | function flavor entry =>
    refine ⟨.conflictingLinks owner, ?_, rfl⟩
    simp [EntryKind.risks, FunctionEntry.risks,
      FunctionEntry.linkRisks_of_lt (Nat.lt_of_not_le hc)]
  | _ => exact absurd trivial hc

/-- A defect may hide another of the same entry, but never all of them. -/
theorem find?_risks_eq_none_iff {entry : Entry} :
    entry.risks.find? scope.raises = none ↔ ∀ fault, ¬ entry.Defect scope fault := by
  rw [List.find?_eq_none]
  constructor
  · intro h fault hf
    have hkind : ∀ risk ∈ entry.kind.risks entry.id, ¬ scope.raises risk = true :=
      fun risk hr => h risk (List.mem_append_left _ hr)
    by_cases hc : entry.kind.Clear
    · cases hf with
      | reference href hm =>
        cases href with
        | kind hk => exact hkind _ (reference_mem_risks hc hk) (raises_reference_iff.mpr hm)
        | parent hp =>
          refine h (.unknownReference entry.id _) ?_ (raises_reference_iff.mpr hm)
          simp [Entry.risks, hp]
      | spelling hs hm => exact hkind _ (spelling_mem_risks hc hs) (raises_spelling_iff.mpr hm)
      | origin hk hn =>
        rw [hk] at hc
        exact hn hc
      | links hk hn =>
        rw [hk] at hc
        exact Nat.not_le_of_lt hn hc
    · obtain ⟨risk, hr, hraise⟩ := raises_of_not_clear hc
      exact hkind risk hr hraise
  · exact fun h risk hr hraise => h risk (defect_of_mem_risks hr hraise)

theorem find?_baseRisks_eq_none_iff {entry : Entry} :
    entry.baseRisks.find? scope.raises = none ↔
      ∀ base ∈ entry.kind.bases, CppType.parse? base.type ≠ none := by
  simp only [Entry.baseRisks, List.find?_eq_none, List.forall_mem_map, raises_spelling_iff,
    ne_eq]

theorem toBuilder_eq_error_iff {manifest : Manifest} (hd : Scope.Distinct ⟨manifest.entries⟩)
    {fault : ManifestError} :
    manifest.toBuilder = .error fault ↔
      manifest.risks.find? (Scope.raises ⟨manifest.entries⟩) = some fault := by
  have hl := toBuilder_lowers hd
  cases hb : manifest.toBuilder with
  | ok builder =>
    rw [hb] at hl
    simp [hl.1]
  | error other =>
    rw [hb] at hl
    rw [show manifest.risks.find? _ = some other from hl]
    simp

theorem exists_toBuilder_iff {manifest : Manifest} (hd : Scope.Distinct ⟨manifest.entries⟩) :
    (∃ builder, manifest.toBuilder = .ok builder) ↔
      manifest.risks.find? (Scope.raises ⟨manifest.entries⟩) = none := by
  cases hb : manifest.toBuilder with
  | ok builder =>
    have hl := toBuilder_lowers hd
    rw [hb] at hl
    simp [hl.1]
  | error fault => simp [(toBuilder_eq_error_iff hd).mp hb]

theorem wellFormed_iff {manifest : Manifest} :
    manifest.WellFormed ↔ Scope.Distinct ⟨manifest.entries⟩ ∧
      (∀ entry ∈ manifest.entries, ∀ fault, ¬ entry.Defect ⟨manifest.entries⟩ fault) ∧
      ∀ entry ∈ manifest.entries, ∀ base ∈ entry.kind.bases,
        CppType.parse? base.type ≠ none := by
  constructor
  · intro h
    refine ⟨h.distinct, fun entry he fault hf => ?_, fun entry he base hb hm => ?_⟩
    · cases hf with
      | reference href hm =>
        obtain ⟨other, ho, heq⟩ := h.references entry he _ href
        exact hm other ho heq
      | spelling hs hm =>
        obtain ⟨type, ht⟩ := h.spellings entry he _ hs
        simp [ht] at hm
      | origin hk hc => exact hc (h.origins entry he _ hk)
      | links hk hc => exact Nat.not_le_of_lt hc (h.links entry he _ _ hk)
    · obtain ⟨type, ht⟩ := h.baseSpellings entry he base hb
      simp [ht] at hm
  · rintro ⟨hd, hn, hb⟩
    refine ⟨hd, fun entry he target href => ?_, fun entry he spelling hs => ?_,
      fun entry he base hbase => Option.ne_none_iff_exists'.mp (hb entry he base hbase),
      fun entry he special hk => ?_, fun entry he flavor function hk => ?_⟩
    · by_contra hm
      push Not at hm
      exact hn entry he _ (.reference href hm)
    · by_contra hm
      exact hn entry he _ (.spelling hs (by simpa [Option.eq_none_iff_forall_ne_some] using hm))
    · by_contra hc
      exact hn entry he _ (.origin hk hc)
    · by_contra hc
      exact hn entry he _ (.links hk (Nat.lt_of_not_le hc))

theorem find?_risks_none_iff {manifest : Manifest} (hd : Scope.Distinct ⟨manifest.entries⟩) :
    manifest.risks.find? (Scope.raises ⟨manifest.entries⟩) = none ↔ manifest.WellFormed := by
  rw [wellFormed_iff, risks, List.find?_append, Option.or_eq_none_iff, List.find?_flatMap,
    List.find?_flatMap, List.findSome?_eq_none_iff, List.findSome?_eq_none_iff]
  simp only [find?_risks_eq_none_iff, find?_baseRisks_eq_none_iff, hd, true_and]

theorem exists_toBuilder_iff_wellFormed (manifest : Manifest) :
    (∃ builder, manifest.toBuilder = .ok builder) ↔ manifest.WellFormed := by
  constructor
  · rintro ⟨builder, hb⟩
    have hd := distinct_of_toBuilder hb
    exact (find?_risks_none_iff hd).mp ((exists_toBuilder_iff hd).mp ⟨builder, hb⟩)
  · intro h
    exact (exists_toBuilder_iff h.distinct).mpr ((find?_risks_none_iff h.distinct).mpr h)

/-- The arguments of a function without a link may say anything. -/
example : (toBuilder ⟨"run.cpp", [⟨"run", none, none, none,
    .function .free ⟨none, [], none, none, [], [.decl "gone", .type "*"]⟩⟩]⟩).toOption.isSome =
      true := by
  decide +kernel

end CppIntrospect.Manifest
