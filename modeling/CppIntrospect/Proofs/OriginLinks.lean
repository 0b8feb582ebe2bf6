import CppIntrospect.Proofs.TemplateLists

/-! Where a declaration comes from. Each category of declaration keeps the link to its template
or to its member in a place of its own, and a cursor shows it as the cursor of the declaration
that it leads to. A link that led nowhere would be passed over in silence, but the references of
a registered unit have been checked. -/

namespace CppIntrospect

/-- The one link that counts for a declaration. The member that a record was instantiated from
does not count if the record is a specialization, and that of a variable only counts for static
data members. -/
inductive Decl.ComesFrom (decl : Decl) (target : DeclId) : Prop
  | ofPattern {record : RecordDecl} {params : List DeclId} {args : List TemplateArgument} :
    decl.kind = .record record → record.specialization = some (.ofPattern target params args) →
    ComesFrom decl target
  | primary {record : RecordDecl} {args : List TemplateArgument} : decl.kind = .record record →
    record.specialization = some (.full (.primary target) args) → ComesFrom decl target
  | partialSpecialization {record : RecordDecl} {args : List TemplateArgument} :
    decl.kind = .record record →
    record.specialization = some (.full (.partialSpecialization target) args) →
    ComesFrom decl target
  | memberClass {record : RecordDecl} : decl.kind = .record record →
    record.specialization = none → record.memberOrigin = some target → ComesFrom decl target
  | functionTemplate {function : FunctionDecl} {args : List TemplateArgument} :
    decl.kind = .function function → function.templating = .specialization target args →
    ComesFrom decl target
  | memberFunction {function : FunctionDecl} {args : List TemplateArgument} :
    decl.kind = .function function → function.templating = .member target args →
    ComesFrom decl target
  | staticMember {var : VarDecl} : decl.kind = .var var → var.isStaticMember = true →
    var.origin = some target → ComesFrom decl target
  | memberTemplate {template : TemplateDecl} : decl.kind = .template template →
    template.memberOrigin = some target → ComesFrom decl target

namespace Decl

variable {decl : Decl} {target : DeclId}

theorem comesFrom_of_record {record : RecordDecl} (hk : decl.kind = .record record)
    (h : record.origin = some target) : decl.ComesFrom target := by
  unfold RecordDecl.origin at h
  split at h
  · next hs =>
    cases h
    exact .ofPattern hk hs
  · next origin _ hs =>
    cases h
    cases origin with
    | primary => exact .primary hk hs
    | partialSpecialization => exact .partialSpecialization hk hs
  · next hs => exact .memberClass hk hs h

theorem comesFrom_of_function {function : FunctionDecl} (hk : decl.kind = .function function)
    (h : function.origin = some target) : decl.ComesFrom target := by
  unfold FunctionDecl.origin at h
  split at h
  · next ht =>
    cases h
    exact .functionTemplate hk ht
  · next ht =>
    cases h
    exact .memberFunction hk ht
  · cases h

theorem origin_eq_some_iff : decl.origin = some target ↔ decl.ComesFrom target := by
  constructor
  · intro h
    unfold origin at h
    split at h
    · next hk => exact comesFrom_of_record hk h
    · next hk => exact comesFrom_of_function hk h
    · next var hk =>
      by_cases hs : var.isStaticMember = true
      · exact .staticMember hk hs (by simpa [VarDecl.staticOrigin, hs] using h)
      · simp [VarDecl.staticOrigin, hs] at h
    · next hk => exact .memberTemplate hk h
    · cases h
  · intro h
    cases h with
    | ofPattern hk hs | primary hk hs | partialSpecialization hk hs =>
      simp [origin, hk, RecordDecl.origin, hs, SpecializedFrom.decl]
    | memberClass hk hs hm => simp [origin, hk, RecordDecl.origin, hs, hm]
    | functionTemplate hk ht | memberFunction hk ht =>
      simp [origin, hk, FunctionDecl.origin, ht]
    | staticMember hk hs ho => simp [origin, hk, VarDecl.staticOrigin, hs, ho]
    | memberTemplate hk hm => simp [origin, hk, hm]

/-- The check of the references looks at every link that can count. -/
theorem ComesFrom.mentions (h : decl.ComesFrom target) : decl.Mentions (.decl target) := by
  apply Decl.Mentions.kind
  cases h with
  | ofPattern hk hs => exact hk ▸ .specialization hs .template
  | primary hk hs => exact hk ▸ .specialization hs .origin
  | partialSpecialization hk hs => exact hk ▸ .specialization hs .origin
  | memberClass hk _ hm => exact hk ▸ .memberClass hm
  | functionTemplate hk ht => exact hk ▸ .templating (ht ▸ .primary)
  | memberFunction hk ht => exact hk ▸ .templating (ht ▸ .member)
  | staticMember hk _ ho => exact hk ▸ .varOrigin ho
  | memberTemplate hk hm => exact hk ▸ .memberTemplate hm

end Decl

namespace Cursor

variable {store : Store} {unit : TranslationUnit} {id : DeclId} {decl : Decl}
  (hlive : store.resolve unit.id = .ok unit) (hd : unit.decl? id = some decl)
  (hheld : ∀ ref, decl.Mentions ref → unit.Holds ref)
include hlive hd

theorem specializedTemplate_ofDecl :
    specializedTemplate (.decl (.ofDecl decl) unit.id id) store =
      .ok (decl.origin.bind (ofDecl? unit)) := by
  simp [specializedTemplate, Cursor.kind, CursorKind.isDeclaration_ofDecl, hlive, hd, Except.map]

include hheld

theorem specializedTemplate_of_comesFrom {target : DeclId} (h : decl.ComesFrom target) :
    ∃ linked, unit.decl? target = some linked ∧
      specializedTemplate (.decl (.ofDecl decl) unit.id id) store =
        .ok (some (.decl (.ofDecl linked) unit.id target)) := by
  obtain ⟨linked, hl⟩ := hheld _ h.mentions
  refine ⟨linked, hl, ?_⟩
  rw [specializedTemplate_ofDecl hlive hd, Decl.origin_eq_some_iff.mpr h, Option.bind_some, ofDecl?,
    hl, Option.map_some]

theorem specializedTemplate_eq_none_iff :
    specializedTemplate (.decl (.ofDecl decl) unit.id id) store = .ok none ↔
      ∀ target, ¬ decl.ComesFrom target := by
  constructor
  · intro hnone target h
    obtain ⟨linked, -, hsome⟩ := specializedTemplate_of_comesFrom hlive hd hheld h
    simp [hnone] at hsome
  · intro h
    have hnone : decl.origin = none := by
      rw [Option.eq_none_iff_forall_ne_some]
      exact fun target ht => h target (Decl.origin_eq_some_iff.mp ht)
    rw [specializedTemplate_ofDecl hlive hd, hnone, Option.bind_none]

theorem templateCursorKind_of_template {template : TemplateDecl}
    (hk : decl.kind = .template template) (hf : template.flavor ≠ .ofAlias) :
    ∃ templated, unit.decl? template.templated = some templated ∧
      templateCursorKind (.decl (.ofDecl decl) unit.id id) store = .ok (.ofDecl templated) := by
  obtain ⟨templated, ht⟩ := hheld (.decl template.templated) (.kind (hk ▸ .templated))
  have hkind : unit.templatedKind id = .ofDecl templated := by
    simp [TranslationUnit.templatedKind, hd, Decl.template?, hk, ht]
  refine ⟨templated, ht, ?_⟩
  rw [Report.templateCursorKind_ofDecl hlive, ← hkind]
  cases hflavor : template.flavor with
  | ofClass | ofFunction =>
    simp [TranslationUnit.produces, CursorKind.ofDecl, hk, hflavor, CursorKind.ofTemplateFlavor]
  | ofAlias => exact absurd hflavor hf

end Cursor

namespace StoreRun

/-- Whatever a store has been through, a cursor to a declaration of a live unit shows where the
declaration comes from, and nothing exactly if it comes from nowhere. A template of a class or of
a function tells the kind of the declaration that it stores. -/
theorem origins_shown (calls : List StoreCall) {id : UnitId} {unit : TranslationUnit}
    {cursor : Cursor} {owner : DeclId} (hu : (of calls).store.unit id = .ok unit)
    (hc : cursor.unit? = some id) (ho : cursor.decl? = some owner)
    (hw : cursor.WellFormed unit) :
    let store := (of calls).store
    ∃ decl, unit.decl? owner = some decl ∧
      (cursor.specializedTemplate store = .ok none ↔ ∀ target, ¬ decl.ComesFrom target) ∧
      (∀ target, decl.ComesFrom target → ∃ linked, unit.decl? target = some linked ∧
        cursor.specializedTemplate store = .ok (some (.decl (.ofDecl linked) id target))) ∧
      ∀ template, decl.kind = .template template → template.flavor ≠ .ofAlias →
        ∃ templated, unit.decl? template.templated = some templated ∧
          cursor.templateCursorKind store = .ok (.ofDecl templated) ∧
          CursorKind.ofDecl templated ≠ .noDeclFound := by
  intro store
  have htracks := tracks_of calls
  obtain ⟨decl, hd, rfl⟩ := Cursor.WellFormed.eq_decl hc ho hw
  obtain rfl := htracks.id_of_unit hu
  have hlive : store.resolve unit.id = .ok unit := Store.resolve_eq_ok_iff.mpr hu
  have hheld : ∀ ref, decl.Mentions ref → unit.Holds ref := fun _ => htracks.holds hu hd
  refine ⟨decl, hd, Cursor.specializedTemplate_eq_none_iff hlive hd hheld,
    fun target => Cursor.specializedTemplate_of_comesFrom hlive hd hheld,
    fun template hk hf => ?_⟩
  obtain ⟨templated, ht, hkind⟩ := Cursor.templateCursorKind_of_template hlive hd hheld hk hf
  refine ⟨templated, ht, hkind, fun hno => ?_⟩
  have hvalid := CursorKind.isInvalid_ofDecl templated
  rw [hno] at hvalid
  cases hvalid

/-- A specialization of a partial specialization, which also has a member link; a variable with a
link that is no static data member; and a template. The slot was used before. -/
theorem origins_shown_reused :
    let pattern : RecordDecl := { tag := .structTag, specialization := some (.ofPattern ⟨1⟩ [] []) }
    let special : RecordDecl :=
      { tag := .structTag
        memberOrigin := some ⟨0⟩
        specialization := some (.full (.partialSpecialization ⟨2⟩) []) }
    let decls : List Decl :=
      [{ name := "Box", kind := .record { tag := .unionTag } },
        { name := "Box", kind := .template { flavor := .ofClass, templated := ⟨0⟩, params := [] } },
        { name := "Box", kind := .record pattern }, { name := "Box", kind := .record special },
        { name := "size", kind := .var { type := ⟨0⟩, origin := some ⟨4⟩ } }]
    let builder : Builder := { name := "a.cpp", decls, types := [.builtin .bool] }
    let store := (of [.add builder, .dispose ⟨0, 0⟩, .add builder]).store
    (∃ unit, store.unit ⟨0, 1⟩ = .ok unit ∧
      (Cursor.decl .structDecl ⟨0, 1⟩ ⟨3⟩).WellFormed unit) ∧
      (Cursor.decl .structDecl ⟨0, 1⟩ ⟨3⟩).specializedTemplate store =
        .ok (some (.decl .classTemplatePartialSpecialization ⟨0, 1⟩ ⟨2⟩)) ∧
      (Cursor.decl .varDecl ⟨0, 1⟩ ⟨4⟩).specializedTemplate store = .ok none ∧
      (Cursor.decl .classTemplate ⟨0, 1⟩ ⟨1⟩).templateCursorKind store = .ok .unionDecl := by
  intro pattern special decls builder store
  let unit : TranslationUnit :=
    ⟨⟨0, 1⟩, "a.cpp", decls, [], builder.types, [], .enter [] 0 decls⟩
  have hu : store.unit ⟨0, 1⟩ = .ok unit := by decide +kernel
  have hw : (Cursor.decl .structDecl ⟨0, 1⟩ ⟨3⟩).WellFormed unit := ⟨_, rfl, rfl⟩
  have hwvar : (Cursor.decl .varDecl ⟨0, 1⟩ ⟨4⟩).WellFormed unit := ⟨_, rfl, rfl⟩
  have hwbox : (Cursor.decl .classTemplate ⟨0, 1⟩ ⟨1⟩).WellFormed unit := ⟨_, rfl, rfl⟩
  obtain ⟨_, hd, -, hsome, -⟩ := origins_shown _ hu rfl rfl hw
  obtain rfl := Option.some.inj hd
  obtain ⟨_, hl, hshown⟩ := hsome ⟨2⟩ (.partialSpecialization rfl rfl)
  obtain rfl := Option.some.inj hl
  obtain ⟨_, hd, hnone, -⟩ := origins_shown _ hu rfl rfl hwvar
  obtain rfl := Option.some.inj hd
  obtain ⟨_, hd, -, -, hkind⟩ := origins_shown _ hu rfl rfl hwbox
  obtain rfl := Option.some.inj hd
  obtain ⟨_, hl, hunion, -⟩ := hkind _ rfl (by decide)
  obtain rfl := Option.some.inj hl
  refine ⟨⟨unit, hu, hw⟩, hshown, hnone.mpr fun target h => ?_, hunion⟩
  have hlink : (none : Option DeclId) = some target := Decl.origin_eq_some_iff.mpr h
  cases hlink

end StoreRun

end CppIntrospect
