import CppIntrospect.Manifest.Load
import CppIntrospect.Proofs.LoweringRange
import CppIntrospect.Proofs.StoreView
import Mathlib.Data.List.Forall2

/-! A manifest that lowers makes a unit that every store accepts: base specifiers are only
attached to records, and the passes after the first write no id out of range. So loading
either registers one unit or leaves the store as it was. -/

namespace CppIntrospect.Manifest

/-- A builder with one declaration for each entry, all its ids in range. -/
structure Ready (scope : Scope) (builder : Builder) : Prop where
  decls_length : builder.decls.length = scope.entries.length
  declsFit : ∀ decl ∈ builder.decls, ∀ ref ∈ decl.refs, Fits scope builder ref
  basesFit : ∀ base ∈ builder.bases, ∀ ref ∈ base.refs, Fits scope builder ref
  exprsFit : ExprsFit scope builder
  records : ∀ (i : Nat) (entry : Entry), scope.entries[i]? = some entry → entry.kind.bases ≠ [] →
    ∃ decl record, builder.decls[i]? = some decl ∧ decl.kind = .record record

variable {scope : Scope} {builder next : Builder}

theorem Ready.of_extends (h : Ready scope builder) (he : Extends scope builder next) :
    Ready scope next where
  decls_length := by rw [he.decls, h.decls_length]
  declsFit decl hd ref hr := he.fits (h.declsFit decl (he.decls ▸ hd) ref hr)
  basesFit base hb ref hr := he.fits (h.basesFit base (he.bases ▸ hb) ref hr)
  exprsFit := he.exprsFit h.exprsFit
  records := by rw [he.decls]; exact h.records

theorem lowerEntries_yields (entries : List Entry) (builder : Builder) :
    Yields (lowerEntries scope entries builder).2 fun next =>
      Extends scope builder next ∧
      (∀ decl ∈ (lowerEntries scope entries builder).1, ∀ ref ∈ decl.refs, Fits scope next ref) ∧
      List.Forall₂ (fun entry decl => RecordIfBases entry.kind decl.kind) entries
        (lowerEntries scope entries builder).1 := by
  induction entries generalizing builder with
  | nil =>
    refine ⟨.refl scope builder, ?_, .nil⟩
    simp [lowerEntries]
  | cons entry entries ih =>
    have hentry : Yields (lowerEntry scope entry builder) _ := lowerEntry_yields entry builder
    unfold lowerEntries
    cases hl : lowerEntry scope entry builder with
    | error fault =>
      rw [hl] at hentry
      exact hentry
    | ok made =>
      rw [hl] at hentry
      refine (ih made.2).mono fun next hn => ?_
      refine ⟨hentry.1.grows.trans hn.1, ?_, .cons hentry.2 hn.2.2⟩
      exact List.forall_mem_cons.mpr
        ⟨fun ref hr => hn.1.fits (hentry.1.fits ref hr), hn.2.1⟩

theorem ready_of_lowerEntries {entries : List Entry} {name : String} {lowered : Builder}
    (h : (lowerEntries ⟨entries⟩ entries (.empty name)).2 = .ok lowered) :
    Ready ⟨entries⟩ { lowered with decls := (lowerEntries ⟨entries⟩ entries (.empty name)).1 } := by
  have hy : Yields (lowerEntries ⟨entries⟩ entries (.empty name)).2 _ :=
    lowerEntries_yields entries (.empty name)
  rw [h] at hy
  obtain ⟨hext, hfit, hrec⟩ := hy
  have hfits : ∀ ref, Fits ⟨entries⟩ lowered ref →
      Fits ⟨entries⟩
        { lowered with decls := (lowerEntries ⟨entries⟩ entries (.empty name)).1 } ref :=
    fun ref hr => hr.mono (Nat.le_refl _) (Nat.le_refl _)
  refine ⟨hrec.length_eq.symm, fun decl hd ref hr => hfits ref (hfit decl hd ref hr), ?_,
    fun expr he ref hr => hfits ref (hext.exprsFit nofun expr he ref hr), ?_⟩
  · intro base hb
    rw [show lowered.bases = [] from hext.bases] at hb
    cases hb
  · intro i entry hi hne
    obtain ⟨hlt, rfl⟩ := List.getElem?_eq_some_iff.mp hi
    have hlt' : i < (lowerEntries ⟨entries⟩ entries (.empty name)).1.length := hrec.length_eq ▸ hlt
    obtain ⟨record, hk⟩ := hrec.get hlt hlt' hne
    exact ⟨_, record, List.getElem?_eq_getElem hlt', hk⟩

/-- Attaching a base specifier to a record never fails. -/
theorem addBase_ready (h : Ready scope builder) {owner : DeclId} {type : TypeId} {decl : Decl}
    {record : RecordDecl} (hd : builder.decls[owner.index]? = some decl)
    (hk : decl.kind = .record record) (ht : Fits scope builder (.type type)) (access : Access)
    (isVirtual : Bool) :
    ∃ id next, builder.addBase owner type access isVirtual = (.ok id, next) ∧
      Ready scope next := by
  obtain ⟨name, declAccess, parent, kind⟩ := decl
  obtain rfl : kind = .record record := hk
  have hlt := (List.getElem?_eq_some_iff.mp hd).1
  simp only [Builder.addBase, hd]
  refine ⟨_, _, rfl, ?_⟩
  refine ⟨?_, ?_, ?_, ?_, ?_⟩
  · simpa [Builder.setDecl] using h.decls_length
  · intro changed hc ref hr
    rcases List.mem_or_eq_of_mem_set hc with hc | rfl
    · exact h.declsFit changed hc ref hr
    · -- The base specifiers of a record are no references.
      exact h.declsFit _ (List.mem_of_getElem? hd) ref hr
  · intro base hb ref hr
    rcases List.mem_append.mp hb with hb | hb
    · exact h.basesFit base hb ref hr
    · obtain rfl := List.mem_singleton.mp hb
      simp only [BaseSpecifier.refs, List.mem_cons, List.not_mem_nil, or_false] at hr
      rcases hr with rfl | rfl
      · exact ht
      · show owner.index < scope.entries.length
        rw [← h.decls_length]
        exact hlt
  · exact h.exprsFit
  · intro i entry hi hne
    obtain ⟨old, oldRecord, ho, hrec⟩ := h.records i entry hi hne
    simp only [Builder.setDecl, List.getElem?_set]
    by_cases hio : owner.index = i
    · simp [hio, hio ▸ hlt]
    · exact ⟨old, oldRecord, by simpa [hio] using ho, hrec⟩

theorem lowerBases_yields {entry : Entry} {owner : DeclId}
    (ho : scope.entries[owner.index]? = some entry) (bases : List BaseEntry)
    (hsub : ∀ base ∈ bases, base ∈ entry.kind.bases) (h : Ready scope builder) :
    Yields (lowerBases scope entry owner bases builder) (Ready scope) := by
  induction bases generalizing builder with
  | nil => exact h
  | cons base bases ih =>
    refine (lowerType_yields entry.id base.type builder).bind fun (type, typed) ht => ?_
    have hr := h.of_extends ht.grows
    have hne : entry.kind.bases ≠ [] := List.ne_nil_of_mem (hsub base List.mem_cons_self)
    obtain ⟨decl, record, hd, hk⟩ := hr.records owner.index entry ho hne
    obtain ⟨id, next, ha, hn⟩ := addBase_ready hr hd hk ht.head
      ((base.access.map AccessKeyword.access).getD (defaultAccess entry.kind.tag?)) base.isVirtual
    simp only [ha]
    exact ih (fun other hm => hsub other (List.mem_cons_of_mem _ hm)) hn

theorem lowerAllBases_yields (entries : List Entry) (start : Nat)
    (he : ∀ (i : Nat) (entry : Entry), entries[i]? = some entry →
      scope.entries[start + i]? = some entry)
    (h : Ready scope builder) :
    Yields (lowerAllBases scope start entries builder) (Ready scope) := by
  induction entries generalizing start builder with
  | nil => exact h
  | cons entry entries ih =>
    refine (lowerBases_yields (he 0 entry rfl) entry.kind.bases (fun _ hm => hm) h).bind
      fun next hn => ?_
    apply ih (start + 1) _ hn
    intro i later hi
    have hh := he (i + 1) later hi
    rwa [show start + 1 + i = start + (i + 1) by omega]

theorem markPattern_refs {template : DeclId} {decl : Decl} {ref : Ref}
    (h : ref ∈ (markPattern template decl).refs) : ref ∈ decl.refs ∨ ref = .decl template := by
  unfold markPattern at h
  split at h
  · next function hk =>
    split at h
    · next hn =>
      simp only [Decl.refs, DeclKind.refs, hk, hn, FunctionTemplating.refs, List.mem_append,
        List.mem_cons, List.not_mem_nil, or_false] at h ⊢
      tauto
    · exact .inl h
  · exact .inl h

theorem markPattern_record {template : DeclId} {decl : Decl} {record : RecordDecl}
    (h : decl.kind = .record record) : markPattern template decl = decl := by
  simp [markPattern, h]

theorem Ready.mark (h : Ready scope builder) {pattern template : DeclId}
    (ht : template.index < scope.entries.length) :
    Ready scope
      { builder with decls := builder.decls.modify pattern.index (markPattern template) } where
  decls_length := by simpa using h.decls_length
  declsFit decl hd ref hr := by
    obtain ⟨i, hi⟩ := List.mem_iff_getElem?.mp hd
    rw [List.getElem?_modify] at hi
    obtain ⟨old, ho, rfl⟩ := Option.map_eq_some_iff.mp hi
    have hold := h.declsFit old (List.mem_of_getElem? ho)
    split at hr
    · rcases markPattern_refs hr with hr | rfl
      · exact hold ref hr
      · exact ht
    · exact hold ref hr
  basesFit := h.basesFit
  exprsFit := h.exprsFit
  records i entry hi hne := by
    obtain ⟨decl, record, hd, hk⟩ := h.records i entry hi hne
    refine ⟨decl, record, ?_, hk⟩
    rw [List.getElem?_modify, hd]
    simp [markPattern_record hk]

theorem patterns_lt {decls : List Decl} {link : DeclId × DeclId} (h : link ∈ patterns decls) :
    link.2.index < decls.length := by
  obtain ⟨⟨decl, i⟩, hm, hf⟩ := List.mem_filterMap.mp h
  have hlt := (List.getElem?_eq_some_iff.mp (List.mem_zipIdx_iff_getElem?.mp hm)).1
  dsimp only [pattern?] at hf
  split at hf
  · split at hf
    · obtain rfl := Option.some.inj hf
      exact hlt
    · cases hf
  · cases hf

theorem Ready.markPatterns (h : Ready scope builder) {links : List (DeclId × DeclId)}
    (hlt : ∀ link ∈ links, link.2.index < scope.entries.length) :
    Ready scope (markPatterns links builder) := by
  unfold Manifest.markPatterns
  induction links generalizing builder with
  | nil => exact h
  | cons link links ih =>
    exact ih (h.mark (hlt link List.mem_cons_self)) fun other hm =>
      hlt other (List.mem_cons_of_mem _ hm)

theorem Ready.inRange (h : Ready scope builder) {ref : Ref} (hr : Fits scope builder ref) :
    builder.InRange ref := by
  cases ref with
  | decl id =>
    show id.index < builder.decls.length
    rw [h.decls_length]
    exact hr
  | type id => exact hr
  | expr id => exact hr

theorem Ready.firstFault (h : Ready scope builder) : builder.firstFault = none := by
  rw [Builder.firstFault_eq_none_iff]
  intro owner ref hs
  apply h.inRange
  cases hs with
  | decl hi hm => exact h.declsFit _ (List.mem_of_getElem? hi) ref (Decl.mem_refs_iff.mpr hm)
  | base hi hm =>
    exact h.basesFit _ (List.mem_of_getElem? hi) ref (BaseSpecifier.mem_refs_iff.mpr hm)
  | expr hi hm => exact h.exprsFit _ (List.mem_of_getElem? hi) ref (Expr.mem_refs_iff.mpr hm)

theorem toBuilder_yields (manifest : Manifest) :
    Yields manifest.toBuilder (Ready ⟨manifest.entries⟩) := by
  rw [toBuilder_eq_lower, lower]
  cases firstRepeated [] manifest.entries with
  | some id =>
    intro cause h
    cases h
  | none =>
    cases hl : (lowerEntries ⟨manifest.entries⟩ manifest.entries
        (.empty manifest.unitName)).2 with
    | error fault =>
      have hy : Yields (lowerEntries ⟨manifest.entries⟩ manifest.entries
          (.empty manifest.unitName)).2 _ := lowerEntries_yields manifest.entries _
      rw [hl] at hy
      simp only [hl]
      exact hy
    | ok lowered =>
      have hready := ready_of_lowerEntries hl
      simp only [hl]
      exact (lowerAllBases_yields manifest.entries 0 (by simp) hready).map fun _ h =>
        h.markPatterns fun link hm => hready.decls_length ▸ patterns_lt hm

theorem toBuilder_ne_rejected (manifest : Manifest) (cause : UnitError) :
    manifest.toBuilder ≠ .error (.rejected cause) := by
  intro h
  have hy := manifest.toBuilder_yields
  rw [h] at hy
  exact hy cause rfl

theorem add_of_toBuilder {manifest : Manifest} (h : manifest.toBuilder = .ok builder)
    (store : Store) : (store.add builder).1 = .ok store.nextId := by
  have hready := manifest.toBuilder_yields
  rw [h] at hready
  have hbuild : ∃ unit, builder.build store.nextId = .ok unit :=
    Builder.build_eq_ok_iff.mpr hready.firstFault
  obtain ⟨unit, hb⟩ := hbuild
  rcases store.add_cases builder with ⟨fault, hf, _, _⟩ | ⟨_, _, hi, _⟩
  · rw [hb] at hf
    cases hf
  · exact hi

/-- Everything that loading a manifest can do: the registration itself cannot fail. -/
theorem load_cases (manifest : Manifest) (store : Store) :
    (∃ fault, manifest.toBuilder = .error fault ∧ (manifest.load store).result = .error fault ∧
      (manifest.load store).store = store) ∨
    ∃ builder, manifest.toBuilder = .ok builder ∧
      (manifest.load store).result = .ok store.nextId ∧
      (manifest.load store).store = (store.add builder).2 := by
  cases hb : manifest.toBuilder with
  | error fault => exact .inl ⟨fault, rfl, by simp [load, hb], by simp [load, hb]⟩
  | ok builder =>
    rcases hs : store.add builder with ⟨result, after⟩
    obtain rfl : result = .ok store.nextId := by simpa [hs] using add_of_toBuilder hb store
    exact .inr ⟨builder, rfl, by simp [load, hb, hs], by simp [load, hb, hs]⟩

theorem built_of_load {manifest : Manifest} {store : Store} {id : UnitId}
    (h : (manifest.load store).result = .ok id) :
    ∃ builder unit, manifest.toBuilder = .ok builder ∧ builder.build id = .ok unit ∧
      (manifest.load store).store.unit id = .ok unit := by
  rcases manifest.load_cases store with ⟨fault, _, hr, _⟩ | ⟨builder, hb, hr, hs⟩
  · simp [hr] at h
  · obtain rfl : store.nextId = id := by simpa [hr] using h
    obtain ⟨-, ⟨unit, hbuild, hunit, -⟩, -⟩ := Store.add_ok_lookup (add_of_toBuilder hb store)
    exact ⟨builder, unit, hb, hbuild, hs ▸ hunit⟩

/-- Loading a manifest is atomic, and whatever lowers is registered. -/
theorem load_atomic (manifest : Manifest) (store : Store) :
    (∀ builder, manifest.toBuilder = .ok builder → ∃ id, (store.add builder).1 = .ok id) ∧
    (∀ cause, manifest.toBuilder ≠ .error (.rejected cause)) ∧
    (∀ cause, (manifest.load store).result ≠ .error (.rejected cause)) ∧
    (∀ fault, (manifest.load store).result = .error fault → (manifest.load store).store = store) ∧
    ∀ id, (manifest.load store).result = .ok id →
      store.unit id = .error (.staleUnit id) ∧
      (∃ unit, (manifest.load store).store.unit id = .ok unit ∧ unit.id = id ∧
        (manifest.load store).store.units.Perm (unit :: store.units)) ∧
      ∀ other, other ≠ id → (manifest.load store).store.unit other = store.unit other := by
  refine ⟨fun builder h => ⟨_, add_of_toBuilder h store⟩, manifest.toBuilder_ne_rejected, ?_⟩
  rcases manifest.load_cases store with ⟨fault, hb, hr, hs⟩ | ⟨builder, hb, hr, hs⟩
  · refine ⟨?_, fun _ _ => hs, by simp [hr]⟩
    intro cause h
    obtain rfl : fault = .rejected cause := by simpa [hr] using h
    exact manifest.toBuilder_ne_rejected cause hb
  · refine ⟨by simp [hr], by simp [hr], ?_⟩
    intro id h
    obtain rfl : store.nextId = id := by simpa [hr] using h
    obtain ⟨hfresh, ⟨unit, hbuild, hunit, hunits⟩, hothers⟩ :=
      Store.add_ok_lookup (add_of_toBuilder hb store)
    rw [hs]
    exact ⟨hfresh, ⟨unit, hunit, Builder.build_id hbuild, hunits⟩, hothers⟩

/-- A record with a base, and a function template written before its pattern. -/
def shapes : Manifest where
  unitName := "shapes.cpp"
  entries :=
    [⟨"Circle", none, none, none, .record .structKey ⟨[⟨"Shape", none, true⟩], none⟩⟩,
      ⟨"area", none, none, none, .template .ofFunction ⟨"area-pattern", ["T"], none⟩⟩,
      ⟨"area-pattern", some "area", none, none,
        .function .free ⟨some "double", [], none, none, [], []⟩⟩,
      ⟨"T", none, some "area", none, .typeParm ⟨0, 0, false⟩⟩]

theorem load_shapes_beside :
    (shapes.load (Store.empty.add { name := "main.cpp" }).2).result = .ok ⟨1, 0⟩ ∧
    (shapes.load (Store.empty.add { name := "main.cpp" }).2).store.unit ⟨0, 0⟩ =
      (Store.empty.add { name := "main.cpp" }).2.unit ⟨0, 0⟩ := by
  obtain ⟨_, _, _, _, hok⟩ := load_atomic shapes (Store.empty.add { name := "main.cpp" }).2
  have hid : (shapes.load (Store.empty.add { name := "main.cpp" }).2).result.toOption =
      some ⟨1, 0⟩ := by decide +kernel
  cases hr : (shapes.load (Store.empty.add { name := "main.cpp" }).2).result with
  | error fault => simp [hr, Except.toOption] at hid
  | ok id =>
    obtain rfl : id = ⟨1, 0⟩ := by simpa [hr, Except.toOption] using hid
    exact ⟨rfl, (hok _ hr).2.2 _ (by decide)⟩

end CppIntrospect.Manifest
