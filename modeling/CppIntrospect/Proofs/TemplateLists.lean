import CppIntrospect.Proofs.AccessorGate
import CppIntrospect.Proofs.CursorSession
import CppIntrospect.Proofs.ReferenceCheck
import CppIntrospect.Proofs.UnitReport

/-! The template arguments and parameters that a declaration stores, and what a cursor shows of
them. The class of a declaration, the kind of its cursor and its lists are told apart in three
places that have to agree; and no parameter is lost on the way to its cursor, since the
references of a registered unit have been checked. -/

namespace CppIntrospect

inductive Decl.StoresArguments (decl : Decl) (args : List TemplateArgument) : Prop
  | full {record : RecordDecl} {origin : SpecializedFrom} : decl.kind = .record record →
    record.specialization = some (.full origin args) → StoresArguments decl args
  | ofPattern {record : RecordDecl} {template : DeclId} {params : List DeclId} :
    decl.kind = .record record → record.specialization = some (.ofPattern template params args) →
    StoresArguments decl args
  | member {function : FunctionDecl} {origin : DeclId} : decl.kind = .function function →
    function.templating = .member origin args → StoresArguments decl args
  | specialization {function : FunctionDecl} {primary : DeclId} :
    decl.kind = .function function → function.templating = .specialization primary args →
    StoresArguments decl args
  | dependent {function : FunctionDecl} {candidates : List DeclId} :
    decl.kind = .function function → function.templating = .dependent candidates args →
    StoresArguments decl args

inductive Decl.StoresParameters (decl : Decl) (params : List DeclId) : Prop
  | template {template : TemplateDecl} : decl.kind = .template template →
    template.params = params → StoresParameters decl params
  | ofPattern {record : RecordDecl} {template : DeclId} {args : List TemplateArgument} :
    decl.kind = .record record → record.specialization = some (.ofPattern template params args) →
    StoresParameters decl params

namespace Decl

variable {decl : Decl} {args : List TemplateArgument} {params : List DeclId}

theorem args?_eq_some_iff : decl.args? = some args ↔ decl.StoresArguments args := by
  constructor
  · intro h
    unfold args? at h
    split at h
    · next record hk =>
      unfold RecordDecl.args? at h
      split at h <;> cases h
      · next hs => exact .full hk hs
      · next hs => exact .ofPattern hk hs
    · next function hk =>
      unfold FunctionDecl.args? at h
      split at h <;> cases h
      · next ht => exact .member hk ht
      · next ht => exact .specialization hk ht
      · next ht => exact .dependent hk ht
    · cases h
  · rintro (⟨hk, hs⟩ | ⟨hk, hs⟩ | ⟨hk, ht⟩ | ⟨hk, ht⟩ | ⟨hk, ht⟩)
    · simp only [args?, hk, RecordDecl.args?, hs]
    · simp only [args?, hk, RecordDecl.args?, hs]
    · simp only [args?, hk, FunctionDecl.args?, ht]
    · simp only [args?, hk, FunctionDecl.args?, ht]
    · simp only [args?, hk, FunctionDecl.args?, ht]

theorem params?_eq_some_iff : decl.params? = some params ↔ decl.StoresParameters params := by
  constructor
  · intro h
    unfold params? at h
    split at h
    · next template hk => exact .template hk (Option.some.inj h)
    · next record hk =>
      unfold RecordDecl.params? at h
      split at h <;> cases h
      next hs => exact .ofPattern hk hs
    · cases h
  · rintro (⟨hk, rfl⟩ | ⟨hk, hs⟩)
    · simp only [params?, hk]
    · simp only [params?, hk, RecordDecl.params?, hs]

theorem hasLists_eq (decl : Decl) :
    (TemplateClass.ofDecl decl).hasArguments = decl.args?.isSome ∧
      (TemplateClass.ofDecl decl).hasParameters = decl.params?.isSome := by
  obtain ⟨name, access, parent, kind⟩ := decl
  cases kind with
  | record record =>
    obtain ⟨tag, bases, origin, specialization⟩ := record
    rcases specialization with _ | ⟨_ | _⟩ <;> exact ⟨rfl, rfl⟩
  | function function =>
    obtain ⟨flavor, returns, params, templating⟩ := function
    cases templating <;> exact ⟨rfl, rfl⟩
  | _ => exact ⟨rfl, rfl⟩

theorem StoresArguments.mentions (h : decl.StoresArguments args) {arg : TemplateArgument}
    {ref : Ref} (ha : arg ∈ args) (hm : arg.Mentions ref) : decl.Mentions ref := by
  apply Decl.Mentions.kind
  cases h with
  | full hk hs => exact hk ▸ .specialization hs (.argument ha hm)
  | ofPattern hk hs => exact hk ▸ .specialization hs (.patternArgument ha hm)
  | member hk ht => exact hk ▸ .templating (ht ▸ .memberArgument ha hm)
  | specialization hk ht => exact hk ▸ .templating (ht ▸ .primaryArgument ha hm)
  | dependent hk ht => exact hk ▸ .templating (ht ▸ .candidateArgument ha hm)

theorem StoresParameters.mentions (h : decl.StoresParameters params) {param : DeclId}
    (hp : param ∈ params) : decl.Mentions (.decl param) := by
  apply Decl.Mentions.kind
  cases h with
  | template hk ht =>
    subst ht
    exact hk ▸ .templateParam hp
  | ofPattern hk hs => exact hk ▸ .specialization hs (.param hp)

end Decl

def TranslationUnit.Holds (unit : TranslationUnit) : Ref → Prop
  | .decl id => ∃ decl, unit.decl? id = some decl
  | .type id => ∃ type, unit.type? id = some type
  | .expr id => ∃ expr, unit.expr? id = some expr

theorem Builder.build_holds {builder : Builder} {id : UnitId} {unit : TranslationUnit}
    (hb : builder.build id = .ok unit) {ref : Ref} (hr : builder.InRange ref) :
    unit.Holds ref := by
  obtain ⟨hdecls, _, htypes, hexprs⟩ := build_fields hb
  cases ref with
  | decl id => exact ⟨_, by rw [TranslationUnit.decl?, hdecls, List.getElem?_eq_getElem hr]⟩
  | type id => exact ⟨_, by rw [TranslationUnit.type?, htypes, List.getElem?_eq_getElem hr]⟩
  | expr id => exact ⟨_, by rw [TranslationUnit.expr?, hexprs, List.getElem?_eq_getElem hr]⟩

/-- Whatever the nodes of a registered unit refer to is there. -/
theorem Builder.build_stores {builder : Builder} {id : UnitId} {unit : TranslationUnit}
    (hb : builder.build id = .ok unit) {owner : Owner} {ref : Ref}
    (hs : builder.Stores owner ref) : unit.Holds ref :=
  build_holds hb (firstFault_eq_none_iff.mp (build_eq_ok_iff.mp ⟨unit, hb⟩) owner ref hs)

theorem StoreRun.Tracks.holds {run : StoreRun} (h : run.Tracks) {id : UnitId}
    {unit : TranslationUnit} (hu : run.store.unit id = .ok unit) {owner : DeclId} {decl : Decl}
    (hd : unit.decl? owner = some decl) {ref : Ref} (hm : decl.Mentions ref) : unit.Holds ref := by
  obtain ⟨stored, builder, _, hb⟩ := h.issued_of_unit hu
  have hdecl : builder.decls[owner.index]? = some decl := (Builder.build_fields hb).1 ▸ hd
  exact Builder.build_stores hb (.decl hdecl hm)

namespace Cursor

/-- A class flag, a count and a lookup tell of one list, if there is one. -/
structure ShowsList {α : Type} (stored : List α → Prop) (shown : Nat → α → Cursor → Prop)
    (flag : Bool) (count : Except CursorError (Option Nat))
    (item : Nat → Except CursorError (Option Cursor)) (overrun : Nat → Nat → CursorError) :
    Prop where
  flag_iff : flag = true ↔ ∃ n, count = .ok (some n)
  counted : ∃ answer, count = .ok answer ∧
    ∀ n, answer = some n ↔ ∃ items, stored items ∧ items.length = n
  within : ∀ items i x, stored items → items[i]? = some x →
    ∃ cursor, item i = .ok (some cursor) ∧ shown i x cursor
  beyond : ∀ n i, count = .ok (some n) → n ≤ i → item i = .error (overrun i n)
  absent : count = .ok none → ∀ i, item i = .ok none

theorem ShowsList.ofEntry {α : Type} {stored : List α → Prop} {shown : Nat → α → Cursor → Prop}
    {items? : Option (List α)} {found : Nat → α → Option Cursor}
    {overrun : Nat → Nat → CursorError} {item : Nat → Except CursorError (Option Cursor)}
    (hs : ∀ items, items? = some items ↔ stored items)
    (hitem : ∀ i, item i = Accessor.entry items? i (found i) (overrun i))
    (hshown : ∀ items i x, stored items → items[i]? = some x →
      ∃ cursor, found i x = some cursor ∧ shown i x cursor) :
    ShowsList stored shown items?.isSome (.ok (items?.map List.length)) item overrun where
  flag_iff := by cases items? <;> simp
  counted := by
    refine ⟨_, rfl, fun n => ?_⟩
    rw [Option.map_eq_some_iff]
    simp only [hs]
  within items i x hst hx := by
    obtain ⟨cursor, hf, hc⟩ := hshown items i x hst hx
    refine ⟨cursor, ?_, hc⟩
    rw [hitem, (hs items).mpr hst]
    simp only [Accessor.entry, hx, hf]
  beyond n i hn hi := by
    rw [hitem, Accessor.entry_eq_error_iff]
    exact ⟨n, Except.ok.inj hn, hi, rfl⟩
  absent hn i := by
    have hnone : items? = none := by simpa using hn
    rw [hitem, hnone, Accessor.entry]

section Live

variable {store : Store} {unit : TranslationUnit} {id : DeclId} {decl : Decl}
  (hlive : store.resolve unit.id = .ok unit) (hd : unit.decl? id = some decl)
include hlive hd

theorem classify_ofDecl :
    classify (.decl (.ofDecl decl) unit.id id) store = .ok (.ofDecl decl) := by
  simp [classify, hlive, hd, Except.map]

theorem showsList_arguments :
    ShowsList decl.StoresArguments
      (fun i arg shown => shown = .argument unit.id id i arg.kind ∧
        shown.semanticParent store = .ok (some (.decl (.ofDecl decl) unit.id id)))
      (TemplateClass.ofDecl decl).hasArguments
      (numTemplateArguments (.decl (.ofDecl decl) unit.id id) store)
      (templateArgument (.decl (.ofDecl decl) unit.id id) store) .argumentOutOfRange := by
  rw [decl.hasLists_eq.1, Report.numTemplateArguments_ofDecl hlive hd]
  have hitem : ∀ i, templateArgument (.decl (.ofDecl decl) unit.id id) store i =
      Accessor.entry decl.args? i (fun arg => some (.argument unit.id id i arg.kind))
        (.argumentOutOfRange i) := by
    intro i
    rw [Accessor.templateArgument_eq_entry (CursorKind.isDeclaration_ofDecl decl), hlive,
      Except.bind, hd, Option.bind_some]
  refine .ofEntry (fun _ => Decl.args?_eq_some_iff) hitem fun _ i arg _ _ => ⟨_, rfl, rfl, ?_⟩
  simp [semanticParent, hlive, Except.map, ofDecl?, hd]

theorem showsList_parameters (hheld : ∀ ref, decl.Mentions ref → unit.Holds ref) :
    ShowsList decl.StoresParameters
      (fun _ param shown =>
        ∃ target, unit.decl? param = some target ∧ shown = .decl (.ofDecl target) unit.id param)
      (TemplateClass.ofDecl decl).hasParameters
      (numTemplateParameters (.decl (.ofDecl decl) unit.id id) store)
      (templateParameter (.decl (.ofDecl decl) unit.id id) store) .parameterOutOfRange := by
  have hkind := Report.ownsParameters_ofDecl decl
  have hcount : numTemplateParameters (.decl (.ofDecl decl) unit.id id) store =
      .ok (decl.params?.map List.length) := by
    cases hp : decl.params? <;>
      simp [numTemplateParameters, hkind, hp, hlive, hd, Except.map]
  rw [decl.hasLists_eq.2, hcount]
  have hitem : ∀ i, templateParameter (.decl (.ofDecl decl) unit.id id) store i =
      Accessor.entry decl.params? i (ofDecl? unit) (.parameterOutOfRange i) := by
    intro i
    by_cases ho : (CursorKind.ofDecl decl).ownsParameters = true
    · rw [Accessor.templateParameter_eq_entry ho, hlive, Except.bind, hd, Option.bind_some]
    · have hnone : decl.params? = none := by simpa [hkind] using ho
      rw [templateParameter, if_neg ho, hnone, Accessor.entry]
  refine .ofEntry (fun _ => Decl.params?_eq_some_iff) hitem fun params i param hs hi => ?_
  obtain ⟨target, ht⟩ := hheld _ (hs.mentions (List.mem_of_getElem? hi))
  exact ⟨_, by rw [ofDecl?, ht, Option.map_some], target, ht, rfl⟩

end Live

theorem WellFormed.eq_decl {cursor : Cursor} {unit : TranslationUnit} {id : UnitId}
    {owner : DeclId} (hc : cursor.unit? = some id) (hd : cursor.decl? = some owner)
    (hw : cursor.WellFormed unit) :
    ∃ decl, unit.decl? owner = some decl ∧ cursor = .decl (.ofDecl decl) id owner := by
  cases cursor with
  | decl kind unitId declId =>
    obtain rfl := Option.some.inj hc
    obtain rfl := Option.some.inj hd
    obtain ⟨decl, hdecl, rfl⟩ := hw
    exact ⟨decl, hdecl, rfl⟩
  | _ => cases hd

end Cursor

namespace StoreRun

/-- Whatever a store has been through, a cursor to a declaration of a live unit shows the
template arguments and the template parameters that the declaration stores, and no others. -/
theorem template_lists_shown (calls : List StoreCall) {id : UnitId} {unit : TranslationUnit}
    {cursor : Cursor} {owner : DeclId} (hu : (of calls).store.unit id = .ok unit)
    (hc : cursor.unit? = some id) (ho : cursor.decl? = some owner)
    (hw : cursor.WellFormed unit) :
    let store := (of calls).store
    ∃ decl templateClass, unit.decl? owner = some decl ∧
      cursor.classify store = .ok templateClass ∧
      Cursor.ShowsList decl.StoresArguments
        (fun i arg shown => shown = .argument id owner i arg.kind ∧
          shown.semanticParent store = .ok (some cursor))
        templateClass.hasArguments (cursor.numTemplateArguments store)
        (cursor.templateArgument store) .argumentOutOfRange ∧
      Cursor.ShowsList decl.StoresParameters
        (fun _ param shown =>
          ∃ target, unit.decl? param = some target ∧ shown = .decl (.ofDecl target) id param)
        templateClass.hasParameters (cursor.numTemplateParameters store)
        (cursor.templateParameter store) .parameterOutOfRange := by
  intro store
  have htracks := tracks_of calls
  obtain ⟨decl, hd, rfl⟩ := Cursor.WellFormed.eq_decl hc ho hw
  obtain rfl := htracks.id_of_unit hu
  have hlive : store.resolve unit.id = .ok unit := Store.resolve_eq_ok_iff.mpr hu
  exact ⟨decl, .ofDecl decl, hd, Cursor.classify_ofDecl hlive hd,
    Cursor.showsList_arguments hlive hd,
    Cursor.showsList_parameters hlive hd fun _ => htracks.holds hu hd⟩

/-- A partial specialization in a slot that was used before: both of its lists, and the first
place after each. -/
theorem template_lists_shown_partial :
    let link : ClassSpecialization := .ofPattern ⟨1⟩ [⟨0⟩] [.null, .pack [.type ⟨0⟩]]
    let box : Decl :=
      { name := "Box", kind := .record { tag := .structTag, specialization := some link } }
    let builder : Builder :=
      { name := "a.cpp"
        decls := [{ name := "T", kind := .typeParm {} },
          { name := "Box",
            kind := .template { flavor := .ofClass, templated := ⟨1⟩, params := [⟨0⟩] } }, box]
        types := [.builtin .bool] }
    let store := (of [.add builder, .dispose ⟨0, 0⟩, .add builder]).store
    let cursor : Cursor := .decl .classTemplatePartialSpecialization ⟨0, 1⟩ ⟨2⟩
    let shown : Cursor := .argument ⟨0, 1⟩ ⟨2⟩ 1 .pack
    (∃ unit, store.unit ⟨0, 1⟩ = .ok unit ∧ cursor.WellFormed unit) ∧
      cursor.numTemplateArguments store = .ok (some 2) ∧
      cursor.templateArgument store 1 = .ok (some shown) ∧
      shown.semanticParent store = .ok (some cursor) ∧
      cursor.templateArgument store 2 = .error (.argumentOutOfRange 2 2) ∧
      cursor.numTemplateParameters store = .ok (some 1) ∧
      cursor.templateParameter store 0 =
        .ok (some (.decl .templateTypeParameter ⟨0, 1⟩ ⟨0⟩)) ∧
      cursor.templateParameter store 1 = .error (.parameterOutOfRange 1 1) := by
  intro link box builder store cursor shown
  let unit : TranslationUnit :=
    ⟨⟨0, 1⟩, "a.cpp", builder.decls, [], builder.types, [], .enter [] 0 builder.decls⟩
  have hu : store.unit ⟨0, 1⟩ = .ok unit := by decide +kernel
  have hw : cursor.WellFormed unit := ⟨_, rfl, rfl⟩
  obtain ⟨decl, _, hd, _, hargs, hparams⟩ := template_lists_shown _ hu rfl rfl hw
  obtain rfl : box = decl := Option.some.inj hd
  have hsa : box.StoresArguments [.null, .pack [.type ⟨0⟩]] := .ofPattern rfl rfl
  have hsp : box.StoresParameters [⟨0⟩] := .ofPattern rfl rfl
  obtain ⟨_, hn, hcount⟩ := hargs.counted
  obtain rfl := (hcount 2).mpr ⟨_, hsa, rfl⟩
  obtain ⟨_, hm, hcount'⟩ := hparams.counted
  obtain rfl := (hcount' 1).mpr ⟨_, hsp, rfl⟩
  obtain ⟨_, harg, rfl, hparent⟩ := hargs.within _ 1 _ hsa rfl
  obtain ⟨_, hparam, target, ht, rfl⟩ := hparams.within _ 0 _ hsp rfl
  obtain rfl := Option.some.inj ht
  exact ⟨⟨unit, hu, hw⟩, hn, harg, hparent, hargs.beyond _ _ hn (Nat.le_refl 2), hm, hparam,
    hparams.beyond _ _ hm (Nat.le_refl 1)⟩

end StoreRun

end CppIntrospect
