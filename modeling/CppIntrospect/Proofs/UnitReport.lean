import CppIntrospect.Report.Basic

/-! The report on a live unit, read off its nodes. While the unit is alive only one question of a
report can fail, the text of a template argument, and it fails if the text never ends. Where all
texts end, the report is a function of the unit alone. -/

namespace CppIntrospect

open Report

/-- A declaration as other reports mention it. -/
def Decl.label (decl : Decl) : String :=
  decl.name ++ " (" ++ (CursorKind.ofDecl decl).spelling ++ ")"

/-- Some kinds of declaration never tell their access. -/
def Decl.shownAccess (decl : Decl) : Access :=
  if (CursorKind.ofDecl decl).carriesAccess then decl.access else .unspecified

namespace TranslationUnit

def label? (unit : TranslationUnit) (id : DeclId) : Option String := (unit.decl? id).map Decl.label

/-- What a template declares. Templates of aliases do not tell. -/
def produces (unit : TranslationUnit) (id : DeclId) (decl : Decl) : CursorKind :=
  match CursorKind.ofDecl decl with
  | .classTemplate => unit.templatedKind id
  | .functionTemplate => unit.templatedKind id
  | .classTemplatePartialSpecialization => unit.specializedKind id
  | _ => .noDeclFound

def argumentReport (unit : TranslationUnit) (arg : TemplateArgument) : ArgumentReport :=
  ⟨arg.kind.spelling, (unit.argumentText arg).getD ""⟩

/-- The texts of all template arguments of a declaration end. -/
def TextsEnd (unit : TranslationUnit) (decl : Decl) : Prop :=
  ∀ arg ∈ decl.args?.getD [], unit.argumentText arg ≠ none

def baseReport (unit : TranslationUnit) (id : BaseId) : BaseReport :=
  match unit.base? id with
  | some base => ⟨unit.typeText base.type, base.access.spelling, base.isVirtual⟩
  | none => ⟨"", Access.unspecified.spelling, false⟩

def declReport (unit : TranslationUnit) (id : DeclId) (decl : Decl) : DeclReport where
  id := id.label
  name := decl.name
  kind := (CursorKind.ofDecl decl).spelling
  parent := decl.parent.bind unit.label?
  access := if decl.shownAccess = .unspecified then none else some decl.shownAccess.spelling
  templateClass := templateClassName (.ofDecl decl)
  specializedFrom := decl.origin.bind unit.label?
  produces :=
    if unit.produces id decl = .noDeclFound then none else some (unit.produces id decl).spelling
  parameters := decl.params?.map (·.filterMap unit.label?)
  arguments := decl.args?.map (·.map unit.argumentReport)
  bases := (unit.basesOf id).map unit.baseReport

def report (unit : TranslationUnit) : Report where
  unit := unit.name
  decls := unit.decls.zipIdx.map fun (decl, i) => unit.declReport ⟨i⟩ decl

end TranslationUnit

namespace Report

theorem ok_bind {α β : Type} (a : α) (f : α → Except CursorError β) : (.ok a >>= f) = f a := rfl

theorem mapM_eq_ok {α β : Type} {f : α → Except CursorError β} {g : α → β} {xs : List α}
    (h : ∀ x ∈ xs, f x = .ok (g x)) : xs.mapM f = .ok (xs.map g) := by
  induction xs with
  | nil => rfl
  | cons x xs ih =>
    rw [List.mapM_cons, h x (by simp), ih fun y hy => h y (by simp [hy])]
    rfl

/-- If only one fault occurs, it does not matter where. -/
theorem mapM_eq_error {α β : Type} {f : α → Except CursorError β} {fault : CursorError}
    {xs : List α} (h : ∀ x ∈ xs, f x = .error fault ∨ ∃ y, f x = .ok y)
    (hx : ∃ x ∈ xs, f x = .error fault) : xs.mapM f = .error fault := by
  induction xs with
  | nil => simp at hx
  | cons x xs ih =>
    rw [List.mapM_cons]
    rcases h x (by simp) with hfirst | ⟨y, hfirst⟩
    · rw [hfirst]
      rfl
    · obtain ⟨z, hz, hfault⟩ := hx
      have hrest : z ∈ xs := by
        rcases List.mem_cons.mp hz with rfl | hz
        · cases hfirst.symm.trans hfault
        · exact hz
      rw [hfirst, ih (fun z hz => h z (by simp [hz])) ⟨z, hrest, hfault⟩]
      rfl

theorem answersAt_eq_mapM {α : Type} (ask : Nat → Except CursorError (Option α))
    (positions : List Nat) :
    answersAt ask positions = (positions.mapM ask).map fun answers => answers.filterMap id := by
  induction positions with
  | nil => rfl
  | cons position positions ih =>
    rw [answersAt, List.mapM_cons, ih]
    cases ask position with
    | error fault => rfl
    | ok answer =>
      cases positions.mapM ask with
      | error fault => rfl
      | ok answers => cases answer <;> rfl

theorem answersAt_range {α β : Type} {ask : Nat → Except CursorError (Option α)}
    {answer : β → Option α} (xs : List β)
    (h : ∀ (i : Nat) (x : β), xs[i]? = some x → ask i = .ok (answer x)) :
    answersAt ask (List.range xs.length) = .ok (xs.filterMap answer) := by
  have hask : ∀ i ∈ List.range xs.length, ask i = .ok (xs[i]?.bind answer) := by
    intro i hi
    have hlt := List.mem_range.mp hi
    rw [List.getElem?_eq_getElem hlt]
    exact h i _ (List.getElem?_eq_getElem hlt)
  have hread : (List.range xs.length).map (fun i => xs[i]?.bind answer) = xs.map answer := by
    apply List.ext_getElem
    · simp
    · intro i hi _
      simp at hi
      simp [hi]
  rw [answersAt_eq_mapM, mapM_eq_ok hask, hread]
  simp [Except.map, List.filterMap_map]

variable {store : Store} {unit : TranslationUnit} {id : DeclId} {decl : Decl}

theorem ownsParameters_ofDecl (decl : Decl) :
    (CursorKind.ofDecl decl).ownsParameters = decl.params?.isSome := by
  obtain ⟨name, access, parent, kind⟩ := decl
  cases kind with
  | record record =>
    obtain ⟨tag, bases, origin, specialization⟩ := record
    cases specialization with
    | none => cases tag <;> rfl
    | some specialization => cases specialization <;> cases tag <;> rfl
  | function function =>
    obtain ⟨flavor, returns, params, templating⟩ := function
    cases flavor <;> rfl
  | template template =>
    obtain ⟨flavor, templated, params, origin⟩ := template
    cases flavor <;> rfl
  | _ => rfl

section Live

variable (hlive : store.resolve unit.id = .ok unit)
include hlive

theorem label?_ofDecl? (id : DeclId) :
    label? store (Cursor.ofDecl? unit id) = .ok (unit.label? id) := by
  cases hd : unit.decl? id with
  | none => simp [Cursor.ofDecl?, TranslationUnit.label?, hd, label?]
  | some decl =>
    simp [Cursor.ofDecl?, TranslationUnit.label?, hd, label?, label, textOf, Cursor.spelling,
      hlive, Except.map, Decl.label, Cursor.kind]

theorem label?_bind (link : Option DeclId) :
    label? store (link.bind (Cursor.ofDecl? unit)) = .ok (link.bind unit.label?) := by
  cases link with
  | none => rfl
  | some id => exact label?_ofDecl? hlive id

theorem parameters_ofDecl (hd : unit.decl? id = some decl) :
    parameters store (.decl (.ofDecl decl) unit.id id) =
      .ok (decl.params?.map (·.filterMap unit.label?)) := by
  have howns := ownsParameters_ofDecl decl
  cases hp : decl.params? with
  | none =>
    rw [hp] at howns
    simp [parameters, Cursor.numTemplateParameters, howns, ok_bind, pure, Except.pure]
  | some params =>
    rw [hp] at howns
    have hcount : Cursor.numTemplateParameters (.decl (.ofDecl decl) unit.id id) store =
        .ok (some params.length) := by
      simp [Cursor.numTemplateParameters, howns, hlive, hd, hp, Except.map]
    have hask := @answersAt_range _ _
      (fun i => (Cursor.templateParameter (.decl (.ofDecl decl) unit.id id) store i).bind
        (label? store)) unit.label? params fun i param hi => by
      simp [Cursor.templateParameter, howns, hlive, hd, hp, hi, Except.bind, label?_ofDecl? hlive]
    simp only [parameters, hcount, ok_bind, hask]
    rfl

theorem numTemplateArguments_ofDecl (hd : unit.decl? id = some decl) :
    Cursor.numTemplateArguments (.decl (.ofDecl decl) unit.id id) store =
      .ok (decl.args?.map List.length) := by
  simp [Cursor.numTemplateArguments, Cursor.kind, CursorKind.isDeclaration_ofDecl, hlive, hd,
    Except.map]

/-- What a report asks of one argument. -/
theorem argument?_at (hd : unit.decl? id = some decl) {args : List TemplateArgument}
    (ha : decl.args? = some args) {i : Nat} {arg : TemplateArgument} (hi : args[i]? = some arg) :
    (Cursor.templateArgument (.decl (.ofDecl decl) unit.id id) store i).bind (argument? store) =
      (Cursor.ended (unit.argumentText arg)).map fun _ => some (unit.argumentReport arg) := by
  have hcursor : Cursor.templateArgument (.decl (.ofDecl decl) unit.id id) store i =
      .ok (some (.argument unit.id id i arg.kind)) := by
    simp [Cursor.templateArgument, Cursor.kind, CursorKind.isDeclaration_ofDecl, hlive, hd, ha, hi,
      Except.bind]
  have htext : Cursor.spelling (.argument unit.id id i arg.kind) store =
      Cursor.ended (unit.argumentText arg) := by
    simp [Cursor.spelling, hlive, Except.bind, TranslationUnit.argument?, hd, ha, hi]
  simp only [hcursor, Except.bind, argument?, argument, textOf, htext,
    TranslationUnit.argumentReport]
  cases unit.argumentText arg <;> rfl

theorem arguments_ofDecl (hd : unit.decl? id = some decl) (hends : unit.TextsEnd decl) :
    arguments store (.decl (.ofDecl decl) unit.id id) =
      .ok (decl.args?.map (·.map unit.argumentReport)) := by
  have hcount := numTemplateArguments_ofDecl hlive hd
  cases ha : decl.args? with
  | none => simp [arguments, hcount, ha, ok_bind, pure, Except.pure]
  | some args =>
    have hask := @answersAt_range _ _
      (fun i => (Cursor.templateArgument (.decl (.ofDecl decl) unit.id id) store i).bind
        (argument? store)) (fun arg => some (unit.argumentReport arg)) args fun i arg hi => by
      have hend := hends arg (by simpa [ha] using List.mem_of_getElem? hi)
      obtain ⟨text, ht⟩ := Option.ne_none_iff_exists'.mp hend
      rw [argument?_at hlive hd ha hi, ht]
      rfl
    rw [List.filterMap_eq_map'] at hask
    simp only [arguments, hcount, ha, Option.map_some, ok_bind, hask]
    rfl

theorem arguments_endless (hd : unit.decl? id = some decl) (hends : ¬ unit.TextsEnd decl) :
    arguments store (.decl (.ofDecl decl) unit.id id) = .error .endlessText := by
  have hcount := numTemplateArguments_ofDecl hlive hd
  cases ha : decl.args? with
  | none => simp [TranslationUnit.TextsEnd, ha] at hends
  | some args =>
    simp only [TranslationUnit.TextsEnd, ha, Option.getD_some, Classical.not_forall,
      Classical.not_not] at hends
    obtain ⟨arg, hm, ht⟩ := hends
    obtain ⟨i, hi⟩ := List.getElem?_of_mem hm
    have hask : answersAt (fun i => (Cursor.templateArgument (.decl (.ofDecl decl) unit.id id)
        store i).bind (argument? store)) (List.range args.length) = .error .endlessText := by
      rw [answersAt_eq_mapM, mapM_eq_error]
      · rfl
      · intro k hk
        have hlt : k < args.length := List.mem_range.mp hk
        rw [argument?_at hlive hd ha (List.getElem?_eq_getElem hlt)]
        cases unit.argumentText args[k] with
        | none => exact .inl rfl
        | some text => exact .inr ⟨_, rfl⟩
      · refine ⟨i, List.mem_range.mpr (List.getElem?_eq_some_iff.mp hi).1, ?_⟩
        rw [argument?_at hlive hd ha hi, ht]
        rfl
    simp only [arguments, hcount, ha, Option.map_some, ok_bind, hask]
    rfl

theorem base_ofBase (id : BaseId) :
    base store (Cursor.ofBase unit id) = .ok (unit.baseReport id) := by
  cases hb : unit.base? id with
  | none =>
    have hnull : Cursor.ofBase unit id = .null := by simp [Cursor.ofBase, Cursor.ofBase?, hb]
    rw [hnull, TranslationUnit.baseReport, hb]
    rfl
  | some spec =>
    have htext : textOf store (.base unit.id id) = .ok (unit.typeText spec.type) := by
      cases ht : unit.type? spec.type <;>
        simp [textOf, Cursor.spelling, hlive, hb, Except.map, TranslationUnit.typeText, ht]
    simp [Cursor.ofBase, Cursor.ofBase?, TranslationUnit.baseReport, hb, base, htext,
      Cursor.accessSpecifier, Cursor.isVirtualBase, hlive, Except.map, ok_bind, pure, Except.pure]

theorem templateCursorKind_ofDecl (id : DeclId) (decl : Decl) :
    Cursor.templateCursorKind (.decl (.ofDecl decl) unit.id id) store =
      .ok (unit.produces id decl) := by
  unfold Cursor.templateCursorKind TranslationUnit.produces
  split <;> simp_all [Except.map]

theorem accessSpecifier_ofDecl (hd : unit.decl? id = some decl) :
    Cursor.accessSpecifier (.decl (.ofDecl decl) unit.id id) store =
      .ok decl.shownAccess := by
  by_cases hc : (CursorKind.ofDecl decl).carriesAccess = true <;>
    simp [Cursor.accessSpecifier, Decl.shownAccess, hc, hlive, hd, Except.map]

theorem bases_ofDecl (kind : CursorKind) (id : DeclId) :
    bases store (.decl kind unit.id id) = .ok ((unit.basesOf id).map unit.baseReport) := by
  have hcursors : Cursor.baseCursors (.decl kind unit.id id) store =
      .ok ((unit.basesOf id).map (Cursor.ofBase unit)) := by
    simp [Cursor.baseCursors, hlive, Except.map]
  rw [bases, hcursors, ok_bind, List.mapM_map]
  exact mapM_eq_ok fun base _ => base_ofBase hlive base

/-- The report on a declaration comes out as soon as its arguments do. -/
theorem ofCursor_eq (hd : unit.decl? id = some decl) :
    ofCursor store (.decl (.ofDecl decl) unit.id id) =
      (arguments store (.decl (.ofDecl decl) unit.id id)).map fun arguments =>
        { unit.declReport id decl with arguments } := by
  have hparent : (Cursor.semanticParent (.decl (.ofDecl decl) unit.id id) store).bind
      (label? store) = .ok (decl.parent.bind unit.label?) := by
    simpa [Cursor.semanticParent, hlive, hd, Except.map, Except.bind] using
      label?_bind hlive decl.parent
  have horigin : (Cursor.specializedTemplate (.decl (.ofDecl decl) unit.id id) store).bind
      (label? store) = .ok (decl.origin.bind unit.label?) := by
    simpa [Cursor.specializedTemplate, Cursor.kind, CursorKind.isDeclaration_ofDecl, hlive, hd,
      Except.map, Except.bind] using label?_bind hlive decl.origin
  have htext : textOf store (.decl (.ofDecl decl) unit.id id) = .ok decl.name := by
    simp [textOf, Cursor.spelling, hlive, hd, Except.map]
  have hclass : Cursor.classify (.decl (.ofDecl decl) unit.id id) store = .ok (.ofDecl decl) := by
    simp [Cursor.classify, hlive, hd, Except.map]
  simp only [ofCursor, hparent, horigin, htext, hclass, accessSpecifier_ofDecl hlive hd,
    templateCursorKind_ofDecl hlive id decl, parameters_ofDecl hlive hd, bases_ofDecl hlive,
    ok_bind]
  cases arguments store (.decl (.ofDecl decl) unit.id id) <;> rfl

theorem ofCursor_ofDecl (hd : unit.decl? id = some decl) (hends : unit.TextsEnd decl) :
    ofCursor store (.decl (.ofDecl decl) unit.id id) = .ok (unit.declReport id decl) := by
  rw [ofCursor_eq hlive hd, arguments_ofDecl hlive hd hends]
  rfl

theorem ofCursor_endless (hd : unit.decl? id = some decl) (hends : ¬ unit.TextsEnd decl) :
    ofCursor store (.decl (.ofDecl decl) unit.id id) = .error .endlessText := by
  rw [ofCursor_eq hlive hd, arguments_endless hlive hd hends]
  rfl

theorem declCursor_bind (hd : unit.decl? id = some decl) :
    (store.declCursor unit.id id).bind (ofCursor store) =
      ofCursor store (.decl (.ofDecl decl) unit.id id) := by
  simp [Store.declCursor, hlive, Cursor.ofDecl, Cursor.ofDecl?, hd, Except.map, Except.bind]

theorem ofUnit_eq_mapM (only : Option String) :
    ofUnit store unit.id only =
      ((unit.decls.zipIdx.filter fun entry => only.all (entry.1.name == ·)).mapM fun entry =>
        (store.declCursor unit.id ⟨entry.2⟩).bind (ofCursor store)).map
          fun decls => ⟨unit.name, decls⟩ := by
  have hids : unit.declIds = unit.decls.zipIdx.map fun (_, i) => ⟨i⟩ := by
    rw [TranslationUnit.declIds, TranslationUnit.declCount, List.range_eq_range',
      ← List.zipIdx_map_snd 0 unit.decls, List.map_map]
    rfl
  have hcovers : ∀ entry ∈ unit.decls.zipIdx,
      covers only unit ⟨entry.2⟩ = only.all (entry.1.name == ·) := by
    rintro ⟨decl, i⟩ hx
    have hd : unit.decl? ⟨i⟩ = some decl := List.mk_mem_zipIdx_iff_getElem?.mp hx
    cases only <;> simp [covers, TranslationUnit.declName, hd]
  simp only [ofUnit, hlive, ok_bind, hids, List.filter_map, List.mapM_map, Function.comp_def]
  rw [List.filter_congr hcovers]
  rfl

theorem ofUnit_restricted {only : Option String}
    (hends : ∀ decl ∈ unit.decls, only.all (decl.name == ·) = true → unit.TextsEnd decl) :
    ofUnit store unit.id only = .ok ⟨unit.name,
      (unit.decls.zipIdx.filter fun (decl, _) => only.all (decl.name == ·)).map
        fun (decl, i) => unit.declReport ⟨i⟩ decl⟩ := by
  rw [ofUnit_eq_mapM hlive, mapM_eq_ok (g := fun entry => unit.declReport ⟨entry.2⟩ entry.1)]
  · rfl
  · rintro ⟨decl, i⟩ hx
    obtain ⟨hm, hcovered⟩ := List.mem_filter.mp hx
    have hd : unit.decl? ⟨i⟩ = some decl := List.mk_mem_zipIdx_iff_getElem?.mp hm
    rw [declCursor_bind hlive hd]
    exact ofCursor_ofDecl hlive hd (hends decl (List.mem_of_getElem? hd) hcovered)

theorem ofUnit_endless {only : Option String} {decl : Decl} (hm : decl ∈ unit.decls)
    (hcovered : only.all (decl.name == ·) = true) (hends : ¬ unit.TextsEnd decl) :
    ofUnit store unit.id only = .error .endlessText := by
  obtain ⟨i, hi⟩ := List.getElem?_of_mem hm
  rw [ofUnit_eq_mapM hlive, mapM_eq_error]
  · rfl
  · rintro ⟨other, k⟩ hx
    have hd : unit.decl? ⟨k⟩ = some other :=
      List.mk_mem_zipIdx_iff_getElem?.mp (List.mem_filter.mp hx).1
    rw [declCursor_bind hlive hd]
    by_cases ho : unit.TextsEnd other
    · exact .inr ⟨_, ofCursor_ofDecl hlive hd ho⟩
    · exact .inl (ofCursor_endless hlive hd ho)
  · refine ⟨(decl, i), List.mem_filter.mpr ⟨List.mk_mem_zipIdx_iff_getElem?.mpr hi, hcovered⟩, ?_⟩
    rw [declCursor_bind hlive hi]
    exact ofCursor_endless hlive hi hends

theorem ofUnit_live (hends : ∀ decl ∈ unit.decls, unit.TextsEnd decl) :
    ofUnit store unit.id none = .ok unit.report := by
  rw [ofUnit_restricted hlive fun decl hm _ => hends decl hm, TranslationUnit.report]
  simp only [Option.all_none]
  rw [List.filter_eq_self.mpr fun _ _ => rfl]

end Live

end Report

end CppIntrospect
