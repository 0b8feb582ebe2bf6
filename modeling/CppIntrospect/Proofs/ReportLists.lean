import CppIntrospect.Proofs.BaseArena
import CppIntrospect.Proofs.ExpressionLayout
import CppIntrospect.Proofs.TemplateLists

/-! The lists of a report. A report asks for their items one by one, passes over those for which
there is no answer, and writes nothing for a type or an expression that its unit does not have.
None of this happens in the unit of a loaded manifest, so every list is told in full. -/

namespace CppIntrospect

namespace TranslationUnit

mutual

/-- The text of a template argument, if all that it refers to is there. -/
inductive SpellsArgument (unit : TranslationUnit) : TemplateArgument → String → Prop
  | null : SpellsArgument unit .null ""
  | type {id : TypeId} {type : CppType} : unit.type? id = some type →
    SpellsArgument unit (.type id) type.spelling
  | declaration {id : DeclId} {decl : Decl} : unit.decl? id = some decl →
    SpellsArgument unit (.declaration id) ("&" ++ decl.name)
  | integral {value : Int} {type : TypeId} : SpellsArgument unit (.integral value type) value.repr
  | template {id : DeclId} {decl : Decl} : unit.decl? id = some decl →
    SpellsArgument unit (.template id) decl.name
  | templateExpansion {id : DeclId} {decl : Decl} : unit.decl? id = some decl →
    SpellsArgument unit (.templateExpansion id) (decl.name ++ "...")
  | expression {id : ExprId} {expr : Expr} {text : String} : unit.expr? id = some expr →
    unit.Spells id text → SpellsArgument unit (.expression id) text
  | pack {elements : List TemplateArgument} {texts : List String} :
    SpellsArguments unit elements texts →
    SpellsArgument unit (.pack elements) ("<" ++ ", ".intercalate texts ++ ">")

inductive SpellsArguments (unit : TranslationUnit) : List TemplateArgument → List String → Prop
  | nil : SpellsArguments unit [] []
  | cons {arg : TemplateArgument} {args : List TemplateArgument} {text : String}
    {texts : List String} : SpellsArgument unit arg text → SpellsArguments unit args texts →
    SpellsArguments unit (arg :: args) (text :: texts)

end

variable {unit : TranslationUnit}

mutual

theorem spellsArgument_of_argumentText : ∀ {arg : TemplateArgument} {text : String},
    (∀ ref, arg.Mentions ref → unit.Holds ref) → unit.argumentText arg = some text →
      unit.SpellsArgument arg text
  | .null, _, _, h => by
    cases h
    exact .null
  | .type id, _, hheld, h => by
    obtain ⟨type, ht⟩ := hheld _ .type
    cases h
    rw [typeText, ht]
    exact .type ht
  | .declaration id, _, hheld, h => by
    obtain ⟨decl, hd⟩ := hheld _ .declaration
    cases h
    rw [declName, hd]
    exact .declaration hd
  | .integral value type, _, _, h => by
    cases h
    exact .integral
  | .template id, _, hheld, h => by
    obtain ⟨decl, hd⟩ := hheld _ .template
    cases h
    rw [declName, hd]
    exact .template hd
  | .templateExpansion id, _, hheld, h => by
    obtain ⟨decl, hd⟩ := hheld _ .templateExpansion
    cases h
    rw [declName, hd]
    exact .templateExpansion hd
  | .expression id, _, hheld, h => by
    obtain ⟨expr, he⟩ := hheld _ .expression
    exact .expression he (exprText_eq_some_iff.mp h)
  | .pack elements, _, hheld, h => by
    rw [argumentText] at h
    obtain ⟨texts, ht, rfl⟩ := Option.map_eq_some_iff.mp h
    exact .pack (spellsArguments_of_argumentTexts (fun _ ha _ hm => hheld _ (.pack ha hm)) ht)

theorem spellsArguments_of_argumentTexts : ∀ {args : List TemplateArgument} {texts : List String},
    (∀ arg ∈ args, ∀ ref, arg.Mentions ref → unit.Holds ref) →
      unit.argumentTexts args = some texts → unit.SpellsArguments args texts
  | [], _, _, h => by
    cases h
    exact .nil
  | arg :: args, _, hheld, h => by
    obtain ⟨hfirst, hrest⟩ := List.forall_mem_cons.mp hheld
    rw [argumentTexts] at h
    split at h
    · next ht hts =>
      cases h
      exact .cons (spellsArgument_of_argumentText hfirst ht)
        (spellsArguments_of_argumentTexts hrest hts)
    · cases h

end

/-- Nothing is missing where a report looks. -/
structure Complete (unit : TranslationUnit) : Prop where
  references {id : DeclId} {decl : Decl} {ref : Ref} : unit.decl? id = some decl →
    decl.Mentions ref → unit.Holds ref
  bases {id : DeclId} {decl : Decl} {base : BaseId} : unit.decl? id = some decl →
    base ∈ decl.baseIds →
    ∃ spec type, unit.base? base = some spec ∧ unit.type? spec.type = some type
  acyclic : Acyclic unit.exprs

end TranslationUnit

namespace Report

/-- The list of a report is there exactly if a list is stored, and tells of all its items. -/
structure TellsList {α β : Type} (stored : List α → Prop) (tells : α → β → Prop)
    (shown : Option (List β)) : Prop where
  absent_iff : shown = none ↔ ∀ items, ¬ stored items
  entries : ∀ items, stored items → ∃ told, shown = some told ∧ List.Forall₂ tells items told

theorem TellsList.of_map {α β : Type} {stored : List α → Prop} {tells : α → β → Prop}
    {items? : Option (List α)} {f : List α → List β}
    (hs : ∀ items, items? = some items ↔ stored items)
    (ht : ∀ items, stored items → List.Forall₂ tells items (f items)) :
    TellsList stored tells (items?.map f) where
  absent_iff := by
    rw [Option.map_eq_none_iff, Option.eq_none_iff_forall_ne_some]
    exact forall_congr' fun items => not_congr (hs items)
  entries items h := ⟨f items, by rw [(hs items).mpr h, Option.map_some], ht items h⟩

theorem forall₂_filterMap {α β : Type} {tells : α → β → Prop} {f : α → Option β} {xs : List α}
    (h : ∀ x ∈ xs, ∃ y, f x = some y ∧ tells x y) : List.Forall₂ tells xs (xs.filterMap f) := by
  induction xs with
  | nil => exact .nil
  | cons x xs ih =>
    obtain ⟨⟨y, hy, ht⟩, hrest⟩ := List.forall_mem_cons.mp h
    rw [List.filterMap_cons_some hy]
    exact .cons ht (ih hrest)

/-- The report on a declaration leaves nothing out of its lists. -/
structure DeclReport.Covers (told : DeclReport) (unit : TranslationUnit) (id : DeclId)
    (decl : Decl) : Prop where
  id : told.id = id.label
  name : told.name = decl.name
  parameters : TellsList decl.StoresParameters
    (fun param label => ∃ target, unit.decl? param = some target ∧ label = target.label)
    told.parameters
  arguments : TellsList decl.StoresArguments
    (fun arg entry => entry.kind = arg.kind.spelling ∧ unit.SpellsArgument arg entry.spelling)
    told.arguments
  bases : List.Forall₂ (fun base entry => ∃ spec type, unit.base? base = some spec ∧
      unit.type? spec.type = some type ∧
      entry = ⟨type.spelling, spec.access.spelling, spec.isVirtual⟩)
    decl.baseIds told.bases

end Report

namespace TranslationUnit.Complete

open Report

variable {unit : TranslationUnit} {id : DeclId} {decl : Decl} (h : unit.Complete)
  (hd : unit.decl? id = some decl)
include h

theorem exists_argumentText (arg : TemplateArgument) :
    ∃ text, unit.argumentText arg = some text :=
  (exists_argumentText_iff arg).mpr fun expr _ => grounded_iff_acyclic.mpr h.acyclic expr

theorem textsEnd (decl : Decl) : unit.TextsEnd decl := by
  intro arg _ hnone
  obtain ⟨text, ht⟩ := h.exists_argumentText arg
  cases hnone.symm.trans ht

include hd

theorem exists_label {params : List DeclId} (hs : decl.StoresParameters params) {param : DeclId}
    (hp : param ∈ params) :
    ∃ label, unit.label? param = some label ∧
      ∃ target, unit.decl? param = some target ∧ label = target.label := by
  obtain ⟨target, ht⟩ := h.references hd (hs.mentions hp)
  exact ⟨target.label, by rw [label?, ht, Option.map_some], target, ht, rfl⟩

theorem spellsArgument {args : List TemplateArgument} (hs : decl.StoresArguments args)
    {arg : TemplateArgument} (ha : arg ∈ args) :
    unit.SpellsArgument arg (unit.argumentReport arg).spelling := by
  obtain ⟨text, ht⟩ := h.exists_argumentText arg
  rw [argumentReport, ht, Option.getD_some]
  exact spellsArgument_of_argumentText (fun ref hm => h.references hd (hs.mentions ha hm)) ht

theorem covers_declReport : (unit.declReport id decl).Covers unit id decl where
  id := rfl
  name := rfl
  parameters := .of_map (fun _ => Decl.params?_eq_some_iff) fun _ hs =>
    forall₂_filterMap fun _ hp => h.exists_label hd hs hp
  arguments := .of_map (fun _ => Decl.args?_eq_some_iff) fun _ hs => by
    rw [List.forall₂_map_right_iff, List.forall₂_same]
    exact fun arg ha => ⟨rfl, h.spellsArgument hd hs ha⟩
  bases := by
    rw [declReport, basesOf_eq hd, List.forall₂_map_right_iff, List.forall₂_same]
    intro base hb
    obtain ⟨spec, type, hs, ht⟩ := h.bases hd hb
    refine ⟨spec, type, hs, ht, ?_⟩
    simp only [baseReport, hs, typeText, ht]

end TranslationUnit.Complete

namespace Manifest

theorem complete_of_load {manifest : Manifest} {store : Store} {id : UnitId}
    (h : (manifest.load store).result = .ok id) :
    ∃ unit, unit.id = id ∧ (manifest.load store).store.unit id = .ok unit ∧ unit.Complete := by
  -- The check of the references does not look at the lists of base specifiers, nor for operands
  -- that lead back to themselves: these two come from the way in which the manifest was lowered.
  obtain ⟨_, unit, hp, hid, hunit, hall⟩ := laysAll_of_load h
  obtain ⟨builder, built, -, hbuild, hbuilt⟩ := built_of_load h
  obtain rfl : built = unit := Except.ok.inj (hbuilt.symm.trans hunit)
  obtain ⟨hdecls, hbases, -⟩ := Builder.build_fields hbuild
  refine ⟨built, hid, hunit, ?_, ?_, hall.operandsFirst.acyclic⟩
  · intro owner decl ref hd hm
    have hdecl : builder.decls[owner.index]? = some decl := hdecls ▸ hd
    exact Builder.build_stores hbuild (.decl hdecl hm)
  · intro owner decl base hd hb
    obtain ⟨entry, he, -⟩ := hp.exists_entry hd
    rw [← TranslationUnit.basesOf_eq hd] at hb
    obtain ⟨spec, hs, -⟩ := Option.map_eq_some_iff.mp (hp.owner_of_mem_basesOf he hb)
    have hspec : builder.bases[base.index]? = some spec := hbases ▸ hs
    obtain ⟨type, ht⟩ := Builder.build_stores hbuild (.base hspec .type)
    exact ⟨spec, type, hs, ht⟩

/-- A loaded unit can be reported on whatever the restriction, and without one the report tells of
every declaration, in the order of their ids, with every item of its lists. -/
theorem reports_tell_all (manifest : Manifest) (store : Store) (id : UnitId)
    (h : (manifest.load store).result = .ok id) :
    let after := (manifest.load store).store
    (∀ only, ∃ report, Report.ofUnit after id only = .ok report) ∧
      ∃ unit report, after.unit id = .ok unit ∧ Report.ofUnit after id none = .ok report ∧
        report.decls.length = unit.decls.length ∧
        ∀ i decl, unit.decl? ⟨i⟩ = some decl →
          ∃ told, report.decls[i]? = some told ∧ told.Covers unit ⟨i⟩ decl := by
  intro after
  obtain ⟨unit, rfl, hunit, hc⟩ := complete_of_load h
  have hlive : after.resolve unit.id = .ok unit := Store.resolve_eq_ok_iff.mpr hunit
  refine ⟨fun only => ⟨_, Report.ofUnit_restricted hlive fun decl _ _ => hc.textsEnd decl⟩, unit,
    unit.report, hunit, Report.ofUnit_live hlive fun decl _ => hc.textsEnd decl,
    by simp [TranslationUnit.report], fun i decl hd => ?_⟩
  have hi : unit.decls[i]? = some decl := hd
  exact ⟨_, by simp [TranslationUnit.report, hi], hc.covers_declReport hd⟩

/-- A partial specialization with all three lists, and a pack and an expression among its
arguments. -/
def matrices : Manifest where
  unitName := "matrices.cpp"
  entries :=
    [⟨"T", none, none, none, .typeParm ⟨0, 0, false⟩⟩,
      ⟨"N", none, none, none, .valueParm "int" ⟨0, 1, false⟩⟩,
      ⟨"Matrix-pattern", some "Matrix", none, none, .record .structKey ⟨[], none⟩⟩,
      ⟨"Matrix", none, none, none, .template .ofClass ⟨"Matrix-pattern", ["T", "N"], none⟩⟩,
      ⟨"Matrix<T *>", some "Matrix", none, none, .partialSpecialization
        ⟨.classTag, "Matrix", ["T", "N"],
          [.type "T *", .expression "N + 1" "int", .pack [.integral 3 "int", .null true]],
          [⟨"Base", none, true⟩, ⟨"T", some .pub, false⟩]⟩⟩]

theorem reports_tell_all_matrices :
    (matrices.load .empty).result = .ok ⟨0, 0⟩ ∧
      ∃ report told, Report.ofUnit (matrices.load .empty).store ⟨0, 0⟩ none = .ok report ∧
        report.decls[4]? = some told ∧ told.parameters.map List.length = some 2 ∧
        told.arguments.map List.length = some 3 ∧ told.bases.length = 2 := by
  have hload : (matrices.load .empty).result = .ok ⟨0, 0⟩ := eq_ok_of_toOption (by decide +kernel)
  obtain ⟨-, unit, report, hunit, hreport, -, hdecls⟩ :=
    reports_tell_all matrices .empty ⟨0, 0⟩ hload
  have hlists : ((matrices.load .empty).store.unit ⟨0, 0⟩).toOption.map (fun unit =>
      (unit.decl? ⟨4⟩).map fun decl =>
        (decl.params?.map List.length, decl.args?.map List.length, decl.baseIds.length)) =
      some (some (some 2, some 3, 2)) := by decide +kernel
  rw [hunit] at hlists
  obtain ⟨decl, hd, hlists⟩ := Option.map_eq_some_iff.mp (Option.some.inj hlists)
  obtain ⟨hparams, hargs, hbases⟩ : _ ∧ _ ∧ _ := by simpa using hlists
  obtain ⟨params, hp, hplen⟩ := hparams
  obtain ⟨args, ha, halen⟩ := hargs
  obtain ⟨told, htold, hcovers⟩ := hdecls 4 decl hd
  obtain ⟨labels, hl, hlabels⟩ := hcovers.parameters.entries _ (Decl.params?_eq_some_iff.mp hp)
  obtain ⟨entries, he, hentries⟩ := hcovers.arguments.entries _ (Decl.args?_eq_some_iff.mp ha)
  refine ⟨hload, report, told, hreport, htold, ?_, ?_, hcovers.bases.length_eq ▸ hbases⟩
  · rw [hl, Option.map_some, ← hlabels.length_eq, hplen]
  · rw [he, Option.map_some, ← hentries.length_eq, halen]

end Manifest

end CppIntrospect
