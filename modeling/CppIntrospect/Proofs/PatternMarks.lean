import CppIntrospect.Proofs.ManifestReport

/-! Which functions of a loaded manifest are patterns. The links are collected from the lowered
templates and applied in a pass of their own, after all declarations are there, so a template may
come before its function or after it. The first template that names a function counts, and a
function with a link of its own is never marked. -/

namespace CppIntrospect.Manifest

/-- Whether an entry is a function template of the entry with an id. -/
def EntryKind.isTemplateOf (target : String) : EntryKind → Bool
  | .template .ofFunction entry => entry.templated == target
  | _ => false

/-- The first function template of the entry with an id. -/
def firstTemplate? (manifest : Manifest) (target : String) : Option DeclId :=
  (manifest.entries.findIdx? (·.kind.isTemplateOf target)).map DeclId.mk

def FunctionEntry.Unlinked (entry : FunctionEntry) : Prop :=
  entry.specializes = none ∧ entry.origin = none ∧ entry.candidates = []

/-- How a function takes part in templates, told by its entry and by the templates that name
it. -/
structure TakesPart (manifest : Manifest) (unit : TranslationUnit) (entry : Entry)
    (function : FunctionEntry) (templating : FunctionTemplating) : Prop where
  pattern : ∀ template, templating = .pattern template ↔
    function.Unlinked ∧ manifest.firstTemplate? entry.id = some template
  nonTemplate : templating = .nonTemplate ↔
    function.Unlinked ∧ manifest.firstTemplate? entry.id = none
  specialization : ∀ target, function.specializes = some target → ∃ primary args,
    templating = .specialization primary args ∧
    Scope.Names ⟨manifest.entries⟩ target primary ∧
    MirrorsArgs ⟨manifest.entries⟩ unit.arenas function.args args
  member : ∀ target, function.origin = some target → ∃ origin args,
    templating = .member origin args ∧ Scope.Names ⟨manifest.entries⟩ target origin ∧
    MirrorsArgs ⟨manifest.entries⟩ unit.arenas function.args args
  dependent : function.candidates ≠ [] → ∃ candidates args,
    templating = .dependent candidates args ∧
    List.Forall₂ (Scope.Names ⟨manifest.entries⟩) function.candidates candidates ∧
    MirrorsArgs ⟨manifest.entries⟩ unit.arenas function.args args

/-- Whether a declaration is a function template of another. -/
def templates (target : DeclId) (decl : Decl) : Bool :=
  match decl.kind with
  | .template template => template.flavor == .ofFunction && template.templated == target
  | _ => false

/-- What becomes of a function that a template names. -/
def markedBy : Option DeclId → FunctionTemplating → FunctionTemplating
  | some template, .nonTemplate => .pattern template
  | _, templating => templating

/-- A declaration that no template has marked. -/
def Unmarked (kind : DeclKind) : Prop :=
  ∀ function template, kind = .function function → function.templating ≠ .pattern template

variable {scope : Scope} {manifest : Manifest} {builder : Builder} {unit : TranslationUnit}

theorem pattern?_of_templates {target : DeclId} {decl : Decl} (h : templates target decl)
    (place : DeclId) : pattern? place decl = some (target, place) := by
  obtain ⟨name, access, parent, kind⟩ := decl
  cases kind with
  | template template =>
    obtain ⟨hf, ht⟩ : template.flavor = .ofFunction ∧ template.templated = target := by
      simpa [templates] using h
    simp [pattern?, hf, ht]
  | _ => cases h

theorem templates_of_pattern? {decl : Decl} {place : DeclId} {link : DeclId × DeclId}
    (h : pattern? place decl = some link) : templates link.1 decl := by
  obtain ⟨name, access, parent, kind⟩ := decl
  cases kind with
  | template template =>
    by_cases hf : template.flavor = .ofFunction
    · obtain rfl : (template.templated, place) = link := by simpa [pattern?, hf] using h
      simp [templates, hf]
    · simp [pattern?, hf] at h
  | _ => cases h

/-- The ids of the templates count on from where the list starts. -/
theorem find?_patternsFrom (decls : List Decl) (target : DeclId) (start : Nat) :
    (patternsFrom start decls).find? (·.1 == target) =
      (decls.findIdx? (templates target)).map fun i => (target, ⟨start + i⟩) := by
  induction decls generalizing start with
  | nil => rfl
  | cons decl decls ih =>
    rw [patternsFrom_cons, List.findIdx?_cons]
    by_cases ht : templates target decl
    · rw [pattern?_of_templates ht, if_pos ht]
      simp
    · have hrest : ((decls.findIdx? (templates target)).map (· + 1)).map
          (fun i => (target, DeclId.mk (start + i))) =
            (decls.findIdx? (templates target)).map fun i => (target, ⟨start + 1 + i⟩) := by
        rw [Option.map_map]
        congr 1
        funext i
        simp only [Function.comp, Nat.add_assoc, Nat.add_comm 1]
      rw [if_neg ht, hrest, ← ih]
      cases hl : pattern? ⟨start⟩ decl with
      | none => rfl
      | some link =>
        have hne : link.1 ≠ target := fun he => ht (he ▸ templates_of_pattern? hl)
        simp [hne]

theorem find?_patterns (decls : List Decl) (target : DeclId) :
    (patterns decls).find? (·.1 == target) =
      (decls.findIdx? (templates target)).map fun i => (target, ⟨i⟩) := by
  have h := find?_patternsFrom decls target 0
  simp only [Nat.zero_add] at h
  exact h

/-- Each declaration of the first pass comes from its entry, whatever was lowered before. -/
theorem exists_lowerEntry {entries : List Entry} {builder : Builder} {i : Nat} {decl : Decl}
    (h : (lowerEntries scope entries builder).1[i]? = some decl) :
    ∃ entry before after, entries[i]? = some entry ∧
      lowerEntry scope entry before = .ok (decl, after) := by
  induction entries generalizing builder i with
  | nil => simp [lowerEntries] at h
  | cons entry entries ih =>
    unfold lowerEntries at h
    cases hl : lowerEntry scope entry builder with
    | error fault => simp [hl] at h
    | ok made =>
      rw [hl] at h
      cases i with
      | zero =>
        obtain rfl : made.1 = decl := Option.some.inj h
        exact ⟨entry, builder, made.2, rfl, hl⟩
      | succ i => exact ih h

theorem lowerTemplating_unmarked (owner : String) (entry : FunctionEntry) (builder : Builder) :
    Yields (lowerTemplating scope owner entry builder) fun made =>
      ∀ template, made.1 ≠ .pattern template := by
  have hargs : Yields (lowerArgs scope owner entry.args builder) _ :=
    lowerArgs_yields owner entry.args builder
  unfold lowerTemplating
  split
  · exact nofun
  · exact (resolve_yields owner _).bind fun _ _ => hargs.bind fun _ _ => .pure nofun
  · exact (resolve_yields owner _).bind fun _ _ => hargs.bind fun _ _ => .pure nofun
  · exact (resolveAll_yields owner _).bind fun _ _ => hargs.bind fun _ _ => .pure nofun
  · exact nofun

theorem lowerKind_unmarked (owner : String) (flavor : FunctionFlavor) (entry : FunctionEntry)
    (builder : Builder) :
    Yields (lowerKind scope owner (.function flavor entry) builder) fun made =>
      Unmarked made.1 := by
  have hfunction : Yields (lowerFunction scope owner flavor entry builder) fun made =>
      ∀ template, made.1.templating ≠ .pattern template := by
    refine (lowerType_yields owner _ builder).bind fun typed _ => ?_
    refine (resolveAll_yields owner entry.params).bind fun params _ => ?_
    exact (lowerTemplating_unmarked owner entry typed.2).bind fun _ hl => .pure hl
  refine hfunction.bind fun made hm => .pure fun function template hk => ?_
  obtain rfl : made.1 = function := DeclKind.function.inj hk
  exact hm template

theorem lowerEntry_unmarked {entry : Entry} {flavor : FunctionFlavor} {function : FunctionEntry}
    (hk : entry.kind = .function flavor function) (builder : Builder) :
    Yields (lowerEntry scope entry builder) fun made => Unmarked made.1.kind := by
  unfold lowerEntry
  rw [hk]
  refine (lowerKind_unmarked entry.id flavor function builder).bind fun made hm => ?_
  exact (resolve?_yields entry.id entry.parent).bind fun _ _ => .pure hm

theorem Scope.Names.eq_iff {target other : String} {id found : DeclId}
    (h : scope.Names target id) (h' : scope.Names other found) : id = found ↔ target = other := by
  obtain ⟨entry, he, hid⟩ := h.carries
  constructor
  · rintro rfl
    obtain ⟨same, hs, hid'⟩ := h'.carries
    obtain rfl := Option.some.inj (he.symm.trans hs)
    exact hid.symm.trans hid'
  · rintro rfl
    exact congrArg DeclId.mk (h'.unique id.index entry he hid)

theorem MirrorsKind.templates_eq {entry : EntryKind} {decl : Decl} {target : String}
    {id : DeclId} (h : MirrorsKind scope builder entry decl.kind) (hn : scope.Names target id) :
    templates id decl = entry.isTemplateOf target := by
  unfold templates
  generalize decl.kind = kind at h
  cases h with
  | @template flavor entry templated _ _ ht =>
    cases flavor with
    | ofFunction =>
      have hsame := ht.eq_iff hn
      by_cases he : templated = id
      · simp [EntryKind.isTemplateOf, he, hsame.mp he]
      · have hne : entry.templated ≠ target := fun hs => he (hsame.mpr hs)
        simp [EntryKind.isTemplateOf, he, hne]
    | ofClass | ofAlias => rfl
  | _ => rfl

theorem MirrorsKind.entry_of_function {entry : EntryKind} {kind : DeclKind} {made : FunctionDecl}
    (h : MirrorsKind scope builder entry kind) (hk : kind = .function made) :
    ∃ flavor function, entry = .function flavor function := by
  cases h with
  | function => exact ⟨_, _, rfl⟩
  | _ => cases hk

namespace Presents

variable (h : Presents manifest builder unit)
include h

theorem map_templates {i : Nat} {entry : Entry} (hi : manifest.entries[i]? = some entry) :
    manifest.lower.1.map (templates ⟨i⟩) =
      manifest.entries.map (·.kind.isTemplateOf entry.id) := by
  have hn : Scope.Names ⟨manifest.entries⟩ entry.id ⟨i⟩ := names_of_getElem? h.distinct hi
  apply List.ext_getElem?
  intro j
  rw [List.getElem?_map, List.getElem?_map]
  cases hj : manifest.entries[j]? with
  | some other =>
    obtain ⟨first, hf, hm, -⟩ := h.lowered.decls j other hj
    rw [hf, Option.map_some, Option.map_some, hm.kind.templates_eq hn]
  | none =>
    cases hl : manifest.lower.1[j]? with
    | none => rfl
    | some first =>
      rw [lower_eq_of_distinct h.distinct] at hl
      obtain ⟨other, -, -, he, -⟩ := exists_lowerEntry hl
      rw [hj] at he
      cases he

theorem find?_link {i : Nat} {entry : Entry} (hi : manifest.entries[i]? = some entry) :
    (patterns manifest.lower.1).find? (·.1 == ⟨i⟩) =
      (manifest.firstTemplate? entry.id).map fun template => (⟨i⟩, template) := by
  have hidx : manifest.lower.1.findIdx? (templates ⟨i⟩) =
      manifest.entries.findIdx? (·.kind.isTemplateOf entry.id) := by
    have hmap := congrArg (List.findIdx? id) (h.map_templates hi)
    rwa [List.findIdx?_map, List.findIdx?_map] at hmap
  rw [find?_patterns, hidx, firstTemplate?, Option.map_map]
  rfl

/-- The function that the first pass made, marked by the first template that names it. -/
theorem exists_function {i : Nat} {entry : Entry} {flavor : FunctionFlavor}
    {function : FunctionEntry} (hi : manifest.entries[i]? = some entry)
    (hk : entry.kind = .function flavor function) :
    ∃ (decl : Decl) (first : FunctionDecl), unit.decl? ⟨i⟩ = some decl ∧ first.flavor = flavor ∧
      MirrorsTemplating ⟨manifest.entries⟩ unit.arenas function first.templating ∧
      (∀ template, first.templating ≠ .pattern template) ∧
      decl.kind = .function { first with
        templating := markedBy (manifest.firstTemplate? entry.id) first.templating } := by
  obtain ⟨lowered, hf, hm, -, hd⟩ := h.lowered.decls i entry hi
  have hunmarked : Unmarked lowered.kind := by
    rw [lower_eq_of_distinct h.distinct] at hf
    obtain ⟨other, before, after, ho, hl⟩ := exists_lowerEntry hf
    obtain rfl := Option.some.inj (hi.symm.trans ho)
    have hyields : Yields (lowerEntry (Scope.tables ⟨manifest.entries⟩) entry before) _ :=
      lowerEntry_unmarked hk before
    rwa [hl] at hyields
  have hkind := hm.kind
  rw [hk] at hkind
  obtain ⟨name, access, parent, kind⟩ := lowered
  cases hkind with
  | @function flavor function returns params templating _ _ ht =>
    have hnot : ∀ record, DeclKind.function ⟨flavor, returns, params, templating⟩ ≠
        .record record := nofun
    rw [attach_of_not_record hnot, markFirst, h.find?_link hi] at hd
    have hat : ∀ decl, builder.decls[i]? = some decl → unit.decl? ⟨i⟩ = some decl := by
      intro decl hdecl
      rw [TranslationUnit.decl?, h.decls, hdecl]
    refine ⟨_, ⟨flavor, returns, params, templating⟩, hat _ hd, rfl, h.arenas_eq ▸ ht,
      fun template => hunmarked _ template rfl, ?_⟩
    cases manifest.firstTemplate? entry.id with
    | none => rfl
    | some template => cases templating <;> rfl

end Presents

theorem markedBy_of_ne {templating : FunctionTemplating} (h : templating ≠ .nonTemplate)
    (found : Option DeclId) : markedBy found templating = templating := by
  cases found with
  | none => rfl
  | some template =>
    cases templating with
    | nonTemplate => exact absurd rfl h
    | _ => rfl

theorem takesPart_of_unlinked {entry : Entry} {function : FunctionEntry}
    (h : function.Unlinked) :
    TakesPart manifest unit entry function
      (markedBy (manifest.firstTemplate? entry.id) .nonTemplate) := by
  obtain ⟨hs, ho, hc⟩ := h
  have hlink : function.Unlinked := ⟨hs, ho, hc⟩
  refine ⟨fun template => ?_, ?_, fun target ht => ?_, fun target ht => ?_, absurd hc⟩
  · cases manifest.firstTemplate? entry.id <;> simp [markedBy, hlink]
  · cases manifest.firstTemplate? entry.id <;> simp [markedBy, hlink]
  · simp [hs] at ht
  · simp [ho] at ht

/-- A link of its own stays, and leaves no room for a mark. -/
theorem takesPart_markedBy {entry : Entry} {function : FunctionEntry}
    {templating : FunctionTemplating}
    (h : MirrorsTemplating ⟨manifest.entries⟩ unit.arenas function templating)
    (hu : ∀ template, templating ≠ .pattern template) :
    TakesPart manifest unit entry function
      (markedBy (manifest.firstTemplate? entry.id) templating) := by
  by_cases hnone : templating = .nonTemplate
  · subst hnone
    cases h with
    | nonTemplate hs ho hc => exact takesPart_of_unlinked ⟨hs, ho, hc⟩
  rw [markedBy_of_ne hnone]
  cases h with
  | nonTemplate => exact absurd rfl hnone
  | pattern => exact absurd rfl (hu _)
  | specialization hs ho hc hn ha =>
    refine ⟨by simp [FunctionEntry.Unlinked, hs], by simp [FunctionEntry.Unlinked, hs],
      fun target ht => ?_, by simp [ho], absurd hc⟩
    obtain rfl := Option.some.inj (hs.symm.trans ht)
    exact ⟨_, _, rfl, hn, ha⟩
  | member hs ho hc hn ha =>
    refine ⟨by simp [FunctionEntry.Unlinked, ho], by simp [FunctionEntry.Unlinked, ho],
      by simp [hs], fun target ht => ?_, absurd hc⟩
    obtain rfl := Option.some.inj (ho.symm.trans ht)
    exact ⟨_, _, rfl, hn, ha⟩
  | dependent hs ho hc hn ha =>
    exact ⟨by simp [FunctionEntry.Unlinked, hc], by simp [FunctionEntry.Unlinked, hc],
      by simp [hs], by simp [ho], fun _ => ⟨_, _, rfl, hn, ha⟩⟩

theorem exists_entry_of_firstTemplate {target : String} {template : DeclId}
    (h : manifest.firstTemplate? target = some template) :
    ∃ other entry, manifest.entries[template.index]? = some other ∧
      other.kind = .template .ofFunction entry ∧ entry.templated = target := by
  obtain ⟨i, hi, rfl⟩ := Option.map_eq_some_iff.mp h
  obtain ⟨hlt, ht, -⟩ := List.findIdx?_eq_some_iff_getElem.mp hi
  refine ⟨manifest.entries[i], ?_⟩
  cases hk : manifest.entries[i].kind with
  | template flavor entry =>
    cases flavor with
    | ofFunction =>
      exact ⟨entry, by simp [hlt], rfl, by simpa [EntryKind.isTemplateOf, hk] using ht⟩
    | ofClass | ofAlias => simp [EntryKind.isTemplateOf, hk] at ht
  | _ => simp [EntryKind.isTemplateOf, hk] at ht

/-- In a loaded manifest a function is the pattern of the first function template that names it,
unless it has a link of its own, which it keeps. Every pattern is one of a function template. -/
theorem patterns_marked (manifest : Manifest) (store : Store) (id : UnitId)
    (h : (manifest.load store).result = .ok id) :
    ∃ unit, (manifest.load store).store.unit id = .ok unit ∧
      (∀ (i : Nat) (entry : Entry) (flavor : FunctionFlavor) (function : FunctionEntry),
        manifest.entries[i]? = some entry → entry.kind = .function flavor function →
        ∃ (decl : Decl) (made : FunctionDecl), unit.decl? ⟨i⟩ = some decl ∧
          decl.kind = .function made ∧ made.flavor = flavor ∧
          TakesPart manifest unit entry function made.templating) ∧
      ∀ (i : DeclId) (decl : Decl) (made : FunctionDecl) (template : DeclId),
        unit.decl? i = some decl → decl.kind = .function made →
        made.templating = .pattern template →
        ∃ other entry, manifest.entries[template.index]? = some other ∧
          other.kind = .template .ofFunction entry := by
  obtain ⟨builder, unit, hp, -, hlive⟩ := presents_of_load h
  have hmade : ∀ (i : Nat) (entry : Entry) (flavor : FunctionFlavor) (function : FunctionEntry),
      manifest.entries[i]? = some entry → entry.kind = .function flavor function →
      ∃ (decl : Decl) (made : FunctionDecl), unit.decl? ⟨i⟩ = some decl ∧
        decl.kind = .function made ∧ made.flavor = flavor ∧
        TakesPart manifest unit entry function made.templating := by
    intro i entry flavor function hi hk
    obtain ⟨decl, first, hd, hflavor, hm, hu, hkind⟩ := hp.exists_function hi hk
    exact ⟨decl, _, hd, hkind, hflavor, takesPart_markedBy hm hu⟩
  refine ⟨unit, Store.resolve_eq_ok_iff.mp hlive, hmade, ?_⟩
  intro i decl made template hd hk ht
  obtain ⟨entry, hi, hm⟩ := hp.exists_entry hd
  obtain ⟨flavor, function, hfunction⟩ := hm.kind.entry_of_function hk
  obtain ⟨same, again, hsame, hagain, -, htakes⟩ := hmade i.index entry flavor function hi hfunction
  obtain rfl := Option.some.inj (hsame.symm.trans hd)
  obtain rfl := DeclKind.function.inj (hagain.symm.trans hk)
  obtain ⟨other, found, ho, hf, -⟩ :=
    exists_entry_of_firstTemplate ((htakes.pattern template).mp ht).2
  exact ⟨other, found, ho, hf⟩

/-- Two templates of one function, the first before it, an alias template in front of both, and
a template of a specialization. -/
def sorters : Manifest where
  unitName := "sorters.cpp"
  entries :=
    [⟨"Sorter", none, none, none, .template .ofAlias ⟨"sort", [], none⟩⟩,
      ⟨"sort-template", some "sort", none, none, .template .ofFunction ⟨"sort", ["T"], none⟩⟩,
      ⟨"sort", none, none, none, .function .free ⟨none, [], none, none, [], []⟩⟩,
      ⟨"sort-again", some "sort", none, none, .template .ofFunction ⟨"sort", ["T"], none⟩⟩,
      ⟨"sort<int>", some "sort", none, none,
        .function .free ⟨none, [], some "sort-template", none, [], [.type "int"]⟩⟩,
      ⟨"sort-nested", some "sort", none, none, .template .ofFunction ⟨"sort<int>", [], none⟩⟩,
      ⟨"T", none, none, none, .typeParm ⟨0, 0, false⟩⟩]

theorem patterns_marked_sorters :
    ∃ (unit : TranslationUnit) (plain special : FunctionDecl),
      (sorters.load .empty).result = .ok ⟨0, 0⟩ ∧
      (sorters.load .empty).store.unit ⟨0, 0⟩ = .ok unit ∧
      (unit.decl? ⟨2⟩).map Decl.kind = some (.function plain) ∧
      (unit.decl? ⟨4⟩).map Decl.kind = some (.function special) ∧
      plain.templating = .pattern ⟨1⟩ ∧
      ∃ primary args, special.templating = .specialization primary args ∧
        Scope.Names ⟨sorters.entries⟩ "sort-template" primary := by
  have hload : (sorters.load .empty).result = .ok ⟨0, 0⟩ := eq_ok_of_toOption (by decide +kernel)
  obtain ⟨unit, hunit, hmade, -⟩ := patterns_marked sorters .empty ⟨0, 0⟩ hload
  obtain ⟨decl, plain, hd, hk, -, htakes⟩ := hmade 2 _ .free _ rfl rfl
  obtain ⟨decl', special, hd', hk', -, htakes'⟩ := hmade 4 _ .free _ rfl rfl
  obtain ⟨primary, args, hs, hn, -⟩ := htakes'.specialization _ rfl
  have hfirst : sorters.firstTemplate? "sort" = some ⟨1⟩ := by decide +kernel
  refine ⟨unit, plain, special, hload, hunit, by simp [hd, hk], by simp [hd', hk'], ?_, primary,
    args, hs, hn⟩
  exact (htakes.pattern ⟨1⟩).mpr ⟨⟨rfl, rfl, rfl⟩, hfirst⟩

end CppIntrospect.Manifest
