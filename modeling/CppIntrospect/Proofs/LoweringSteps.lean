import CppIntrospect.Proofs.EntryMeaning

/-! What each lowering function does. The parts of an entry are looked at in a fixed order,
and the first that is at fault is the error; if none is, the declaration says what the entry
says. Each function has one lemma that gives both halves. -/

namespace CppIntrospect.Manifest

/-- Whether a possible fault is one, given the entries. -/
def Scope.raises (scope : Scope) : ManifestError → Bool
  | .unknownReference _ target => (scope.find? target).isNone
  | .badType _ spelling => (CppType.parse? spelling).isNone
  | .conflictingLinks _ => true
  | .unclearOrigin _ => true
  | _ => false

-- The possible faults of each part of an entry, in the order in which they are looked at.
mutual

def ArgumentEntry.risks (owner : String) : ArgumentEntry → List ManifestError
  | .null _ => []
  | .type spelling => [.badType owner spelling]
  | .integral _ spelling => [.badType owner spelling]
  | .expression _ spelling => [.badType owner spelling]
  | .decl id => [.unknownReference owner id]
  | .template id => [.unknownReference owner id]
  | .expansion id => [.unknownReference owner id]
  | .pack elements => ArgumentEntry.risksOfList owner elements

def ArgumentEntry.risksOfList (owner : String) : List ArgumentEntry → List ManifestError
  | [] => []
  | arg :: args => arg.risks owner ++ ArgumentEntry.risksOfList owner args

end

def FunctionEntry.linkRisks (owner : String) (entry : FunctionEntry) : List ManifestError :=
  match entry.specializes, entry.origin, entry.candidates with
  | none, none, [] => []
  | some primary, none, [] =>
    .unknownReference owner primary :: ArgumentEntry.risksOfList owner entry.args
  | none, some origin, [] =>
    .unknownReference owner origin :: ArgumentEntry.risksOfList owner entry.args
  | none, none, candidates =>
    candidates.map (.unknownReference owner) ++ ArgumentEntry.risksOfList owner entry.args
  | _, _, _ => [.conflictingLinks owner]

def FunctionEntry.risks (owner : String) (entry : FunctionEntry) : List ManifestError :=
  .badType owner (entry.returns.getD "void") :: entry.params.map (.unknownReference owner) ++
    entry.linkRisks owner

def TemplateEntry.risks (owner : String) (entry : TemplateEntry) : List ManifestError :=
  .unknownReference owner entry.templated :: entry.params.map (.unknownReference owner) ++
    entry.origin.toList.map (.unknownReference owner)

def PartialEntry.risks (owner : String) (entry : PartialEntry) : List ManifestError :=
  .unknownReference owner entry.template :: entry.params.map (.unknownReference owner) ++
    ArgumentEntry.risksOfList owner entry.args

def SpecializationEntry.originRisks (owner : String) (entry : SpecializationEntry) :
    List ManifestError :=
  match entry.primary, entry.pattern with
  | some primary, none => [.unknownReference owner primary]
  | none, some pattern => [.unknownReference owner pattern]
  | _, _ => [.unclearOrigin owner]

def EntryKind.risks (owner : String) : EntryKind → List ManifestError
  | .record _ entry => entry.origin.toList.map (.unknownReference owner)
  | .field spelling => [.badType owner spelling]
  | .var entry => .badType owner entry.type :: entry.origin.toList.map (.unknownReference owner)
  | .parm spelling => [.badType owner spelling]
  | .function _ entry => entry.risks owner
  | .template _ entry => entry.risks owner
  | .partialSpecialization entry => entry.risks owner
  | .specialization entry =>
    entry.originRisks owner ++ ArgumentEntry.risksOfList owner entry.args
  | .typedef spelling => [.badType owner spelling]
  | .typeAlias spelling => [.badType owner spelling]
  | .valueParm spelling _ => [.badType owner spelling]
  | .namespaceDecl => []
  | .enumeration => []
  | .enumConstant _ => []
  | .accessLabel => []
  | .typeParm _ => []
  | .templateParm _ => []

/-- The parent is looked at last. -/
def Entry.risks (entry : Entry) : List ManifestError :=
  entry.kind.risks entry.id ++ entry.parent.toList.map (.unknownReference entry.id)

/-- A lowering fails with the first possible fault that is one, and else gives a result with
a property. -/
def Lowers {α : Type} (scope : Scope) (risks : List ManifestError)
    (result : Except ManifestError α) (post : α → Prop) : Prop :=
  match result with
  | .ok value => risks.find? scope.raises = none ∧ post value
  | .error fault => risks.find? scope.raises = some fault

variable {scope : Scope}

namespace Lowers

variable {α β : Type} {risks more : List ManifestError} {result : Except ManifestError α}
  {post : α → Prop} {after : β → Prop}

theorem pure {value : α} (h : post value) : Lowers scope [] (Pure.pure value) post := ⟨rfl, h⟩

theorem bind {f : α → Except ManifestError β} (h : Lowers scope risks result post)
    (hf : ∀ value, post value → Lowers scope more (f value) after) :
    Lowers scope (risks ++ more) (result >>= f) after := by
  cases result with
  | error fault =>
    show (risks ++ more).find? scope.raises = some fault
    rw [List.find?_append, show risks.find? scope.raises = some fault from h, Option.some_or]
  | ok value =>
    have hrest := hf value h.2
    show Lowers scope (risks ++ more) (f value) after
    unfold Lowers at hrest ⊢
    rwa [List.find?_append, h.1, Option.none_or]

theorem map {f : α → β} (h : Lowers scope risks result post)
    (hf : ∀ value, post value → after (f value)) : Lowers scope risks (result.map f) after := by
  cases result with
  | error fault => exact h
  | ok value => exact ⟨h.1, hf value h.2⟩

theorem mono {post' : α → Prop} (h : Lowers scope risks result post)
    (hp : ∀ value, post value → post' value) : Lowers scope risks result post' := by
  cases result with
  | error fault => exact h
  | ok value => exact ⟨h.1, hp value h.2⟩

/-- The last step of a lowering looks at nothing. -/
theorem bind_pure {f : α → β} (h : Lowers scope risks result post)
    (hf : ∀ value, post value → after (f value)) :
    Lowers scope risks (result >>= fun value => Pure.pure (f value)) after := by
  simpa using h.bind fun value hv => Lowers.pure (hf value hv)

end Lowers

theorem addType_grows (builder : Builder) (type : CppType) :
    Grows builder (builder.addType type).2 ∧
      (builder.addType type).2.types[(builder.addType type).1.index]? = some type := by
  rcases builder.addType_cases type with ⟨id, hid, ha⟩ | ⟨-, typeIds, inverts, ha⟩
  · rw [ha]
    exact ⟨.refl builder, hid⟩
  · rw [ha]
    exact ⟨⟨⟨List.prefix_append _ _, List.prefix_rfl⟩, rfl, rfl, rfl⟩, by simp⟩

theorem addExpr_grows (builder : Builder) (expr : Expr) :
    Grows builder (builder.addExpr expr).2 ∧
      (builder.addExpr expr).2.exprs[(builder.addExpr expr).1.index]? = some expr :=
  ⟨⟨⟨List.prefix_rfl, List.prefix_append _ _⟩, rfl, rfl, rfl⟩, by simp [Builder.addExpr]⟩

theorem lowerType_lowers (owner spelling : String) (builder : Builder) :
    Lowers scope [.badType owner spelling] (lowerType scope owner spelling builder) fun made =>
      Grows builder made.2 ∧ HoldsType scope made.2 spelling made.1 := by
  unfold lowerType
  cases hp : CppType.parse? spelling with
  | none => simp [Lowers, Scope.raises, hp]
  | some type =>
    have ha := addType_grows builder (type.substitute scope.typeParameter?)
    rw [Scope.tables_typeParameter?]
    exact ⟨by simp [Scope.raises, hp], ha.1, type, hp, ha.2⟩

theorem denotes_operand {exprs : List Expr} {type : TypeId} {id : ExprId} {token : List Char}
    (h : exprs[id.index]? = some ⟨operand scope token, type⟩) :
    Denotes exprs type (operandTerm scope token) id := by
  unfold operandTerm
  unfold operand at h
  rw [Scope.tables_find?] at h
  cases hi : Text.integer128? token with
  | some value =>
    rw [hi] at h
    exact .integer h
  | none =>
    rw [hi] at h
    cases hf : scope.find? (String.ofList token) with
    | some decl =>
      rw [hf] at h
      exact .mention h
    | none =>
      rw [hf] at h
      exact .text h

theorem Denotes.lt {exprs : List Expr} {type : TypeId} {term : Term} {id : ExprId}
    (h : Denotes exprs type term id) : id.index < exprs.length := by
  cases h with
  | integer h => exact (List.getElem?_eq_some_iff.mp h).1
  | mention h => exact (List.getElem?_eq_some_iff.mp h).1
  | text h => exact (List.getElem?_eq_some_iff.mp h).1
  | binary h => exact (List.getElem?_eq_some_iff.mp h).1

/-- The tree so far becomes the left operand of the next operator. -/
theorem lowerOperations_denotes {type : TypeId} (rest : List (BinaryOp × List Char)) {lhs : ExprId}
    {builder : Builder} {term : Term} (h : Denotes builder.exprs type term lhs) :
    Grows builder (lowerOperations scope type rest (lhs, builder)).2 ∧
    Denotes (lowerOperations scope type rest (lhs, builder)).2.exprs type
      (rest.foldl (fun lhs (op, token) => .binary op lhs (operandTerm scope token)) term)
      (lowerOperations scope type rest (lhs, builder)).1 := by
  induction rest generalizing lhs builder term with
  | nil => exact ⟨.refl builder, h⟩
  | cons step rest ih =>
    obtain ⟨op, token⟩ := step
    obtain ⟨hg, hr⟩ := addExpr_grows builder ⟨operand scope token, type⟩
    obtain ⟨hg', hb⟩ := addExpr_grows (builder.addExpr ⟨operand scope token, type⟩).2
      ⟨.binary op lhs (builder.addExpr ⟨operand scope token, type⟩).1, type⟩
    have hlt := h.lt
    have hbinary := Denotes.binary hb (by simp [Builder.addExpr]; omega)
      (by simp [Builder.addExpr]) (h.mono (hg.trans hg').exprs)
      ((denotes_operand hr).mono hg'.exprs)
    obtain ⟨hi, hterm⟩ := ih hbinary
    exact ⟨(hg.trans hg').trans hi, hterm⟩

theorem lowerExpr_denotes (text : String) (type : TypeId) (builder : Builder) :
    Grows builder (lowerExpr scope text type builder).2 ∧
    Denotes (lowerExpr scope text type builder).2.exprs type (termOf scope text)
      (lowerExpr scope text type builder).1 := by
  have hplain : ∀ plain, Grows builder (builder.addExpr ⟨.unexposed plain, type⟩).2 ∧
      Denotes (builder.addExpr ⟨.unexposed plain, type⟩).2.exprs type (.text plain)
        (builder.addExpr ⟨.unexposed plain, type⟩).1 := by
    intro plain
    obtain ⟨hg, he⟩ := addExpr_grows builder ⟨.unexposed plain, type⟩
    exact ⟨hg, .text he⟩
  rw [lowerExpr_eq]
  unfold termOf
  cases Text.words text.toList with
  | nil => exact hplain _
  | cons token tokens =>
    dsimp only
    cases operations? tokens with
    | none => exact hplain _
    | some rest =>
      obtain ⟨hg, he⟩ := addExpr_grows builder ⟨operand scope token, type⟩
      obtain ⟨hg', hterm⟩ := lowerOperations_denotes rest (denotes_operand he)
      exact ⟨hg.trans hg', hterm⟩

theorem names_of_getElem? {i : Nat} {entry : Entry} (hd : scope.Distinct)
    (hi : scope.entries[i]? = some entry) : scope.Names entry.id ⟨i⟩ := by
  refine ⟨⟨entry, hi, rfl⟩, fun j other hj he => ?_⟩
  obtain ⟨hlt, -⟩ := List.getElem?_eq_some_iff.mp hi
  have hsame : (scope.entries.map Entry.id)[i]? = (scope.entries.map Entry.id)[j]? := by
    simp [hi, hj, he]
  exact ((List.getElem?_inj (by simpa using hlt) hd).mp hsame).symm

theorem names_of_find? {target : String} {decl : DeclId} (hd : scope.Distinct)
    (h : scope.find? target = some decl) : scope.Names target decl := by
  obtain ⟨i, hi, rfl⟩ := Option.map_eq_some_iff.mp h
  obtain ⟨hlt, hp, -⟩ := List.findIdx?_eq_some_iff_getElem.mp hi
  have hid : scope.entries[i].id = target := by simpa using hp
  exact hid ▸ names_of_getElem? hd (List.getElem?_eq_getElem hlt)

theorem resolve_lowers (hd : scope.Distinct) (owner target : String) :
    Lowers scope [.unknownReference owner target] (scope.tables.resolve owner target)
      (scope.Names target) := by
  unfold Tables.resolve
  rw [Scope.tables_find?]
  cases hf : scope.find? target with
  | none => simp [Lowers, Scope.raises, hf]
  | some decl => exact ⟨by simp [Scope.raises, hf], names_of_find? hd hf⟩

theorem resolve?_lowers (hd : scope.Distinct) (owner : String) (target : Option String) :
    Lowers scope (target.toList.map (.unknownReference owner)) (scope.tables.resolve? owner target)
      (Option.Rel scope.Names target) := by
  cases target with
  | none => exact ⟨rfl, .none⟩
  | some target => exact (resolve_lowers hd owner target).map fun _ h => .some h

theorem resolveAll_lowers (hd : scope.Distinct) (owner : String) (targets : List String) :
    Lowers scope (targets.map (.unknownReference owner)) (scope.tables.resolveAll owner targets)
      (List.Forall₂ scope.Names targets) := by
  induction targets with
  | nil => exact ⟨rfl, .nil⟩
  | cons target targets ih =>
    exact (resolve_lowers hd owner target).bind fun id hid => ih.bind_pure fun ids hids =>
      .cons hid hids

mutual

theorem lowerArg_lowers (hd : scope.Distinct) (owner : String) :
    ∀ (entry : ArgumentEntry) (builder : Builder),
    Lowers scope (entry.risks owner) (lowerArg scope owner entry builder) fun made =>
      Grows builder made.2 ∧ MirrorsArg scope made.2 entry made.1
  | .null _, builder => ⟨rfl, .refl builder, .null⟩
  | .type spelling, builder =>
    (lowerType_lowers owner spelling builder).bind_pure fun _ h => ⟨h.1, .type h.2⟩
  | .integral _ spelling, builder =>
    (lowerType_lowers owner spelling builder).bind_pure fun _ h => ⟨h.1, .integral h.2⟩
  | .decl id, builder =>
    (resolve_lowers hd owner id).bind_pure fun _ h => ⟨.refl builder, .decl h⟩
  | .template id, builder =>
    (resolve_lowers hd owner id).bind_pure fun _ h => ⟨.refl builder, .template h⟩
  | .expansion id, builder =>
    (resolve_lowers hd owner id).bind_pure fun _ h => ⟨.refl builder, .expansion h⟩
  | .expression text spelling, builder =>
    (lowerType_lowers owner spelling builder).bind_pure fun made h =>
      have he := lowerExpr_denotes text made.1 made.2
      ⟨h.1.trans he.1, .expression (h.2.mono he.1.toRicher) he.2⟩
  | .pack elements, builder =>
    (lowerArgs_lowers hd owner elements builder).bind_pure fun _ h => ⟨h.1, .pack h.2⟩

theorem lowerArgs_lowers (hd : scope.Distinct) (owner : String) :
    ∀ (entries : List ArgumentEntry) (builder : Builder),
    Lowers scope (ArgumentEntry.risksOfList owner entries) (lowerArgs scope owner entries builder)
      fun made => Grows builder made.2 ∧ MirrorsArgs scope made.2 entries made.1
  | [], builder => ⟨rfl, .refl builder, .nil⟩
  | entry :: entries, builder =>
    (lowerArg_lowers hd owner entry builder).bind fun made h =>
      (lowerArgs_lowers hd owner entries made.2).bind_pure fun _ hs =>
        ⟨h.1.trans hs.1, .cons (h.2.mono hs.1.toRicher) hs.2⟩

end

theorem lowerTemplating_lowers (hd : scope.Distinct) (owner : String) (entry : FunctionEntry)
    (builder : Builder) :
    Lowers scope (entry.linkRisks owner) (lowerTemplating scope owner entry builder) fun made =>
      Grows builder made.2 ∧ MirrorsTemplating scope made.2 entry made.1 := by
  obtain ⟨returns, params, specializes, origin, candidates, args⟩ := entry
  have hargs := lowerArgs_lowers hd owner args builder
  match specializes, origin, candidates with
  | none, none, [] => exact ⟨rfl, .refl builder, .nonTemplate rfl rfl rfl⟩
  | some primary, none, [] =>
    refine (resolve_lowers hd owner primary).bind fun decl h => hargs.bind_pure fun made ha => ?_
    exact ⟨ha.1, .specialization rfl rfl rfl h ha.2⟩
  | none, some origin, [] =>
    refine (resolve_lowers hd owner origin).bind fun decl h => hargs.bind_pure fun made ha => ?_
    exact ⟨ha.1, .member rfl rfl rfl h ha.2⟩
  | none, none, candidate :: candidates =>
    refine (resolveAll_lowers hd owner (candidate :: candidates)).bind fun decls h =>
      hargs.bind_pure fun made ha => ?_
    exact ⟨ha.1, .dependent rfl rfl (List.cons_ne_nil _ _) h ha.2⟩
  | some primary, some origin, [] => rfl
  | some primary, none, candidate :: candidates => rfl
  | none, some origin, candidate :: candidates => rfl
  | some primary, some origin, candidate :: candidates => rfl

theorem lowerFunction_lowers (hd : scope.Distinct) (owner : String) (flavor : FunctionFlavor)
    (entry : FunctionEntry) (builder : Builder) :
    Lowers scope (entry.risks owner) (lowerFunction scope owner flavor entry builder) fun made =>
      Grows builder made.2 ∧ MirrorsKind scope made.2 (.function flavor entry)
        (.function made.1) := by
  refine (lowerType_lowers owner _ builder).bind fun typed ht => ?_
  refine (resolveAll_lowers hd owner entry.params).bind fun params hp => ?_
  refine (lowerTemplating_lowers hd owner entry typed.2).bind_pure fun made hl => ?_
  exact ⟨ht.1.trans hl.1, .function (ht.2.mono hl.1.toRicher) hp hl.2⟩

theorem lowerTemplate_lowers (hd : scope.Distinct) (owner : String) (flavor : TemplateFlavor)
    (entry : TemplateEntry) (builder : Builder) :
    Lowers scope (entry.risks owner) (lowerTemplate scope owner flavor entry) fun made =>
      MirrorsKind scope builder (.template flavor entry) (.template made) := by
  refine (resolve_lowers hd owner entry.templated).bind fun templated ht => ?_
  refine (resolveAll_lowers hd owner entry.params).bind fun params hp => ?_
  exact (resolve?_lowers hd owner entry.origin).bind_pure fun origin ho => .template ht hp ho

theorem lowerPartial_lowers (hd : scope.Distinct) (owner : String) (entry : PartialEntry)
    (builder : Builder) :
    Lowers scope (entry.risks owner) (lowerPartial scope owner entry builder) fun made =>
      Grows builder made.2 ∧ MirrorsKind scope made.2 (.partialSpecialization entry)
        (.record made.1) ∧ made.1.bases = [] := by
  refine (resolve_lowers hd owner entry.template).bind fun template ht => ?_
  refine (resolveAll_lowers hd owner entry.params).bind fun params hp => ?_
  refine (lowerArgs_lowers hd owner entry.args builder).bind_pure fun made ha => ?_
  exact ⟨ha.1, .partialSpecialization ht hp ha.2, rfl⟩

theorem lowerOrigin_lowers (hd : scope.Distinct) (owner : String) (entry : SpecializationEntry) :
    Lowers scope (entry.originRisks owner) (lowerOrigin scope owner entry)
      (MirrorsOrigin scope entry) := by
  obtain ⟨tag, primary, pattern, args, bases⟩ := entry
  match primary, pattern with
  | some primary, none =>
    exact (resolve_lowers hd owner primary).map fun _ h => .primary rfl rfl h
  | none, some pattern =>
    exact (resolve_lowers hd owner pattern).map fun _ h => .partialSpecialization rfl rfl h
  | none, none => rfl
  | some _, some _ => rfl

theorem lowerSpecialization_lowers (hd : scope.Distinct) (owner : String)
    (entry : SpecializationEntry) (builder : Builder) :
    Lowers scope (entry.originRisks owner ++ ArgumentEntry.risksOfList owner entry.args)
      (lowerSpecialization scope owner entry builder) fun made =>
        Grows builder made.2 ∧ MirrorsKind scope made.2 (.specialization entry)
          (.record made.1) ∧ made.1.bases = [] := by
  refine (lowerOrigin_lowers hd owner entry).bind fun origin ho => ?_
  refine (lowerArgs_lowers hd owner entry.args builder).bind_pure fun made ha => ?_
  exact ⟨ha.1, .specialization ho ha.2, rfl⟩

theorem lowerKind_lowers (hd : scope.Distinct) (owner : String) (entry : EntryKind)
    (builder : Builder) :
    Lowers scope (entry.risks owner) (lowerKind scope owner entry builder) fun made =>
      Grows builder made.2 ∧ MirrorsKind scope made.2 entry made.1 ∧ listedBases made.1 = [] := by
  cases entry with
  | namespaceDecl => exact ⟨rfl, .refl builder, .namespaceDecl, rfl⟩
  | record keyword entry =>
    exact (resolve?_lowers hd owner entry.origin).bind_pure fun _ h =>
      ⟨.refl builder, .record h, rfl⟩
  | enumeration => exact ⟨rfl, .refl builder, .enumeration, rfl⟩
  | enumConstant value => exact ⟨rfl, .refl builder, .enumConstant, rfl⟩
  | field spelling =>
    exact (lowerType_lowers owner spelling builder).bind_pure fun _ h => ⟨h.1, .field h.2, rfl⟩
  | var entry =>
    refine (lowerType_lowers owner entry.type builder).bind fun _ ht => ?_
    exact (resolve?_lowers hd owner entry.origin).bind_pure fun _ ho => ⟨ht.1, .var ht.2 ho, rfl⟩
  | parm spelling =>
    exact (lowerType_lowers owner spelling builder).bind_pure fun _ h => ⟨h.1, .parm h.2, rfl⟩
  | function flavor entry =>
    exact (lowerFunction_lowers hd owner flavor entry builder).bind_pure fun _ h =>
      ⟨h.1, h.2, rfl⟩
  | template flavor entry =>
    exact (lowerTemplate_lowers hd owner flavor entry builder).bind_pure fun _ h =>
      ⟨.refl builder, h, rfl⟩
  | partialSpecialization entry =>
    exact (lowerPartial_lowers hd owner entry builder).bind_pure fun _ h => h
  | specialization entry =>
    exact (lowerSpecialization_lowers hd owner entry builder).bind_pure fun _ h => h
  | accessLabel => exact ⟨rfl, .refl builder, .accessLabel, rfl⟩
  | typedef spelling =>
    exact (lowerType_lowers owner spelling builder).bind_pure fun _ h => ⟨h.1, .typedef h.2, rfl⟩
  | typeAlias spelling =>
    exact (lowerType_lowers owner spelling builder).bind_pure fun _ h => ⟨h.1, .typeAlias h.2, rfl⟩
  | typeParm position => exact ⟨rfl, .refl builder, .typeParm, rfl⟩
  | valueParm spelling position =>
    exact (lowerType_lowers owner spelling builder).bind_pure fun _ h => ⟨h.1, .valueParm h.2, rfl⟩
  | templateParm position => exact ⟨rfl, .refl builder, .templateParm, rfl⟩

theorem lowerEntry_lowers (hd : scope.Distinct) (entry : Entry) (builder : Builder) :
    Lowers scope entry.risks (lowerEntry scope entry builder) fun made =>
      Grows builder made.2 ∧ Mirrors scope made.2 entry made.1 ∧
        listedBases made.1.kind = [] := by
  refine (lowerKind_lowers hd entry.id entry.kind builder).bind fun made hk => ?_
  refine (resolve?_lowers hd entry.id entry.parent).bind_pure fun parent hp => ?_
  exact ⟨hk.1, ⟨rfl, rfl, hp, hk.2.1⟩, hk.2.2⟩

theorem lowerEntries_lowers (hd : scope.Distinct) (entries : List Entry) (builder : Builder) :
    Lowers scope (entries.flatMap Entry.risks) (lowerEntries scope entries builder).2 fun next =>
      Grows builder next ∧
      List.Forall₂ (fun entry decl => Mirrors scope next entry decl ∧ listedBases decl.kind = [])
        entries (lowerEntries scope entries builder).1 := by
  induction entries generalizing builder with
  | nil => exact ⟨rfl, .refl builder, .nil⟩
  | cons entry entries ih =>
    have hentry := lowerEntry_lowers hd entry builder
    unfold lowerEntries
    cases hl : lowerEntry scope entry builder with
    | error fault =>
      rw [hl] at hentry
      have hf : entry.risks.find? scope.raises = some fault := hentry
      simp [Lowers, List.find?_append, hf]
    | ok made =>
      rw [hl] at hentry
      obtain ⟨hnone, hg, hm, hb⟩ := hentry
      have hrest := ih made.2
      simp only [Lowers, List.flatMap_cons, List.find?_append, hnone, Option.none_or] at hrest ⊢
      split
      · next next hn =>
        rw [hn] at hrest
        obtain ⟨hnone', hg', hms⟩ := hrest
        exact ⟨hnone', hg.trans hg', .cons ⟨hm.mono hg'.toRicher, hb⟩ hms⟩
      · next fault hf =>
        rw [hf] at hrest
        exact hrest

end CppIntrospect.Manifest
