import CppIntrospect.Proofs.LoweringInPlace
import CppIntrospect.Proofs.ReferenceCheck

/-! Lowering an entry only adds types and expressions to a builder, and every id it writes
is in range: declarations count by the entries of the manifest, types and expressions by
what the builder holds afterwards. -/

namespace CppIntrospect.Manifest

/-- Whatever a lowering gives satisfies a condition, and no error comes from the store. -/
def Yields {α : Type} (result : Except ManifestError α) (post : α → Prop) : Prop :=
  match result with
  | .ok value => post value
  | .error fault => ∀ cause, fault ≠ .rejected cause

namespace Yields

variable {α β : Type} {result : Except ManifestError α} {post : α → Prop} {after : β → Prop}

theorem pure {value : α} (h : post value) : Yields (Pure.pure value) post := h

theorem bind {f : α → Except ManifestError β} (h : Yields result post)
    (hf : ∀ value, post value → Yields (f value) after) : Yields (result >>= f) after := by
  cases result with
  | error fault => exact h
  | ok value => exact hf value h

theorem map {f : α → β} (h : Yields result post) (hf : ∀ value, post value → after (f value)) :
    Yields (result.map f) after := by
  cases result with
  | error fault => exact h
  | ok value => exact hf value h

theorem mono {post' : α → Prop} (h : Yields result post)
    (hp : ∀ value, post value → post' value) : Yields result post' := by
  cases result with
  | error fault => exact h
  | ok value => exact hp value h

end Yields

/-- An id is in range of a builder whose declarations will be those of the entries. -/
def Fits (scope : Scope) (builder : Builder) : Ref → Prop
  | .decl id => id.index < scope.entries.length
  | .type id => id.index < builder.types.length
  | .expr id => id.index < builder.exprs.length

def ExprsFit (scope : Scope) (builder : Builder) : Prop :=
  ∀ expr ∈ builder.exprs, ∀ ref ∈ expr.refs, Fits scope builder ref

/-- A builder with more types and expressions, the new ones as sound as the old. -/
structure Extends (scope : Scope) (builder next : Builder) : Prop where
  types : builder.types.length ≤ next.types.length
  exprs : builder.exprs.length ≤ next.exprs.length
  decls : next.decls = builder.decls
  bases : next.bases = builder.bases
  exprsFit : ExprsFit scope builder → ExprsFit scope next

/-- A builder with more types and expressions, in which the given ids are in range. -/
structure Writes (scope : Scope) (builder next : Builder) (refs : List Ref) : Prop where
  grows : Extends scope builder next
  fits : ∀ ref ∈ refs, Fits scope next ref

variable {scope : Scope} {builder middle next : Builder} {refs more : List Ref}

theorem Fits.mono (ht : builder.types.length ≤ next.types.length)
    (he : builder.exprs.length ≤ next.exprs.length) {ref : Ref} (h : Fits scope builder ref) :
    Fits scope next ref := by
  cases ref with
  | decl id => exact h
  | type id => exact Nat.lt_of_lt_of_le h ht
  | expr id => exact Nat.lt_of_lt_of_le h he

theorem Extends.refl (scope : Scope) (builder : Builder) : Extends scope builder builder :=
  ⟨Nat.le_refl _, Nat.le_refl _, rfl, rfl, id⟩

theorem Extends.trans (h : Extends scope builder middle) (h' : Extends scope middle next) :
    Extends scope builder next :=
  ⟨Nat.le_trans h.types h'.types, Nat.le_trans h.exprs h'.exprs, h'.decls.trans h.decls,
    h'.bases.trans h.bases, fun hf => h'.exprsFit (h.exprsFit hf)⟩

theorem Extends.fits (h : Extends scope builder next) {ref : Ref} (hr : Fits scope builder ref) :
    Fits scope next ref := hr.mono h.types h.exprs

theorem Writes.here (h : ∀ ref ∈ refs, Fits scope builder ref) :
    Writes scope builder builder refs := ⟨.refl scope builder, h⟩

theorem Writes.nothing (scope : Scope) (builder : Builder) : Writes scope builder builder [] :=
  .here nofun

theorem Writes.append (h : Writes scope builder middle refs) (h' : Writes scope middle next more) :
    Writes scope builder next (refs ++ more) := by
  refine ⟨h.grows.trans h'.grows, fun ref hr => ?_⟩
  rcases List.mem_append.mp hr with hr | hr
  · exact h'.grows.fits (h.fits ref hr)
  · exact h'.fits ref hr

theorem Writes.head {ref : Ref} (h : Writes scope builder next [ref]) : Fits scope next ref :=
  h.fits ref (List.mem_singleton_self ref)

theorem addType_writes (scope : Scope) (builder : Builder) (type : CppType) :
    Writes scope builder (builder.addType type).2 [.type (builder.addType type).1] := by
  rcases builder.addType_cases type with ⟨id, hid, ha⟩ | ⟨-, typeIds, inverts, ha⟩
  · rw [ha]
    apply Writes.here
    intro ref hr
    obtain rfl := List.mem_singleton.mp hr
    exact (List.getElem?_eq_some_iff.mp hid).1
  · rw [ha]
    have hlen : builder.types.length ≤ (builder.types ++ [type]).length := by simp
    refine ⟨⟨hlen, Nat.le_refl _, rfl, rfl, fun hf expr he ref hr => ?_⟩, by simp [Fits]⟩
    refine (hf expr he ref hr).mono ?_ ?_
    · exact hlen
    · exact Nat.le_refl _

theorem addExpr_writes {expr : Expr} (h : ∀ ref ∈ expr.refs, Fits scope builder ref) :
    Writes scope builder (builder.addExpr expr).2 [.expr (builder.addExpr expr).1] := by
  unfold Builder.addExpr
  have hlen : builder.exprs.length ≤ (builder.exprs ++ [expr]).length := by simp
  refine ⟨⟨Nat.le_refl _, hlen, rfl, rfl, fun hf old ho ref hr => ?_⟩, by simp [Fits]⟩
  have hold : Fits scope builder ref := by
    rcases List.mem_append.mp ho with ho | ho
    · exact hf old ho ref hr
    · obtain rfl := List.mem_singleton.mp ho
      exact h ref hr
  refine hold.mono ?_ ?_
  · exact Nat.le_refl _
  · exact hlen

theorem find?_lt {id : String} {decl : DeclId} (h : scope.find? id = some decl) :
    decl.index < scope.entries.length := by
  obtain ⟨i, hi, rfl⟩ := Option.map_eq_some_iff.mp h
  exact (List.findIdx?_eq_some_iff_getElem.mp hi).1

theorem resolve_yields (owner target : String) :
    Yields (scope.tables.resolve owner target) fun id => id.index < scope.entries.length := by
  unfold Tables.resolve
  rw [Scope.tables_find?]
  cases hf : scope.find? target with
  | none => exact nofun
  | some id => exact find?_lt hf

theorem resolve?_yields (owner : String) (target : Option String) :
    Yields (scope.tables.resolve? owner target) fun link =>
      ∀ id ∈ link, id.index < scope.entries.length := by
  cases target with
  | none => exact nofun
  | some target =>
    refine (resolve_yields owner target).map fun id hid found hfound => ?_
    obtain rfl : id = found := by simpa using hfound
    exact hid

theorem resolveAll_yields (owner : String) (targets : List String) :
    Yields (scope.tables.resolveAll owner targets) fun ids =>
      ∀ id ∈ ids, id.index < scope.entries.length := by
  induction targets with
  | nil => exact nofun
  | cons target targets ih =>
    refine (resolve_yields owner target).bind fun id hid => ih.bind fun ids hids => ?_
    exact .pure (List.forall_mem_cons.mpr ⟨hid, hids⟩)

theorem lowerType_yields (owner spelling : String) (builder : Builder) :
    Yields (lowerType scope owner spelling builder) fun made =>
      Writes scope builder made.2 [.type made.1] := by
  unfold lowerType
  split
  · exact addType_writes scope builder _
  · exact nofun

theorem operand_refs_fit (token : List Char) {type : TypeId}
    (ht : Fits scope builder (.type type)) :
    ∀ ref ∈ (Expr.mk (operand scope token) type).refs, Fits scope builder ref := by
  intro ref hr
  rcases List.mem_cons.mp hr with rfl | hr
  · exact ht
  · unfold operand at hr
    split at hr
    · cases hr
    · split at hr
      · next hf =>
        obtain rfl := List.mem_singleton.mp hr
        exact find?_lt (scope.tables_find? ▸ hf)
      · cases hr

theorem binary_refs_fit (op : BinaryOp) {lhs rhs : ExprId} {type : TypeId}
    (ht : Fits scope builder (.type type)) (hl : Fits scope builder (.expr lhs))
    (hr : Fits scope builder (.expr rhs)) :
    ∀ ref ∈ (Expr.mk (.binary op lhs rhs) type).refs, Fits scope builder ref := by
  intro ref href
  simp only [Expr.refs, ExprKind.refs, List.mem_cons, List.not_mem_nil, or_false] at href
  rcases href with rfl | rfl | rfl
  · exact ht
  · exact hl
  · exact hr

theorem lowerOperations_writes {type : TypeId} (rest : List (BinaryOp × List Char)) {lhs : ExprId}
    (ht : Fits scope builder (.type type)) (hl : Fits scope builder (.expr lhs)) :
    Writes scope builder (lowerOperations scope type rest (lhs, builder)).2
      [.expr (lowerOperations scope type rest (lhs, builder)).1] := by
  induction rest generalizing lhs builder with
  | nil =>
    apply Writes.here
    intro ref hr
    obtain rfl := List.mem_singleton.mp hr
    exact hl
  | cons step rest ih =>
    obtain ⟨op, token⟩ := step
    have hr := addExpr_writes (operand_refs_fit token ht)
    have hb := addExpr_writes
      (binary_refs_fit op (hr.grows.fits ht) (hr.grows.fits hl) hr.head)
    have hi := ih (hb.grows.fits (hr.grows.fits ht)) hb.head
    exact ⟨hr.grows.trans (hb.grows.trans hi.grows), hi.fits⟩

theorem lowerExpr_writes (text : String) {type : TypeId} (ht : Fits scope builder (.type type)) :
    Writes scope builder (lowerExpr scope text type builder).2
      [.expr (lowerExpr scope text type builder).1] := by
  have hplain : ∀ plain, Writes scope builder (builder.addExpr ⟨.unexposed plain, type⟩).2
      [.expr (builder.addExpr ⟨.unexposed plain, type⟩).1] :=
    fun plain => addExpr_writes (by simpa [Expr.refs, ExprKind.refs] using ht)
  rw [lowerExpr_eq]
  split
  · exact hplain _
  · next token tokens _ =>
    split
    · next rest _ =>
      have hf := addExpr_writes (operand_refs_fit token ht)
      have ho := lowerOperations_writes rest (hf.grows.fits ht) hf.head
      exact ⟨hf.grows.trans ho.grows, ho.fits⟩
    · exact hplain _

theorem Writes.decls {ids : List DeclId} (h : ∀ id ∈ ids, id.index < scope.entries.length) :
    Writes scope builder builder (ids.map Ref.decl) := by
  apply Writes.here
  intro ref hr
  obtain ⟨id, hid, rfl⟩ := List.mem_map.mp hr
  exact h id hid

theorem Writes.decl {id : DeclId} (h : id.index < scope.entries.length) :
    Writes scope builder builder [.decl id] :=
  .decls (List.forall_mem_singleton.mpr h)

theorem Writes.link {link : Option DeclId} (h : ∀ id ∈ link, id.index < scope.entries.length) :
    Writes scope builder builder (link.toList.map Ref.decl) :=
  .decls fun id hid => h id (Option.mem_toList.mp hid)

-- An argument and the list of a pack recurse through each other.
mutual

theorem lowerArg_yields (owner : String) : ∀ (entry : ArgumentEntry) (builder : Builder),
    Yields (lowerArg scope owner entry builder) fun made =>
      Writes scope builder made.2 made.1.refs
  | .null _, builder => Writes.nothing scope builder
  | .type spelling, builder => (lowerType_yields owner spelling builder).bind fun _ h => h
  | .integral _ spelling, builder => (lowerType_yields owner spelling builder).bind fun _ h => h
  | .decl id, _ => (resolve_yields owner id).bind fun _ h => Writes.decl h
  | .template id, _ => (resolve_yields owner id).bind fun _ h => Writes.decl h
  | .expansion id, _ => (resolve_yields owner id).bind fun _ h => Writes.decl h
  | .expression text spelling, builder =>
    (lowerType_yields owner spelling builder).bind fun _ h =>
      have he := lowerExpr_writes text h.head
      ⟨h.grows.trans he.grows, he.fits⟩
  | .pack elements, builder => (lowerArgs_yields owner elements builder).bind fun _ h => h

theorem lowerArgs_yields (owner : String) : ∀ (entries : List ArgumentEntry) (builder : Builder),
    Yields (lowerArgs scope owner entries builder) fun made =>
      Writes scope builder made.2 (TemplateArgument.refsOfList made.1)
  | [], builder => Writes.nothing scope builder
  | entry :: entries, builder =>
    (lowerArg_yields owner entry builder).bind fun made h =>
      (lowerArgs_yields owner entries made.2).bind fun _ hs => h.append hs

end

theorem lowerTemplating_yields (owner : String) (entry : FunctionEntry) (builder : Builder) :
    Yields (lowerTemplating scope owner entry builder) fun made =>
      Writes scope builder made.2 made.1.refs := by
  have hargs : Yields (lowerArgs scope owner entry.args builder) _ :=
    lowerArgs_yields owner entry.args builder
  unfold lowerTemplating
  split
  · exact Writes.nothing scope builder
  · refine (resolve_yields owner _).bind fun primary hd => hargs.bind fun _ ha => ?_
    exact .pure ((Writes.decl hd).append ha)
  · refine (resolve_yields owner _).bind fun origin hd => hargs.bind fun _ ha => ?_
    exact .pure ((Writes.decl hd).append ha)
  · refine (resolveAll_yields owner _).bind fun candidates hd => hargs.bind fun _ ha => ?_
    exact .pure ((Writes.decls hd).append ha)
  · exact nofun

theorem lowerFunction_yields (owner : String) (flavor : FunctionFlavor) (entry : FunctionEntry)
    (builder : Builder) :
    Yields (lowerFunction scope owner flavor entry builder) fun made =>
      Writes scope builder made.2 (DeclKind.function made.1).refs := by
  refine (lowerType_yields owner _ builder).bind fun (returns, typed) ht => ?_
  refine (resolveAll_yields owner entry.params).bind fun params hp => ?_
  refine (lowerTemplating_yields owner entry typed).bind fun _ hl => ?_
  exact .pure ((ht.append (Writes.decls hp)).append hl)

theorem lowerTemplate_yields (owner : String) (flavor : TemplateFlavor) (entry : TemplateEntry)
    (builder : Builder) :
    Yields (lowerTemplate scope owner flavor entry) fun made =>
      Writes scope builder builder (DeclKind.template made).refs := by
  refine (resolve_yields owner entry.templated).bind fun templated ht => ?_
  refine (resolveAll_yields owner entry.params).bind fun params hp => ?_
  refine (resolve?_yields owner entry.origin).bind fun origin ho => ?_
  exact .pure (((Writes.decl ht).append (Writes.decls hp)).append (Writes.link ho))

theorem refs_specialization (tag : Tag) (link : ClassSpecialization) :
    (DeclKind.record ⟨tag, [], none, some link⟩).refs = link.refs := by
  simp [DeclKind.refs]

theorem lowerPartial_yields (owner : String) (entry : PartialEntry) (builder : Builder) :
    Yields (lowerPartial scope owner entry builder) fun made =>
      Writes scope builder made.2 (DeclKind.record made.1).refs := by
  refine (resolve_yields owner entry.template).bind fun template ht => ?_
  refine (resolveAll_yields owner entry.params).bind fun params hp => ?_
  refine (lowerArgs_yields owner entry.args builder).bind fun _ ha => .pure ?_
  rw [refs_specialization]
  exact ((Writes.decl ht).append (Writes.decls hp)).append ha

theorem lowerOrigin_yields (owner : String) (entry : SpecializationEntry) :
    Yields (lowerOrigin scope owner entry) fun origin =>
      origin.decl.index < scope.entries.length := by
  unfold lowerOrigin
  split
  · exact (resolve_yields owner _).map fun _ h => h
  · exact (resolve_yields owner _).map fun _ h => h
  · exact nofun

theorem lowerSpecialization_yields (owner : String) (entry : SpecializationEntry)
    (builder : Builder) :
    Yields (lowerSpecialization scope owner entry builder) fun made =>
      Writes scope builder made.2 (DeclKind.record made.1).refs := by
  refine (lowerOrigin_yields owner entry).bind fun origin ho => ?_
  refine (lowerArgs_yields owner entry.args builder).bind fun _ ha => .pure ?_
  rw [refs_specialization]
  exact (Writes.decl ho).append ha

def RecordIfBases (entry : EntryKind) (kind : DeclKind) : Prop :=
  entry.bases ≠ [] → ∃ record, kind = .record record

theorem RecordIfBases.of_nil {entry : EntryKind} (h : entry.bases = []) (kind : DeclKind) :
    RecordIfBases entry kind := fun hne => absurd h hne

theorem lowerKind_yields (owner : String) (entry : EntryKind) (builder : Builder) :
    Yields (lowerKind scope owner entry builder) fun made =>
      Writes scope builder made.2 made.1.refs ∧ RecordIfBases entry made.1 := by
  cases entry with
  | namespaceDecl => exact ⟨.nothing scope builder, .of_nil rfl _⟩
  | record keyword entry =>
    refine (resolve?_yields owner entry.origin).bind fun _ h => ⟨?_, fun _ => ⟨_, rfl⟩⟩
    simpa [DeclKind.refs] using Writes.link h
  | enumeration => exact ⟨.nothing scope builder, .of_nil rfl _⟩
  | enumConstant value => exact ⟨.nothing scope builder, .of_nil rfl _⟩
  | field spelling =>
    exact (lowerType_yields owner spelling builder).bind fun _ h => ⟨h, .of_nil rfl _⟩
  | var entry =>
    refine (lowerType_yields owner entry.type builder).bind fun _ ht => ?_
    refine (resolve?_yields owner entry.origin).bind fun _ ho => ?_
    exact ⟨ht.append (Writes.link ho), .of_nil rfl _⟩
  | parm spelling =>
    exact (lowerType_yields owner spelling builder).bind fun _ h => ⟨h, .of_nil rfl _⟩
  | function flavor entry =>
    exact (lowerFunction_yields owner flavor entry builder).bind fun _ h => ⟨h, .of_nil rfl _⟩
  | template flavor entry =>
    exact (lowerTemplate_yields owner flavor entry builder).bind fun _ h => ⟨h, .of_nil rfl _⟩
  | partialSpecialization entry =>
    exact (lowerPartial_yields owner entry builder).bind fun _ h => ⟨h, fun _ => ⟨_, rfl⟩⟩
  | specialization entry =>
    exact (lowerSpecialization_yields owner entry builder).bind fun _ h => ⟨h, fun _ => ⟨_, rfl⟩⟩
  | accessLabel => exact ⟨.nothing scope builder, .of_nil rfl _⟩
  | typedef spelling =>
    exact (lowerType_yields owner spelling builder).bind fun _ h => ⟨h, .of_nil rfl _⟩
  | typeAlias spelling =>
    exact (lowerType_yields owner spelling builder).bind fun _ h => ⟨h, .of_nil rfl _⟩
  | typeParm position => exact ⟨.nothing scope builder, .of_nil rfl _⟩
  | valueParm spelling position =>
    exact (lowerType_yields owner spelling builder).bind fun _ h => ⟨h, .of_nil rfl _⟩
  | templateParm position => exact ⟨.nothing scope builder, .of_nil rfl _⟩

theorem lowerEntry_yields (entry : Entry) (builder : Builder) :
    Yields (lowerEntry scope entry builder) fun made =>
      Writes scope builder made.2 made.1.refs ∧ RecordIfBases entry.kind made.1.kind := by
  refine (lowerKind_yields entry.id entry.kind builder).bind fun _ hk => ?_
  refine (resolve?_yields entry.id entry.parent).bind fun parent hp => ?_
  exact .pure ⟨(Writes.link hp).append hk.1, hk.2⟩

end CppIntrospect.Manifest
