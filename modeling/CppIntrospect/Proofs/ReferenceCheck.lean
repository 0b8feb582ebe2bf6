import CppIntrospect.Proofs.StoreView
import Mathlib.Data.List.Pairwise

/-! The ids that the nodes of a unit store, told field by field, and what the check of a
builder has to do with them: it accepts a builder exactly when all of them are in range,
and otherwise blames the first node that holds one out of range. -/

namespace CppIntrospect

/-- An argument mentions an id, at any depth of packs. -/
inductive TemplateArgument.Mentions : TemplateArgument → Ref → Prop
  | type {id : TypeId} : Mentions (.type id) (.type id)
  | declaration {id : DeclId} : Mentions (.declaration id) (.decl id)
  | integral {value : Int} {id : TypeId} : Mentions (.integral value id) (.type id)
  | template {id : DeclId} : Mentions (.template id) (.decl id)
  | templateExpansion {id : DeclId} : Mentions (.templateExpansion id) (.decl id)
  | expression {id : ExprId} : Mentions (.expression id) (.expr id)
  | pack {elements : List TemplateArgument} {arg : TemplateArgument} {ref : Ref} :
    arg ∈ elements → Mentions arg ref → Mentions (.pack elements) ref

inductive ClassSpecialization.Mentions : ClassSpecialization → Ref → Prop
  | origin {origin : SpecializedFrom} {args : List TemplateArgument} :
    Mentions (.full origin args) (.decl origin.decl)
  | argument {origin : SpecializedFrom} {args : List TemplateArgument} {arg : TemplateArgument}
    {ref : Ref} : arg ∈ args → arg.Mentions ref → Mentions (.full origin args) ref
  | template {template : DeclId} {params : List DeclId} {args : List TemplateArgument} :
    Mentions (.ofPattern template params args) (.decl template)
  | param {template param : DeclId} {params : List DeclId} {args : List TemplateArgument} :
    param ∈ params → Mentions (.ofPattern template params args) (.decl param)
  | patternArgument {template : DeclId} {params : List DeclId} {args : List TemplateArgument}
    {arg : TemplateArgument} {ref : Ref} :
    arg ∈ args → arg.Mentions ref → Mentions (.ofPattern template params args) ref

inductive FunctionTemplating.Mentions : FunctionTemplating → Ref → Prop
  | pattern {template : DeclId} : Mentions (.pattern template) (.decl template)
  | member {origin : DeclId} {args : List TemplateArgument} :
    Mentions (.member origin args) (.decl origin)
  | memberArgument {origin : DeclId} {args : List TemplateArgument} {arg : TemplateArgument}
    {ref : Ref} : arg ∈ args → arg.Mentions ref → Mentions (.member origin args) ref
  | primary {primary : DeclId} {args : List TemplateArgument} :
    Mentions (.specialization primary args) (.decl primary)
  | primaryArgument {primary : DeclId} {args : List TemplateArgument} {arg : TemplateArgument}
    {ref : Ref} : arg ∈ args → arg.Mentions ref → Mentions (.specialization primary args) ref
  | candidate {candidate : DeclId} {candidates : List DeclId} {args : List TemplateArgument} :
    candidate ∈ candidates → Mentions (.dependent candidates args) (.decl candidate)
  | candidateArgument {candidates : List DeclId} {args : List TemplateArgument}
    {arg : TemplateArgument} {ref : Ref} :
    arg ∈ args → arg.Mentions ref → Mentions (.dependent candidates args) ref

inductive DeclKind.Mentions : DeclKind → Ref → Prop
  | memberClass {record : RecordDecl} {id : DeclId} :
    record.memberOrigin = some id → Mentions (.record record) (.decl id)
  | specialization {record : RecordDecl} {link : ClassSpecialization} {ref : Ref} :
    record.specialization = some link → link.Mentions ref → Mentions (.record record) ref
  | field {id : TypeId} : Mentions (.field id) (.type id)
  | parm {id : TypeId} : Mentions (.parm id) (.type id)
  | typedef {id : TypeId} : Mentions (.typedef id) (.type id)
  | typeAlias {id : TypeId} : Mentions (.typeAlias id) (.type id)
  | valueParm {id : TypeId} {position : ParmPosition} : Mentions (.valueParm id position) (.type id)
  | varType {var : VarDecl} : Mentions (.var var) (.type var.type)
  | varOrigin {var : VarDecl} {id : DeclId} :
    var.origin = some id → Mentions (.var var) (.decl id)
  | returns {function : FunctionDecl} : Mentions (.function function) (.type function.returns)
  | functionParam {function : FunctionDecl} {id : DeclId} :
    id ∈ function.params → Mentions (.function function) (.decl id)
  | templating {function : FunctionDecl} {ref : Ref} :
    function.templating.Mentions ref → Mentions (.function function) ref
  | templated {template : TemplateDecl} : Mentions (.template template) (.decl template.templated)
  | templateParam {template : TemplateDecl} {id : DeclId} :
    id ∈ template.params → Mentions (.template template) (.decl id)
  | memberTemplate {template : TemplateDecl} {id : DeclId} :
    template.memberOrigin = some id → Mentions (.template template) (.decl id)

inductive Decl.Mentions : Decl → Ref → Prop
  | parent {decl : Decl} {id : DeclId} : decl.parent = some id → Mentions decl (.decl id)
  | kind {decl : Decl} {ref : Ref} : decl.kind.Mentions ref → Mentions decl ref

inductive BaseSpecifier.Mentions : BaseSpecifier → Ref → Prop
  | type {base : BaseSpecifier} : Mentions base (.type base.type)
  | owner {base : BaseSpecifier} : Mentions base (.decl base.owner)

inductive Expr.Mentions : Expr → Ref → Prop
  | type {expr : Expr} : Mentions expr (.type expr.type)
  | referenced {expr : Expr} {id : DeclId} : expr.kind = .declRef id → Mentions expr (.decl id)
  | left {expr : Expr} {op : BinaryOp} {lhs rhs : ExprId} :
    expr.kind = .binary op lhs rhs → Mentions expr (.expr lhs)
  | right {expr : Expr} {op : BinaryOp} {lhs rhs : ExprId} :
    expr.kind = .binary op lhs rhs → Mentions expr (.expr rhs)

inductive Builder.Stores (builder : Builder) : Owner → Ref → Prop
  | decl {i : Nat} {decl : Decl} {ref : Ref} : builder.decls[i]? = some decl →
    decl.Mentions ref → Stores builder (.decl ⟨i⟩ decl.name) ref
  | base {i : Nat} {base : BaseSpecifier} {ref : Ref} : builder.bases[i]? = some base →
    base.Mentions ref → Stores builder (.base ⟨i⟩) ref
  | expr {i : Nat} {expr : Expr} {ref : Ref} : builder.exprs[i]? = some expr →
    expr.Mentions ref → Stores builder (.expr ⟨i⟩) ref

def Builder.InRange (builder : Builder) : Ref → Prop
  | .decl id => id.index < builder.decls.length
  | .type id => id.index < builder.types.length
  | .expr id => id.index < builder.exprs.length

/-- An error says that a node holds an id that is out of range, each sort in its own way. -/
inductive UnitError.Blames : UnitError → Owner → Ref → Prop
  | decl {owner : Owner} {id : DeclId} : Blames (.danglingDecl owner id) owner (.decl id)
  | type {owner : Owner} {id : TypeId} : Blames (.danglingType owner id) owner (.type id)
  | expr {owner : Owner} {id : ExprId} : Blames (.danglingExpr owner id) owner (.expr id)

/-- Declarations come first, then base specifiers, then expressions, each by id. -/
def Owner.Precedes : Owner → Owner → Prop
  | .decl i _, .decl j _ => i.index < j.index
  | .base i, .base j => i.index < j.index
  | .expr i, .expr j => i.index < j.index
  | .decl _ _, .base _ => True
  | .decl _ _, .expr _ => True
  | .base _, .expr _ => True
  | _, _ => False

@[grind =]
theorem TemplateArgument.mem_refsOfList_iff {ref : Ref} {args : List TemplateArgument} :
    ref ∈ TemplateArgument.refsOfList args ↔ ∃ arg ∈ args, ref ∈ arg.refs := by
  induction args with
  | nil => simp [refsOfList]
  | cons arg args ih => simp [refsOfList, ih]

theorem TemplateArgument.Mentions.mem_refs {ref : Ref} {arg : TemplateArgument}
    (h : arg.Mentions ref) : ref ∈ arg.refs := by
  induction h with
  | pack ha _ ih => exact mem_refsOfList_iff.mpr ⟨_, ha, ih⟩
  | _ => exact List.mem_singleton_self _

-- An argument and the list of a pack recurse through each other.
mutual

theorem TemplateArgument.mentions_of_mem {ref : Ref} :
    ∀ {arg : TemplateArgument}, ref ∈ arg.refs → arg.Mentions ref
  | .type _, h => List.mem_singleton.mp h ▸ .type
  | .declaration _, h => List.mem_singleton.mp h ▸ .declaration
  | .integral _ _, h => List.mem_singleton.mp h ▸ .integral
  | .template _, h => List.mem_singleton.mp h ▸ .template
  | .templateExpansion _, h => List.mem_singleton.mp h ▸ .templateExpansion
  | .expression _, h => List.mem_singleton.mp h ▸ .expression
  | .pack _, h =>
    have ⟨_, ha, hm⟩ := TemplateArgument.mentions_of_mem_list h
    .pack ha hm

theorem TemplateArgument.mentions_of_mem_list {ref : Ref} :
    ∀ {args : List TemplateArgument}, ref ∈ TemplateArgument.refsOfList args →
      ∃ arg ∈ args, arg.Mentions ref
  | arg :: args, h => by
    rcases List.mem_append.mp h with h | h
    · exact ⟨arg, List.mem_cons_self, TemplateArgument.mentions_of_mem h⟩
    · obtain ⟨found, ha, hm⟩ := TemplateArgument.mentions_of_mem_list h
      exact ⟨found, List.mem_cons_of_mem _ ha, hm⟩

end

@[grind =]
theorem TemplateArgument.mem_refs_iff {ref : Ref} {arg : TemplateArgument} :
    ref ∈ arg.refs ↔ arg.Mentions ref :=
  ⟨TemplateArgument.mentions_of_mem, Mentions.mem_refs⟩

@[grind =]
theorem ClassSpecialization.mem_refs_iff {ref : Ref} {link : ClassSpecialization} :
    ref ∈ link.refs ↔ link.Mentions ref := by
  constructor
  · cases link <;> grind [refs, Mentions]
  · intro h
    cases h <;> grind [refs]

@[grind =]
theorem FunctionTemplating.mem_refs_iff {ref : Ref} {templating : FunctionTemplating} :
    ref ∈ templating.refs ↔ templating.Mentions ref := by
  constructor
  · cases templating <;> grind [refs, Mentions]
  · intro h
    cases h <;> grind [refs]

@[grind =]
theorem DeclKind.mem_refs_iff {ref : Ref} {kind : DeclKind} :
    ref ∈ kind.refs ↔ kind.Mentions ref := by
  constructor
  · cases kind <;> grind [refs, Mentions]
  · intro h
    cases h <;> grind [refs]

theorem Decl.mem_refs_iff {ref : Ref} {decl : Decl} : ref ∈ decl.refs ↔ decl.Mentions ref := by
  constructor
  · grind [refs, Mentions]
  · intro h
    cases h <;> grind [refs]

theorem BaseSpecifier.mem_refs_iff {ref : Ref} {base : BaseSpecifier} :
    ref ∈ base.refs ↔ base.Mentions ref := by
  constructor
  · grind [refs, Mentions]
  · intro h
    cases h <;> simp [refs]

theorem Expr.mem_refs_iff {ref : Ref} {expr : Expr} : ref ∈ expr.refs ↔ expr.Mentions ref := by
  constructor
  · cases hk : expr.kind <;> grind [refs, ExprKind.refs, Mentions]
  · intro h
    cases h <;> simp_all [refs, ExprKind.refs]

namespace Builder

variable {builder : Builder} {owner : Owner} {ref : Ref}

theorem holds_iff : builder.holds ref = true ↔ builder.InRange ref := by
  cases ref <;> simp [holds, InRange]

theorem stores_iff_nodes :
    builder.Stores owner ref ↔ ∃ refs, (owner, refs) ∈ builder.nodes ∧ ref ∈ refs := by
  constructor
  · intro h
    simp only [nodes, List.mem_append, List.mem_map]
    cases h with
    | @decl i decl _ hi hm =>
      exact ⟨_, .inl (.inl ⟨(decl, i), List.mem_zipIdx_iff_getElem?.mpr hi, rfl⟩),
        Decl.mem_refs_iff.mpr hm⟩
    | @base i base _ hi hm =>
      exact ⟨_, .inl (.inr ⟨(base, i), List.mem_zipIdx_iff_getElem?.mpr hi, rfl⟩),
        BaseSpecifier.mem_refs_iff.mpr hm⟩
    | @expr i expr _ hi hm =>
      exact ⟨_, .inr ⟨(expr, i), List.mem_zipIdx_iff_getElem?.mpr hi, rfl⟩,
        Expr.mem_refs_iff.mpr hm⟩
  · rintro ⟨refs, hn, hr⟩
    simp only [nodes, List.mem_append, List.mem_map] at hn
    rcases hn with (⟨⟨node, i⟩, hi, he⟩ | ⟨⟨node, i⟩, hi, he⟩) | ⟨⟨node, i⟩, hi, he⟩
    · obtain ⟨rfl, rfl⟩ := Prod.mk.inj he
      exact .decl (List.mem_zipIdx_iff_getElem?.mp hi) (Decl.mem_refs_iff.mp hr)
    · obtain ⟨rfl, rfl⟩ := Prod.mk.inj he
      exact .base (List.mem_zipIdx_iff_getElem?.mp hi) (BaseSpecifier.mem_refs_iff.mp hr)
    · obtain ⟨rfl, rfl⟩ := Prod.mk.inj he
      exact .expr (List.mem_zipIdx_iff_getElem?.mp hi) (Expr.mem_refs_iff.mp hr)

theorem zipIdx_ordered {α : Type} (nodes : List α) :
    nodes.zipIdx.Pairwise (fun a b => a.2 < b.2) := by
  have h : (nodes.zipIdx.map Prod.snd).Pairwise (· < ·) := by
    rw [List.zipIdx_map_snd]
    exact List.pairwise_lt_range'
  exact List.pairwise_map.mp h

theorem nodes_ordered (builder : Builder) :
    builder.nodes.Pairwise (fun a b => a.1.Precedes b.1) := by
  simp only [nodes, List.pairwise_append, List.pairwise_map, List.mem_append, List.mem_map]
  refine ⟨⟨?_, ?_, ?_⟩, ?_, ?_⟩
  · exact (zipIdx_ordered builder.decls).imp id
  · exact (zipIdx_ordered builder.bases).imp id
  · rintro _ ⟨_, _, rfl⟩ _ ⟨_, _, rfl⟩
    trivial
  · exact (zipIdx_ordered builder.exprs).imp id
  · rintro _ (⟨_, _, rfl⟩ | ⟨_, _, rfl⟩) _ ⟨_, _, rfl⟩ <;> trivial

theorem firstFault_eq_none_iff :
    builder.firstFault = none ↔ ∀ owner ref, builder.Stores owner ref → builder.InRange ref := by
  simp only [firstFault, List.findSome?_eq_none_iff, Option.map_eq_none_iff, List.find?_eq_none]
  constructor
  · intro h owner ref hs
    obtain ⟨refs, hn, hr⟩ := stores_iff_nodes.mp hs
    exact holds_iff.mp (by simpa using h _ hn ref hr)
  · rintro h ⟨owner, refs⟩ hn ref hr
    simpa using holds_iff.mpr (h owner ref (stores_iff_nodes.mpr ⟨refs, hn, hr⟩))

theorem dangling_blames (owner : Owner) (ref : Ref) : (ref.dangling owner).Blames owner ref := by
  cases ref
  · exact .decl
  · exact .type
  · exact .expr

theorem firstFault_blames {fault : UnitError} (h : builder.firstFault = some fault) :
    ∃ owner ref, fault.Blames owner ref ∧ builder.Stores owner ref ∧ ¬ builder.InRange ref ∧
      ∀ other ref', builder.Stores other ref' → ¬ builder.InRange ref' →
        other = owner ∨ owner.Precedes other := by
  obtain ⟨before, ⟨owner, refs⟩, after, hn, hf, hb⟩ := List.findSome?_eq_some_iff.mp h
  obtain ⟨ref, hr, rfl⟩ := Option.map_eq_some_iff.mp hf
  have hmem : (owner, refs) ∈ builder.nodes := by simp [hn]
  have hout : ¬ builder.InRange ref := by
    have hh := List.find?_some hr
    rw [← holds_iff]
    simpa using hh
  refine ⟨owner, ref, dangling_blames owner ref,
    stores_iff_nodes.mpr ⟨refs, hmem, List.mem_of_find?_eq_some hr⟩, hout, ?_⟩
  intro other ref' hs hout'
  obtain ⟨refs', hn', hr'⟩ := stores_iff_nodes.mp hs
  rw [hn] at hn'
  rcases List.mem_append.mp hn' with hlt | hge
  · -- A node before the blamed one has nothing out of range.
    have hh := hb _ hlt
    simp only [Option.map_eq_none_iff, List.find?_eq_none] at hh
    exact absurd (holds_iff.mp (by simpa using hh ref' hr')) hout'
  · rcases List.mem_cons.mp hge with heq | hgt
    · exact .inl (congrArg Prod.fst heq)
    · have ho := builder.nodes_ordered
      rw [hn] at ho
      exact .inr ((List.pairwise_cons.mp (List.pairwise_append.mp ho).2.1).1 _ hgt)

theorem build_eq_ok_iff {id : UnitId} :
    (∃ unit, builder.build id = .ok unit) ↔ builder.firstFault = none := by
  unfold build
  cases builder.firstFault <;> simp

theorem build_eq_error_iff {id : UnitId} {fault : UnitError} :
    builder.build id = .error fault ↔ builder.firstFault = some fault := by
  unfold build
  cases builder.firstFault <;> simp

end Builder

/-- A store accepts a builder exactly when every id stored in it is in range. Otherwise the
error has the sort of its target, the target is out of range and stored in the node that the
error names, and no node before that one holds an id out of range. -/
theorem Store.add_accepts_iff (store : Store) (builder : Builder) :
    ((∃ id, (store.add builder).1 = .ok id) ↔
      ∀ owner ref, builder.Stores owner ref → builder.InRange ref) ∧
    ∀ fault, (store.add builder).1 = .error fault →
      ∃ owner ref, fault.Blames owner ref ∧ builder.Stores owner ref ∧ ¬ builder.InRange ref ∧
        ∀ other ref', builder.Stores other ref' → ¬ builder.InRange ref' →
          other = owner ∨ owner.Precedes other := by
  rw [← Builder.firstFault_eq_none_iff]
  rcases store.add_cases builder with ⟨fault, hb, ha, _⟩ | ⟨unit, hb, ha, _⟩
  · have hf := Builder.build_eq_error_iff.mp hb
    refine ⟨by simp [ha, hf], ?_⟩
    intro fault' h
    obtain rfl : fault = fault' := by simpa [ha] using h
    exact Builder.firstFault_blames hf
  · refine ⟨by simp [ha, Builder.build_eq_ok_iff.mp ⟨unit, hb⟩], ?_⟩
    intro fault' h
    simp [ha] at h

/-- The second declaration holds an unknown type two packs deep, and an expression holds an
unknown declaration: the declaration is blamed. -/
theorem Store.add_blames_first :
    let link : ClassSpecialization := .full (.primary ⟨0⟩) [.null, .pack [.pack [.type ⟨7⟩]]]
    let builder : Builder :=
      { name := "a.cpp"
        decls := [{ name := "Box", kind := .namespaceDecl },
          { name := "Pair", kind := .record { tag := .structTag, specialization := some link } }]
        types := [.builtin .void]
        exprs := [⟨.declRef ⟨9⟩, ⟨0⟩⟩] }
    (Store.empty.add builder).1 = .error (.danglingType (.decl ⟨1⟩ "Pair") ⟨7⟩) ∧
      ¬ (∀ owner ref, builder.Stores owner ref → builder.InRange ref) ∧
      ∃ owner ref, (UnitError.danglingType (.decl ⟨1⟩ "Pair") ⟨7⟩).Blames owner ref ∧
        builder.Stores owner ref ∧ ¬ builder.InRange ref := by
  intro link builder
  have he : (Store.empty.add builder).1 = .error (.danglingType (.decl ⟨1⟩ "Pair") ⟨7⟩) :=
    rfl
  have h := Store.add_accepts_iff Store.empty builder
  refine ⟨he, fun hall => ?_, ?_⟩
  · obtain ⟨id, hok⟩ := h.1.mpr hall
    simp [he] at hok
  · obtain ⟨owner, ref, hb, hs, ho, _⟩ := h.2 _ he
    exact ⟨owner, ref, hb, hs, ho⟩

end CppIntrospect
