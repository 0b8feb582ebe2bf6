import CppIntrospect.Proofs.LoweringInPlace
import Mathlib.Data.List.Forall2

/-! What it means that a declaration says the same as an entry of a manifest. References are
positions of the entries they name; types and expressions are looked up in the arenas of a
builder or a unit, and stay the same when more of them are added. -/

namespace CppIntrospect

/-- Types and expressions, each in the order of their ids. -/
structure Arenas where
  types : List CppType
  exprs : List Expr

def Builder.arenas (builder : Builder) : Arenas := ⟨builder.types, builder.exprs⟩

def TranslationUnit.arenas (unit : TranslationUnit) : Arenas := ⟨unit.types, unit.exprs⟩

instance : Coe Builder Arenas := ⟨Builder.arenas⟩

namespace Manifest

/-- The one entry that carries an id is at a position. -/
structure Scope.Names (scope : Scope) (target : String) (decl : DeclId) : Prop where
  carries : ∃ entry, scope.entries[decl.index]? = some entry ∧ entry.id = target
  unique : ∀ (i : Nat) (entry : Entry), scope.entries[i]? = some entry → entry.id = target →
    i = decl.index

/-- A stored type is the one that a spelling stands for, over the parameters in scope. -/
def HoldsType (scope : Scope) (arenas : Arenas) (spelling : String) (id : TypeId) : Prop :=
  ∃ type, CppType.parse? spelling = some type ∧
    arenas.types[id.index]? = some (type.substitute scope.typeParameter?)

/-- An expression as a tree. -/
inductive Term where
  | integer (value : Int)
  | mention (decl : DeclId)
  | text (text : String)
  | binary (op : BinaryOp) (lhs rhs : Term)

/-- The tree under an id, in which operands always come before their operator. -/
inductive Denotes (exprs : List Expr) (type : TypeId) : Term → ExprId → Prop where
  | integer {id : ExprId} {value : Int}
    (h : exprs[id.index]? = some ⟨.integerLiteral value, type⟩) :
    Denotes exprs type (.integer value) id
  | mention {id : ExprId} {decl : DeclId} (h : exprs[id.index]? = some ⟨.declRef decl, type⟩) :
    Denotes exprs type (.mention decl) id
  | text {id : ExprId} {text : String} (h : exprs[id.index]? = some ⟨.unexposed text, type⟩) :
    Denotes exprs type (.text text) id
  | binary {id lhs rhs : ExprId} {op : BinaryOp} {left right : Term}
    (h : exprs[id.index]? = some ⟨.binary op lhs rhs, type⟩) (hl : lhs.index < id.index)
    (hr : rhs.index < id.index) (hleft : Denotes exprs type left lhs)
    (hright : Denotes exprs type right rhs) : Denotes exprs type (.binary op left right) id

def operandTerm (scope : Scope) (token : List Char) : Term :=
  match Text.integer128? token with
  | some value => .integer value
  | none =>
    match scope.find? (String.ofList token) with
    | some decl => .mention decl
    | none => .text (String.ofList token)

/-- The tree of a text: operators group to the left, and any other text is a leaf. -/
def termOf (scope : Scope) (text : String) : Term :=
  match Text.words text.toList with
  | [] => .text (String.ofList (Text.trim text.toList))
  | token :: tokens =>
    match operations? tokens with
    | some rest =>
      rest.foldl (fun lhs (op, token) => .binary op lhs (operandTerm scope token))
        (operandTerm scope token)
    | none => .text (String.ofList (Text.trim text.toList))

-- Packs nest, so an argument and a list of arguments are related together.
mutual

inductive MirrorsArg (scope : Scope) (arenas : Arenas) : ArgumentEntry → TemplateArgument → Prop
  | null {flag : Bool} : MirrorsArg scope arenas (.null flag) .null
  | type {spelling : String} {type : TypeId} (h : HoldsType scope arenas spelling type) :
    MirrorsArg scope arenas (.type spelling) (.type type)
  | integral {value : Int64} {spelling : String} {type : TypeId}
    (h : HoldsType scope arenas spelling type) :
    MirrorsArg scope arenas (.integral value spelling) (.integral value.toInt type)
  | decl {id : String} {decl : DeclId} (h : scope.Names id decl) :
    MirrorsArg scope arenas (.decl id) (.declaration decl)
  | template {id : String} {decl : DeclId} (h : scope.Names id decl) :
    MirrorsArg scope arenas (.template id) (.template decl)
  | expansion {id : String} {decl : DeclId} (h : scope.Names id decl) :
    MirrorsArg scope arenas (.expansion id) (.templateExpansion decl)
  | expression {text spelling : String} {type : TypeId} {expr : ExprId}
    (h : HoldsType scope arenas spelling type)
    (he : Denotes arenas.exprs type (termOf scope text) expr) :
    MirrorsArg scope arenas (.expression text spelling) (.expression expr)
  | pack {elements : List ArgumentEntry} {args : List TemplateArgument}
    (h : MirrorsArgs scope arenas elements args) :
    MirrorsArg scope arenas (.pack elements) (.pack args)

inductive MirrorsArgs (scope : Scope) (arenas : Arenas) :
    List ArgumentEntry → List TemplateArgument → Prop
  | nil : MirrorsArgs scope arenas [] []
  | cons {entry : ArgumentEntry} {entries : List ArgumentEntry} {arg : TemplateArgument}
    {args : List TemplateArgument} (h : MirrorsArg scope arenas entry arg)
    (hs : MirrorsArgs scope arenas entries args) :
    MirrorsArgs scope arenas (entry :: entries) (arg :: args)

end

/-- The link of a function. A pattern is a function without a link of its own. -/
inductive MirrorsTemplating (scope : Scope) (arenas : Arenas) (entry : FunctionEntry) :
    FunctionTemplating → Prop
  | nonTemplate (hs : entry.specializes = none) (ho : entry.origin = none)
    (hc : entry.candidates = []) : MirrorsTemplating scope arenas entry .nonTemplate
  | pattern {template : DeclId} (hs : entry.specializes = none) (ho : entry.origin = none)
    (hc : entry.candidates = []) : MirrorsTemplating scope arenas entry (.pattern template)
  | specialization {target : String} {primary : DeclId} {args : List TemplateArgument}
    (hs : entry.specializes = some target) (ho : entry.origin = none)
    (hc : entry.candidates = []) (h : scope.Names target primary)
    (ha : MirrorsArgs scope arenas entry.args args) :
    MirrorsTemplating scope arenas entry (.specialization primary args)
  | member {target : String} {origin : DeclId} {args : List TemplateArgument}
    (hs : entry.specializes = none) (ho : entry.origin = some target)
    (hc : entry.candidates = []) (h : scope.Names target origin)
    (ha : MirrorsArgs scope arenas entry.args args) :
    MirrorsTemplating scope arenas entry (.member origin args)
  | dependent {candidates : List DeclId} {args : List TemplateArgument}
    (hs : entry.specializes = none) (ho : entry.origin = none) (hc : entry.candidates ≠ [])
    (h : List.Forall₂ scope.Names entry.candidates candidates)
    (ha : MirrorsArgs scope arenas entry.args args) :
    MirrorsTemplating scope arenas entry (.dependent candidates args)

inductive MirrorsOrigin (scope : Scope) (entry : SpecializationEntry) : SpecializedFrom → Prop
  | primary {target : String} {decl : DeclId} (hp : entry.primary = some target)
    (hn : entry.pattern = none) (h : scope.Names target decl) :
    MirrorsOrigin scope entry (.primary decl)
  | partialSpecialization {target : String} {decl : DeclId} (hn : entry.primary = none)
    (hp : entry.pattern = some target) (h : scope.Names target decl) :
    MirrorsOrigin scope entry (.partialSpecialization decl)

/-- The kind of a declaration is the written one, whatever base specifiers are attached. -/
inductive MirrorsKind (scope : Scope) (arenas : Arenas) : EntryKind → DeclKind → Prop
  | namespaceDecl : MirrorsKind scope arenas .namespaceDecl .namespaceDecl
  | record {keyword : RecordKeyword} {entry : RecordEntry} {bases : List BaseId}
    {origin : Option DeclId} (h : Option.Rel scope.Names entry.origin origin) :
    MirrorsKind scope arenas (.record keyword entry) (.record ⟨keyword.tag, bases, origin, none⟩)
  | enumeration : MirrorsKind scope arenas .enumeration .enumeration
  | enumConstant {value : Int64} :
    MirrorsKind scope arenas (.enumConstant value) (.enumConstant value.toInt)
  | field {spelling : String} {type : TypeId} (h : HoldsType scope arenas spelling type) :
    MirrorsKind scope arenas (.field spelling) (.field type)
  | var {entry : VarEntry} {type : TypeId} {origin : Option DeclId}
    (h : HoldsType scope arenas entry.type type)
    (ho : Option.Rel scope.Names entry.origin origin) :
    MirrorsKind scope arenas (.var entry) (.var ⟨type, entry.isStaticMember, origin⟩)
  | parm {spelling : String} {type : TypeId} (h : HoldsType scope arenas spelling type) :
    MirrorsKind scope arenas (.parm spelling) (.parm type)
  | function {flavor : FunctionFlavor} {entry : FunctionEntry} {returns : TypeId}
    {params : List DeclId} {templating : FunctionTemplating}
    (h : HoldsType scope arenas (entry.returns.getD "void") returns)
    (hp : List.Forall₂ scope.Names entry.params params)
    (ht : MirrorsTemplating scope arenas entry templating) :
    MirrorsKind scope arenas (.function flavor entry)
      (.function ⟨flavor, returns, params, templating⟩)
  | template {flavor : TemplateFlavor} {entry : TemplateEntry} {templated : DeclId}
    {params : List DeclId} {origin : Option DeclId} (h : scope.Names entry.templated templated)
    (hp : List.Forall₂ scope.Names entry.params params)
    (ho : Option.Rel scope.Names entry.origin origin) :
    MirrorsKind scope arenas (.template flavor entry)
      (.template ⟨flavor, templated, params, origin⟩)
  | partialSpecialization {entry : PartialEntry} {bases : List BaseId} {template : DeclId}
    {params : List DeclId} {args : List TemplateArgument} (h : scope.Names entry.template template)
    (hp : List.Forall₂ scope.Names entry.params params)
    (ha : MirrorsArgs scope arenas entry.args args) :
    MirrorsKind scope arenas (.partialSpecialization entry)
      (.record ⟨entry.tag, bases, none, some (.ofPattern template params args)⟩)
  | specialization {entry : SpecializationEntry} {bases : List BaseId} {origin : SpecializedFrom}
    {args : List TemplateArgument} (h : MirrorsOrigin scope entry origin)
    (ha : MirrorsArgs scope arenas entry.args args) :
    MirrorsKind scope arenas (.specialization entry)
      (.record ⟨entry.tag, bases, none, some (.full origin args)⟩)
  | accessLabel : MirrorsKind scope arenas .accessLabel .accessLabel
  | typedef {spelling : String} {type : TypeId} (h : HoldsType scope arenas spelling type) :
    MirrorsKind scope arenas (.typedef spelling) (.typedef type)
  | typeAlias {spelling : String} {type : TypeId} (h : HoldsType scope arenas spelling type) :
    MirrorsKind scope arenas (.typeAlias spelling) (.typeAlias type)
  | typeParm {position : ParmPosition} :
    MirrorsKind scope arenas (.typeParm position) (.typeParm position)
  | valueParm {spelling : String} {position : ParmPosition} {type : TypeId}
    (h : HoldsType scope arenas spelling type) :
    MirrorsKind scope arenas (.valueParm spelling position) (.valueParm type position)
  | templateParm {position : ParmPosition} :
    MirrorsKind scope arenas (.templateParm position) (.templateParm position)

/-- The base specifiers that a declaration lists. -/
def listedBases : DeclKind → List BaseId
  | .record record => record.bases
  | _ => []

/-- A declaration says what an entry says. -/
structure Mirrors (scope : Scope) (arenas : Arenas) (entry : Entry) (decl : Decl) : Prop where
  name : decl.name = entry.declName
  access : decl.access = (entry.access.map AccessKeyword.access).getD .unspecified
  parent : Option.Rel scope.Names entry.parent decl.parent
  kind : MirrorsKind scope arenas entry.kind decl.kind

/-- A builder with more types and expressions, and perhaps other nodes. -/
structure Richer (builder next : Builder) : Prop where
  types : builder.types <+: next.types
  exprs : builder.exprs <+: next.exprs

/-- A builder with more types and expressions, and nothing else changed. -/
structure Grows (builder next : Builder) : Prop extends Richer builder next where
  name : next.name = builder.name
  decls : next.decls = builder.decls
  bases : next.bases = builder.bases

variable {scope : Scope} {builder middle next : Builder}

theorem Richer.refl (builder : Builder) : Richer builder builder :=
  ⟨List.prefix_rfl, List.prefix_rfl⟩

theorem Richer.trans (h : Richer builder middle) (h' : Richer middle next) : Richer builder next :=
  ⟨h.types.trans h'.types, h.exprs.trans h'.exprs⟩

theorem Grows.refl (builder : Builder) : Grows builder builder := ⟨.refl builder, rfl, rfl, rfl⟩

theorem Grows.trans (h : Grows builder middle) (h' : Grows middle next) : Grows builder next :=
  ⟨h.toRicher.trans h'.toRicher, h'.name.trans h.name, h'.decls.trans h.decls,
    h'.bases.trans h.bases⟩

theorem getElem?_extend {α : Type} {s t : List α} (h : s <+: t) {i : Nat} {a : α}
    (hi : s[i]? = some a) : t[i]? = some a := by
  obtain ⟨hlt, rfl⟩ := List.getElem?_eq_some_iff.mp hi
  exact List.prefix_iff_getElem?.mp h i hlt

theorem HoldsType.mono {spelling : String} {id : TypeId} (h : HoldsType scope builder spelling id)
    (hg : Richer builder next) : HoldsType scope next spelling id := by
  obtain ⟨type, hp, hi⟩ := h
  exact ⟨type, hp, getElem?_extend hg.types hi⟩

theorem Denotes.mono {exprs more : List Expr} {type : TypeId} {term : Term} {id : ExprId}
    (h : Denotes exprs type term id) (hg : exprs <+: more) : Denotes more type term id := by
  induction h with
  | integer h => exact .integer (getElem?_extend hg h)
  | mention h => exact .mention (getElem?_extend hg h)
  | text h => exact .text (getElem?_extend hg h)
  | binary h hl hr _ _ left right => exact .binary (getElem?_extend hg h) hl hr left right

mutual

theorem MirrorsArg.mono (hg : Richer builder next) {entry : ArgumentEntry}
    {arg : TemplateArgument} :
    MirrorsArg scope builder entry arg → MirrorsArg scope next entry arg
  | .null => .null
  | .type h => .type (h.mono hg)
  | .integral h => .integral (h.mono hg)
  | .decl h => .decl h
  | .template h => .template h
  | .expansion h => .expansion h
  | .expression h he => .expression (h.mono hg) (he.mono hg.exprs)
  | .pack h => .pack (h.mono hg)

theorem MirrorsArgs.mono (hg : Richer builder next) {entries : List ArgumentEntry}
    {args : List TemplateArgument} :
    MirrorsArgs scope builder entries args → MirrorsArgs scope next entries args
  | .nil => .nil
  | .cons h hs => .cons (h.mono hg) (hs.mono hg)

end

theorem MirrorsArgs.forall₂ {arenas : Arenas} {entries : List ArgumentEntry}
    {args : List TemplateArgument} :
    MirrorsArgs scope arenas entries args → List.Forall₂ (MirrorsArg scope arenas) entries args
  | .nil => .nil
  | .cons h hs => .cons h hs.forall₂

theorem MirrorsTemplating.mono {entry : FunctionEntry} {templating : FunctionTemplating}
    (h : MirrorsTemplating scope builder entry templating) (hg : Richer builder next) :
    MirrorsTemplating scope next entry templating := by
  cases h with
  | nonTemplate hs ho hc => exact .nonTemplate hs ho hc
  | pattern hs ho hc => exact .pattern hs ho hc
  | specialization hs ho hc h ha => exact .specialization hs ho hc h (ha.mono hg)
  | member hs ho hc h ha => exact .member hs ho hc h (ha.mono hg)
  | dependent hs ho hc h ha => exact .dependent hs ho hc h (ha.mono hg)

theorem MirrorsKind.mono {entry : EntryKind} {kind : DeclKind}
    (h : MirrorsKind scope builder entry kind) (hg : Richer builder next) :
    MirrorsKind scope next entry kind := by
  cases h with
  | namespaceDecl => exact .namespaceDecl
  | record h => exact .record h
  | enumeration => exact .enumeration
  | enumConstant => exact .enumConstant
  | field h => exact .field (h.mono hg)
  | var h ho => exact .var (h.mono hg) ho
  | parm h => exact .parm (h.mono hg)
  | function h hp hl => exact .function (h.mono hg) hp (hl.mono hg)
  | template h hp ho => exact .template h hp ho
  | partialSpecialization h hp ha => exact .partialSpecialization h hp (ha.mono hg)
  | specialization h ha => exact .specialization h (ha.mono hg)
  | accessLabel => exact .accessLabel
  | typedef h => exact .typedef (h.mono hg)
  | typeAlias h => exact .typeAlias (h.mono hg)
  | typeParm => exact .typeParm
  | valueParm h => exact .valueParm (h.mono hg)
  | templateParm => exact .templateParm

theorem Mirrors.mono {entry : Entry} {decl : Decl} (h : Mirrors scope builder entry decl)
    (hg : Richer builder next) : Mirrors scope next entry decl :=
  ⟨h.name, h.access, h.parent, h.kind.mono hg⟩

end Manifest

end CppIntrospect
