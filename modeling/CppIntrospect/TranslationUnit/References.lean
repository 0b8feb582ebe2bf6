import CppIntrospect.TranslationUnit.Builder

/-! The references between the nodes of a unit, and the check that each of them names
an existing node. References are listed in the order in which they are checked:
declarations, base specifiers, expressions, and within a node as they are written. -/

namespace CppIntrospect

/-- A stored id. -/
inductive Ref where
  | decl (id : DeclId)
  | type (id : TypeId)
  | expr (id : ExprId)
  deriving DecidableEq, Repr

mutual

def TemplateArgument.refs : TemplateArgument → List Ref
  | .null => []
  | .type id => [.type id]
  | .declaration decl => [.decl decl]
  | .integral _ id => [.type id]
  | .template decl => [.decl decl]
  | .templateExpansion decl => [.decl decl]
  | .expression expr => [.expr expr]
  | .pack elements => TemplateArgument.refsOfList elements

def TemplateArgument.refsOfList : List TemplateArgument → List Ref
  | [] => []
  | arg :: args => arg.refs ++ TemplateArgument.refsOfList args

end

def ClassSpecialization.refs : ClassSpecialization → List Ref
  | .full origin args => .decl origin.decl :: TemplateArgument.refsOfList args
  | .ofPattern template params args =>
    .decl template :: params.map Ref.decl ++ TemplateArgument.refsOfList args

def FunctionTemplating.refs : FunctionTemplating → List Ref
  | .nonTemplate => []
  | .pattern template => [.decl template]
  | .member origin args => .decl origin :: TemplateArgument.refsOfList args
  | .specialization primary args => .decl primary :: TemplateArgument.refsOfList args
  | .dependent candidates args => candidates.map Ref.decl ++ TemplateArgument.refsOfList args

/-- The base specifiers listed in a record are not references: adding a base specifier
is what puts them there. -/
def DeclKind.refs : DeclKind → List Ref
  | .record r =>
    r.memberOrigin.toList.map Ref.decl ++ r.specialization.toList.flatMap ClassSpecialization.refs
  | .field type => [.type type]
  | .parm type => [.type type]
  | .typedef type => [.type type]
  | .typeAlias type => [.type type]
  | .valueParm type _ => [.type type]
  | .var v => .type v.type :: v.origin.toList.map Ref.decl
  | .function f => .type f.returns :: f.params.map Ref.decl ++ f.templating.refs
  | .template t =>
    .decl t.templated :: t.params.map Ref.decl ++ t.memberOrigin.toList.map Ref.decl
  | .namespaceDecl => []
  | .enumeration => []
  | .enumConstant _ => []
  | .accessLabel => []
  | .typeParm _ => []
  | .templateParm _ => []

def Decl.refs (decl : Decl) : List Ref := decl.parent.toList.map Ref.decl ++ decl.kind.refs

def BaseSpecifier.refs (base : BaseSpecifier) : List Ref := [.type base.type, .decl base.owner]

def ExprKind.refs : ExprKind → List Ref
  | .declRef decl => [.decl decl]
  | .binary _ lhs rhs => [.expr lhs, .expr rhs]
  | .integerLiteral _ => []
  | .unexposed _ => []

def Expr.refs (expr : Expr) : List Ref := .type expr.type :: expr.kind.refs

/-- The error of a reference that names no node. -/
def Ref.dangling (owner : Owner) : Ref → UnitError
  | .decl id => .danglingDecl owner id
  | .type id => .danglingType owner id
  | .expr id => .danglingExpr owner id

namespace Builder

/-- Whether a reference names an existing node. -/
def holds (builder : Builder) : Ref → Bool
  | .decl id => id.index < builder.decls.length
  | .type id => id.index < builder.types.length
  | .expr id => id.index < builder.exprs.length

/-- The nodes that hold references, each with its own, in the order of the check. -/
def nodes (builder : Builder) : List (Owner × List Ref) :=
  builder.decls.zipIdx.map (fun (decl, i) => (.decl ⟨i⟩ decl.name, decl.refs)) ++
    builder.bases.zipIdx.map (fun (base, i) => (.base ⟨i⟩, base.refs)) ++
    builder.exprs.zipIdx.map (fun (expr, i) => (.expr ⟨i⟩, expr.refs))

/-- The first reference that names no node, as an error of the node that holds it. -/
def firstFault (builder : Builder) : Option UnitError :=
  builder.nodes.findSome? fun (owner, refs) =>
    (refs.find? fun ref => !builder.holds ref).map (Ref.dangling owner)

/-- The finished unit, if every reference names a node. -/
def build (builder : Builder) (id : UnitId) : Except UnitError TranslationUnit :=
  match builder.firstFault with
  | some fault => .error fault
  | none =>
    .ok
      { id
        name := builder.name
        decls := builder.decls
        bases := builder.bases
        types := builder.types
        exprs := builder.exprs
        byName := NameTable.enter [] 0 builder.decls }

end Builder

end CppIntrospect
