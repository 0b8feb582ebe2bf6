import CppIntrospect.TranslationUnit.Basic
import CppIntrospect.TranslationUnit.Error
import CppIntrospect.TranslationUnit.TypeTable

/-! Building a translation unit node by node. An id may be mentioned before its node
exists, since templates and their patterns refer to each other. -/

namespace CppIntrospect

/-- The nodes so far. The types are listed in the order of their ids, and the table finds
the id of a type again. -/
structure Builder where
  name : String
  decls : List Decl := []
  bases : List BaseSpecifier := []
  types : List CppType := []
  typeIds : TypeTable := .ofTypes 0 types
  exprs : List Expr := []
  inverts : typeIds.Inverts types := by exact TypeTable.inverts_ofTypes (by decide)
  deriving DecidableEq, Repr

namespace Builder

/-- A builder without nodes. -/
def empty (name : String) : Builder := { name }

@[simp] theorem decls_empty (name : String) : (empty name).decls = [] := rfl

/-- Adds a type, or finds the equal one added before. -/
def addType (builder : Builder) (type : CppType) : TypeId × Builder :=
  match h : builder.typeIds.lookup type with
  | some id => (id, builder)
  | none =>
    let id : TypeId := ⟨builder.types.length⟩
    (id, { builder with
      types := builder.types ++ [type]
      typeIds := builder.typeIds ++ [(type, id)]
      inverts := builder.inverts.push h })

/-- A type is found where it is, or comes at the end of the list. -/
theorem addType_cases (builder : Builder) (type : CppType) :
    (∃ id : TypeId, builder.types[id.index]? = some type ∧ builder.addType type = (id, builder)) ∨
    type ∉ builder.types ∧ ∃ typeIds inverts, builder.addType type =
      (⟨builder.types.length⟩,
        { builder with types := builder.types ++ [type], typeIds, inverts }) := by
  unfold addType
  split
  · next id h => exact .inl ⟨id, (builder.inverts type id).mp h, rfl⟩
  · next h => exact .inr ⟨builder.inverts.not_mem h, _, builder.inverts.push h, rfl⟩

def addExpr (builder : Builder) (expr : Expr) : ExprId × Builder :=
  (⟨builder.exprs.length⟩, { builder with exprs := builder.exprs ++ [expr] })

/-- The id of the next declaration to be added. -/
def nextDecl (builder : Builder) : DeclId := ⟨builder.decls.length⟩

def addDecl (builder : Builder) (decl : Decl) : DeclId × Builder :=
  (builder.nextDecl, { builder with decls := builder.decls ++ [decl] })

/-- Replaces a declaration; nothing happens if there is none. -/
def setDecl (builder : Builder) (id : DeclId) (decl : Decl) : Builder :=
  { builder with decls := builder.decls.set id.index decl }

/-- Attaches a base specifier to a record, at the end of its list. -/
def addBase (builder : Builder) (owner : DeclId) (type : TypeId) (access : Access)
    (isVirtual : Bool) : Except UnitError BaseId × Builder :=
  let id : BaseId := ⟨builder.bases.length⟩
  match builder.decls[owner.index]? with
  | some { name, access := declAccess, parent, kind := .record record } =>
    let record := { record with bases := record.bases ++ [id] }
    let builder := builder.setDecl owner ⟨name, declAccess, parent, .record record⟩
    (.ok id, { builder with bases := builder.bases ++ [⟨type, access, isVirtual, owner⟩] })
  | _ => (.error (.notARecord owner), builder)

end Builder

end CppIntrospect
