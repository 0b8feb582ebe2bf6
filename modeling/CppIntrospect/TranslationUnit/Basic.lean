import CppIntrospect.CppType.Basic
import CppIntrospect.Decl
import CppIntrospect.Expr

/-! Translation units: the nodes read from one source file, each sort in the order of
its ids, together with an index of the declared names. -/

namespace CppIntrospect

/-- The declarations carrying each name, in order. -/
abbrev NameTable := List (String × List DeclId)

namespace NameTable

def insert (name : String) (id : DeclId) : NameTable → NameTable
  | [] => [(name, [id])]
  | (other, ids) :: rest =>
    if other = name then (other, ids ++ [id]) :: rest
    else (other, ids) :: insert name id rest

def find (table : NameTable) (name : String) : List DeclId := (table.lookup name).getD []

/-- Enters the names of declarations whose ids start at `start`. Unnamed declarations
are left out. -/
def enter (table : NameTable) : Nat → List Decl → NameTable
  | _, [] => table
  | start, decl :: decls =>
    let table := if decl.name.isEmpty then table else insert decl.name ⟨start⟩ table
    enter table (start + 1) decls

end NameTable

structure TranslationUnit where
  id : UnitId
  name : String
  decls : List Decl
  bases : List BaseSpecifier
  types : List CppType
  exprs : List Expr
  byName : NameTable
  deriving DecidableEq, Repr

namespace TranslationUnit

def decl? (unit : TranslationUnit) (id : DeclId) : Option Decl := unit.decls[id.index]?

def base? (unit : TranslationUnit) (id : BaseId) : Option BaseSpecifier := unit.bases[id.index]?

def type? (unit : TranslationUnit) (id : TypeId) : Option CppType := unit.types[id.index]?

def expr? (unit : TranslationUnit) (id : ExprId) : Option Expr := unit.exprs[id.index]?

def declCount (unit : TranslationUnit) : Nat := unit.decls.length

/-- The ids of all declarations, in order. -/
def declIds (unit : TranslationUnit) : List DeclId := (List.range unit.declCount).map DeclId.mk

/-- Every declaration with a name, in order. -/
def findDecls (unit : TranslationUnit) (name : String) : List DeclId := unit.byName.find name

def findDecl? (unit : TranslationUnit) (name : String) : Option DeclId :=
  (unit.findDecls name).head?

/-- The base specifiers of a record, in order; none for any other declaration. -/
def basesOf (unit : TranslationUnit) (id : DeclId) : List BaseId :=
  match (unit.decl? id).bind Decl.record? with
  | some record => record.bases
  | none => []

/-- The name of a declaration, empty if there is none. -/
def declName (unit : TranslationUnit) (id : DeclId) : String :=
  match unit.decl? id with
  | some decl => decl.name
  | none => ""

/-- The spelling of a type, empty if there is none. -/
def typeText (unit : TranslationUnit) (id : TypeId) : String :=
  match unit.type? id with
  | some type => type.spelling
  | none => ""

end TranslationUnit

end CppIntrospect
