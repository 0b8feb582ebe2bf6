import CppIntrospect.Decl

/-! Manifests: a translation unit written down as a list of entries that refer to each
other by ids of their own choice. -/

namespace CppIntrospect.Manifest

inductive AccessKeyword where
  | pub
  | prot
  | priv
  deriving DecidableEq, Repr

def AccessKeyword.access : AccessKeyword → Access
  | pub => .pub
  | prot => .prot
  | priv => .priv

/-- The keyword of a record that is no specialization. -/
inductive RecordKeyword where
  | classKey
  | structKey
  | unionKey
  deriving DecidableEq, Repr

def RecordKeyword.tag : RecordKeyword → Tag
  | classKey => .classTag
  | structKey => .structTag
  | unionKey => .unionTag

/-- A template argument as written. -/
inductive ArgumentEntry where
  | null (flag : Bool)
  | integral (value : Int64) (type : String)
  | expression (text type : String)
  | type (spelling : String)
  | decl (id : String)
  | template (id : String)
  | expansion (id : String)
  | pack (elements : List ArgumentEntry)
  deriving Repr

structure BaseEntry where
  type : String
  access : Option AccessKeyword
  isVirtual : Bool
  deriving DecidableEq, Repr

structure RecordEntry where
  bases : List BaseEntry
  origin : Option String
  deriving DecidableEq, Repr

structure VarEntry where
  type : String
  isStaticMember : Bool
  origin : Option String
  deriving DecidableEq, Repr

/-- At most one of `specializes`, `origin` and `candidates` may be given; the arguments
belong to whichever it is. -/
structure FunctionEntry where
  returns : Option String
  params : List String
  specializes : Option String
  origin : Option String
  candidates : List String
  args : List ArgumentEntry
  deriving Repr

structure TemplateEntry where
  templated : String
  params : List String
  origin : Option String
  deriving DecidableEq, Repr

structure PartialEntry where
  tag : Tag
  template : String
  params : List String
  args : List ArgumentEntry
  bases : List BaseEntry
  deriving Repr

/-- Exactly one of `primary` and `pattern` has to be given. -/
structure SpecializationEntry where
  tag : Tag
  primary : Option String
  pattern : Option String
  args : List ArgumentEntry
  bases : List BaseEntry
  deriving Repr

inductive EntryKind where
  | namespaceDecl
  | record (keyword : RecordKeyword) (entry : RecordEntry)
  | enumeration
  | enumConstant (value : Int64)
  | field (type : String)
  | var (entry : VarEntry)
  | parm (type : String)
  | function (flavor : FunctionFlavor) (entry : FunctionEntry)
  | template (flavor : TemplateFlavor) (entry : TemplateEntry)
  | partialSpecialization (entry : PartialEntry)
  | specialization (entry : SpecializationEntry)
  | accessLabel
  | typedef (type : String)
  | typeAlias (type : String)
  | typeParm (position : ParmPosition)
  | valueParm (type : String) (position : ParmPosition)
  | templateParm (position : ParmPosition)
  deriving Repr

/-- The base specifiers written on an entry. -/
def EntryKind.bases : EntryKind → List BaseEntry
  | record _ entry => entry.bases
  | partialSpecialization entry => entry.bases
  | specialization entry => entry.bases
  | _ => []

/-- The tag of an entry that stands for a record. -/
def EntryKind.tag? : EntryKind → Option Tag
  | record keyword _ => some keyword.tag
  | partialSpecialization entry => some entry.tag
  | specialization entry => some entry.tag
  | _ => none

structure Entry where
  /-- What other entries call this one. -/
  id : String
  name : Option String
  parent : Option String
  access : Option AccessKeyword
  kind : EntryKind
  deriving Repr

/-- The declared name, which is the id unless another is given. -/
def Entry.declName (entry : Entry) : String := entry.name.getD entry.id

end CppIntrospect.Manifest

namespace CppIntrospect

structure Manifest where
  unitName : String
  entries : List Manifest.Entry
  deriving Repr

/-- The first entry with an id. -/
def Manifest.find? (manifest : Manifest) (id : String) : Option Manifest.Entry :=
  manifest.entries.find? (·.id == id)

end CppIntrospect
