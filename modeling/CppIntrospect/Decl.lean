import CppIntrospect.Argument

/-! Declarations, base specifiers, and the links a declaration keeps to templates. -/

namespace CppIntrospect

/-- The access of a member or of a base class. -/
inductive Access where
  | pub
  | prot
  | priv
  /-- No access applies, as at namespace scope. -/
  | unspecified
  deriving DecidableEq, Repr

def Access.spelling : Access → String
  | pub => "public"
  | prot => "protected"
  | priv => "private"
  | unspecified => "invalid"

/-- The keyword of a record. -/
inductive Tag where
  | classTag
  | structTag
  | unionTag
  /-- Only malformed input has records with this keyword. -/
  | enumTag
  deriving DecidableEq, Repr

/-- What a full specialization was instantiated from. -/
inductive SpecializedFrom where
  | primary (decl : DeclId)
  | partialSpecialization (decl : DeclId)
  deriving DecidableEq, Repr

def SpecializedFrom.decl : SpecializedFrom → DeclId
  | primary decl => decl
  | partialSpecialization decl => decl

/-- How a record relates to a class template. -/
inductive ClassSpecialization where
  | full (origin : SpecializedFrom) (args : List TemplateArgument)
  | ofPattern (template : DeclId) (params : List DeclId) (args : List TemplateArgument)
  deriving DecidableEq, Repr

structure RecordDecl where
  tag : Tag
  bases : List BaseId := []
  /-- The member class of a template that the record was instantiated from. -/
  memberOrigin : Option DeclId := none
  specialization : Option ClassSpecialization := none
  deriving DecidableEq, Repr

structure VarDecl where
  type : TypeId
  isStaticMember : Bool := false
  origin : Option DeclId := none
  deriving DecidableEq, Repr

inductive FunctionFlavor where
  | free
  | method
  | constructor
  | destructor
  | conversion
  deriving DecidableEq, Repr

/-- How a function takes part in templates. -/
inductive FunctionTemplating where
  | nonTemplate
  /-- The declaration that a function template is a template of. -/
  | pattern (template : DeclId)
  /-- A member function of a class template specialization. -/
  | member (origin : DeclId) (args : List TemplateArgument)
  | specialization (primary : DeclId) (args : List TemplateArgument)
  /-- A specialization whose template is not yet known. -/
  | dependent (candidates : List DeclId) (args : List TemplateArgument)
  deriving DecidableEq, Repr

structure FunctionDecl where
  flavor : FunctionFlavor
  returns : TypeId
  params : List DeclId := []
  templating : FunctionTemplating := .nonTemplate
  deriving DecidableEq, Repr

inductive TemplateFlavor where
  | ofClass
  | ofFunction
  | ofAlias
  deriving DecidableEq, Repr

structure TemplateDecl where
  flavor : TemplateFlavor
  templated : DeclId
  params : List DeclId
  /-- The member template that this one was instantiated from. -/
  memberOrigin : Option DeclId := none
  deriving DecidableEq, Repr

/-- The place of a template parameter. -/
structure ParmPosition where
  depth : UInt32 := 0
  index : UInt32 := 0
  isPack : Bool := false
  deriving DecidableEq, Repr

inductive DeclKind where
  | namespaceDecl
  | record (record : RecordDecl)
  | enumeration
  | enumConstant (value : Int)
  | field (type : TypeId)
  | var (var : VarDecl)
  | parm (type : TypeId)
  | function (function : FunctionDecl)
  | template (template : TemplateDecl)
  /-- A label such as `public:` inside a record. -/
  | accessLabel
  | typedef (type : TypeId)
  | typeAlias (type : TypeId)
  | typeParm (position : ParmPosition)
  | valueParm (type : TypeId) (position : ParmPosition)
  | templateParm (position : ParmPosition)
  deriving DecidableEq, Repr

structure Decl where
  name : String
  access : Access := .unspecified
  /-- The enclosing record, template or namespace. -/
  parent : Option DeclId := none
  kind : DeclKind
  deriving DecidableEq, Repr

structure BaseSpecifier where
  type : TypeId
  access : Access
  isVirtual : Bool
  /-- The derived record. -/
  owner : DeclId
  deriving DecidableEq, Repr

namespace RecordDecl

def isPartialSpecialization (record : RecordDecl) : Bool :=
  match record.specialization with
  | some (.ofPattern _ _ _) => true
  | _ => false

/-- The declaration a record was specialized or instantiated from: the template of a
specialization, else the member class. -/
def origin (record : RecordDecl) : Option DeclId :=
  match record.specialization with
  | some (.ofPattern template _ _) => some template
  | some (.full origin _) => some origin.decl
  | none => record.memberOrigin

def args? (record : RecordDecl) : Option (List TemplateArgument) :=
  match record.specialization with
  | some (.full _ args) => some args
  | some (.ofPattern _ _ args) => some args
  | none => none

def params? (record : RecordDecl) : Option (List DeclId) :=
  match record.specialization with
  | some (.ofPattern _ params _) => some params
  | _ => none

end RecordDecl

/-- Only static data members answer with the member they were instantiated from. -/
def VarDecl.staticOrigin (var : VarDecl) : Option DeclId :=
  if var.isStaticMember then var.origin else none

namespace FunctionDecl

/-- The template or the member function that a function was specialized from. -/
def origin (function : FunctionDecl) : Option DeclId :=
  match function.templating with
  | .specialization primary _ => some primary
  | .member origin _ => some origin
  | _ => none

def args? (function : FunctionDecl) : Option (List TemplateArgument) :=
  match function.templating with
  | .member _ args => some args
  | .specialization _ args => some args
  | .dependent _ args => some args
  | .nonTemplate => none
  | .pattern _ => none

end FunctionDecl

namespace Decl

def record? (decl : Decl) : Option RecordDecl :=
  match decl.kind with
  | .record record => some record
  | _ => none

def template? (decl : Decl) : Option TemplateDecl :=
  match decl.kind with
  | .template template => some template
  | _ => none

/-- The template argument list that a declaration owns. -/
def args? (decl : Decl) : Option (List TemplateArgument) :=
  match decl.kind with
  | .record record => record.args?
  | .function function => function.args?
  | _ => none

/-- The template parameter list that a declaration owns. -/
def params? (decl : Decl) : Option (List DeclId) :=
  match decl.kind with
  | .template template => some template.params
  | .record record => record.params?
  | _ => none

/-- The declaration that a declaration was specialized or instantiated from. -/
def origin (decl : Decl) : Option DeclId :=
  match decl.kind with
  | .record record => record.origin
  | .function function => function.origin
  | .var var => var.staticOrigin
  | .template template => template.memberOrigin
  | _ => none

end Decl

end CppIntrospect
