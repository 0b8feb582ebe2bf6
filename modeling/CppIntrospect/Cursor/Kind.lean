import CppIntrospect.Decl
import CppIntrospect.Expr

/-! The kinds of entity that a cursor can name. -/

namespace CppIntrospect

inductive CursorKind where
  | structDecl
  | unionDecl
  | classDecl
  | enumDecl
  | fieldDecl
  | enumConstantDecl
  | functionDecl
  | varDecl
  | parmDecl
  | typedefDecl
  | method
  | namespaceDecl
  | constructor
  | destructor
  | conversionFunction
  | templateTypeParameter
  | nonTypeTemplateParameter
  | templateTemplateParameter
  | functionTemplate
  | classTemplate
  | classTemplatePartialSpecialization
  | typeAliasDecl
  | typeAliasTemplateDecl
  | accessSpecifier
  | baseSpecifier
  | templateArgument
  | unexposedExpr
  | declRefExpr
  | integerLiteral
  | binaryOperator
  /-- No declaration answers the question. -/
  | noDeclFound
  /-- The kind of the null cursor. -/
  | null
  deriving DecidableEq, Repr

namespace CursorKind

def all : List CursorKind :=
  [structDecl, unionDecl, classDecl, enumDecl, fieldDecl, enumConstantDecl, functionDecl,
    varDecl, parmDecl, typedefDecl, method, namespaceDecl, constructor, destructor,
    conversionFunction, templateTypeParameter, nonTypeTemplateParameter,
    templateTemplateParameter, functionTemplate, classTemplate,
    classTemplatePartialSpecialization, typeAliasDecl, typeAliasTemplateDecl, accessSpecifier,
    baseSpecifier, templateArgument, unexposedExpr, declRefExpr, integerLiteral, binaryOperator,
    noDeclFound, null]

def ofTag : Tag → CursorKind
  | .classTag => classDecl
  | .structTag => structDecl
  | .unionTag => unionDecl
  | .enumTag => enumDecl

def ofFlavor : FunctionFlavor → CursorKind
  | .free => functionDecl
  | .method => method
  | .constructor => constructor
  | .destructor => destructor
  | .conversion => conversionFunction

def ofTemplateFlavor : TemplateFlavor → CursorKind
  | .ofClass => classTemplate
  | .ofFunction => functionTemplate
  | .ofAlias => typeAliasTemplateDecl

/-- The kind of a declaration. A partial specialization has its own, whatever its tag. -/
def ofDecl (decl : Decl) : CursorKind :=
  match decl.kind with
  | .namespaceDecl => namespaceDecl
  | .record record =>
    if record.isPartialSpecialization then classTemplatePartialSpecialization
    else ofTag record.tag
  | .enumeration => enumDecl
  | .enumConstant _ => enumConstantDecl
  | .field _ => fieldDecl
  | .var _ => varDecl
  | .parm _ => parmDecl
  | .function function => ofFlavor function.flavor
  | .template template => ofTemplateFlavor template.flavor
  | .accessLabel => accessSpecifier
  | .typedef _ => typedefDecl
  | .typeAlias _ => typeAliasDecl
  | .typeParm _ => templateTypeParameter
  | .valueParm _ _ => nonTypeTemplateParameter
  | .templateParm _ => templateTemplateParameter

def ofExpr (expr : Expr) : CursorKind :=
  match expr.kind with
  | .integerLiteral _ => integerLiteral
  | .declRef _ => declRefExpr
  | .binary _ _ _ => binaryOperator
  | .unexposed _ => unexposedExpr

def isExpression : CursorKind → Bool
  | unexposedExpr | declRefExpr | integerLiteral | binaryOperator => true
  | _ => false

def isInvalid : CursorKind → Bool
  | noDeclFound | null => true
  | _ => false

def isDeclaration : CursorKind → Bool
  | structDecl | unionDecl | classDecl | enumDecl | fieldDecl | enumConstantDecl | functionDecl
  | varDecl | parmDecl | typedefDecl | method | namespaceDecl | constructor | destructor
  | conversionFunction | templateTypeParameter | nonTypeTemplateParameter
  | templateTemplateParameter | functionTemplate | classTemplate
  | classTemplatePartialSpecialization | typeAliasDecl | typeAliasTemplateDecl
  | accessSpecifier => true
  | _ => false

theorem isDeclaration_ofDecl (decl : Decl) : (ofDecl decl).isDeclaration = true := by
  obtain ⟨name, access, parent, kind⟩ := decl
  cases kind with
  | record record =>
    by_cases hp : record.isPartialSpecialization = true
    · simp [ofDecl, hp, isDeclaration]
    · cases ht : record.tag <;> simp [ofDecl, hp, ht, ofTag, isDeclaration]
  | function function => cases hf : function.flavor <;> simp [ofDecl, hf, ofFlavor, isDeclaration]
  | template template =>
    cases hf : template.flavor <;> simp [ofDecl, hf, ofTemplateFlavor, isDeclaration]
  | _ => rfl

theorem isInvalid_ofDecl (decl : Decl) : (ofDecl decl).isInvalid = false := by
  have hd := isDeclaration_ofDecl decl
  generalize ofDecl decl = kind at hd
  cases kind with
  | noDeclFound => cases hd
  | null => cases hd
  | _ => rfl

/-- The kinds of templates that can be redeclared. -/
def isTemplate : CursorKind → Bool
  | classTemplate | functionTemplate | typeAliasTemplateDecl => true
  | _ => false

/-- The kinds whose declarations own a template parameter list. -/
def ownsParameters (kind : CursorKind) : Bool :=
  kind.isTemplate || kind == classTemplatePartialSpecialization

/-- The kinds whose declarations carry an access specifier. -/
def carriesAccess : CursorKind → Bool
  | classDecl | structDecl | unionDecl | method | constructor | destructor | conversionFunction
  | fieldDecl | varDecl | enumDecl | enumConstantDecl | classTemplate | functionTemplate
  | classTemplatePartialSpecialization | accessSpecifier => true
  | _ => false

def spelling : CursorKind → String
  | structDecl => "StructDecl"
  | unionDecl => "UnionDecl"
  | classDecl => "ClassDecl"
  | enumDecl => "EnumDecl"
  | fieldDecl => "FieldDecl"
  | enumConstantDecl => "EnumConstantDecl"
  | functionDecl => "FunctionDecl"
  | varDecl => "VarDecl"
  | parmDecl => "ParmDecl"
  | typedefDecl => "TypedefDecl"
  | method => "CXXMethod"
  | namespaceDecl => "Namespace"
  | constructor => "CXXConstructor"
  | destructor => "CXXDestructor"
  | conversionFunction => "CXXConversion"
  | templateTypeParameter => "TemplateTypeParameter"
  | nonTypeTemplateParameter => "NonTypeTemplateParameter"
  | templateTemplateParameter => "TemplateTemplateParameter"
  | functionTemplate => "FunctionTemplate"
  | classTemplate => "ClassTemplate"
  | classTemplatePartialSpecialization => "ClassTemplatePartialSpecialization"
  | typeAliasDecl => "TypeAliasDecl"
  | typeAliasTemplateDecl => "TypeAliasTemplateDecl"
  | accessSpecifier => "CXXAccessSpecifier"
  | baseSpecifier => "C++ base class specifier"
  | templateArgument => "TemplateArgument"
  | unexposedExpr => "UnexposedExpr"
  | declRefExpr => "DeclRefExpr"
  | integerLiteral => "IntegerLiteral"
  | binaryOperator => "BinaryOperator"
  | noDeclFound => "NoDeclFound"
  | null => "Null"

end CursorKind

end CppIntrospect
