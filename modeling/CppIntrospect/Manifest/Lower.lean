import CppIntrospect.CppType.Parse
import CppIntrospect.Manifest.Basic
import CppIntrospect.Manifest.Error
import CppIntrospect.TranslationUnit.Builder

/-! Turning a manifest into a translation unit. First every entry gets a place for its
declaration, so entries may refer forward as well as back; then the declarations are put in
their places. Types and expressions are added in the order in which the entries mention
them; base specifiers come after all declarations, and the patterns of function templates
are marked last. -/

namespace CppIntrospect.Manifest

open Text

/-- What the entries of a manifest can refer to: the places of their declarations by id, and
the depth and index of template type parameters by name. -/
structure Tables where
  ids : List (String × DeclId) := []
  params : List (String × UInt32 × UInt32) := []
  deriving DecidableEq, Repr

namespace Tables

/-- The declaration of the entry with an id. -/
def find? (tables : Tables) (id : String) : Option DeclId := tables.ids.lookup id

/-- The type of a template type parameter, by the name of the parameter. -/
def typeParameter? (tables : Tables) (name : String) : Option CppType :=
  (tables.params.lookup name).map fun (depth, index) => .templateParam name depth index

/-- Enters an entry and the place of its declaration. An id can be entered once. Of the type
parameters with a name the first counts, since it is found first. -/
def enter (tables : Tables) (entry : Entry) (place : DeclId) : Except ManifestError Tables :=
  if (tables.find? entry.id).isSome then .error (.duplicateId entry.id)
  else
    let ids := tables.ids ++ [(entry.id, place)]
    match entry.kind with
    | .typeParm position =>
      .ok ⟨ids, tables.params ++ [(entry.declName, position.depth, position.index)]⟩
    | _ => .ok ⟨ids, tables.params⟩

def resolve (tables : Tables) (owner target : String) : Except ManifestError DeclId :=
  match tables.find? target with
  | some id => .ok id
  | none => .error (.unknownReference owner target)

def resolve? (tables : Tables) (owner : String) :
    Option String → Except ManifestError (Option DeclId)
  | none => .ok none
  | some target => (tables.resolve owner target).map some

def resolveAll (tables : Tables) (owner : String) :
    List String → Except ManifestError (List DeclId)
  | [] => .ok []
  | target :: targets => do
    let id ← tables.resolve owner target
    let ids ← tables.resolveAll owner targets
    return id :: ids

end Tables

/-- The declaration that keeps the place of an entry until the entry is lowered. -/
def placeholder (entry : Entry) : Decl := { name := entry.declName, kind := .namespaceDecl }

/-- Gives every entry a place. -/
def allocate : List Entry → Tables → Builder → Except ManifestError (Tables × Builder)
  | [], tables, builder => .ok (tables, builder)
  | entry :: entries, tables, builder => do
    let (place, builder) := builder.addDecl (placeholder entry)
    let tables ← tables.enter entry place
    allocate entries tables builder

/-- Adds the type that a spelling stands for, with the names of template type parameters
replaced by the parameters. -/
def lowerType (tables : Tables) (owner spelling : String) (builder : Builder) :
    Except ManifestError (TypeId × Builder) :=
  match CppType.parse? spelling with
  | some type => .ok (builder.addType (type.substitute tables.typeParameter?))
  | none => .error (.badType owner spelling)

/-- An operand is a number, or else the entry with that id, or else plain text. -/
def operand (tables : Tables) (token : List Char) : ExprKind :=
  match integer128? token with
  | some value => .integerLiteral value
  | none =>
    match tables.find? (String.ofList token) with
    | some decl => .declRef decl
    | none => .unexposed (String.ofList token)

/-- Every other element, from the first on. -/
def everyOther {α : Type} : List α → List α
  | [] => []
  | [x] => [x]
  | x :: _ :: xs => x :: everyOther xs

/-- Applies operators to what stands on their left, the first operator first. -/
def lowerOperations (tables : Tables) (type : TypeId) :
    List (BinaryOp × List Char) → ExprId × Builder → ExprId × Builder
  | [], result => result
  | (op, token) :: rest, (lhs, builder) =>
    let (rhs, builder) := builder.addExpr ⟨operand tables token, type⟩
    lowerOperations tables type rest (builder.addExpr ⟨.binary op lhs rhs, type⟩)

/-- Adds an expression: operands with binary operators between them, all separated by
blanks and grouped to the left. Any other text is kept as it is, without the blanks
around it. -/
def lowerExpr (tables : Tables) (text : String) (type : TypeId) (builder : Builder) :
    ExprId × Builder :=
  let tokens := words text.toList
  let ops := (everyOther (tokens.drop 1)).mapM fun token =>
    BinaryOp.ofSpelling? (String.ofList token)
  let whole : Expr := ⟨.unexposed (String.ofList (trim text.toList)), type⟩
  match tokens, ops with
  | [single], _ => builder.addExpr ⟨operand tables single, type⟩
  | first :: rest, some ops =>
    if !rest.isEmpty && rest.length % 2 == 0 then
      lowerOperations tables type (ops.zip (everyOther (rest.drop 1)))
        (builder.addExpr ⟨operand tables first, type⟩)
    else builder.addExpr whole
  | _, _ => builder.addExpr whole

mutual

def lowerArg (tables : Tables) (owner : String) :
    ArgumentEntry → Builder → Except ManifestError (TemplateArgument × Builder)
  | .null _, builder => .ok (.null, builder)
  | .type spelling, builder => do
    let (type, builder) ← lowerType tables owner spelling builder
    return (.type type, builder)
  | .integral value spelling, builder => do
    let (type, builder) ← lowerType tables owner spelling builder
    return (.integral value.toInt type, builder)
  | .decl id, builder => do
    let decl ← tables.resolve owner id
    return (.declaration decl, builder)
  | .template id, builder => do
    let decl ← tables.resolve owner id
    return (.template decl, builder)
  | .expansion id, builder => do
    let decl ← tables.resolve owner id
    return (.templateExpansion decl, builder)
  | .expression text spelling, builder => do
    let (type, builder) ← lowerType tables owner spelling builder
    let (expr, builder) := lowerExpr tables text type builder
    return (.expression expr, builder)
  | .pack elements, builder => do
    let (args, builder) ← lowerArgs tables owner elements builder
    return (.pack args, builder)

def lowerArgs (tables : Tables) (owner : String) :
    List ArgumentEntry → Builder → Except ManifestError (List TemplateArgument × Builder)
  | [], builder => .ok ([], builder)
  | arg :: args, builder => do
    let (arg, builder) ← lowerArg tables owner arg builder
    let (args, builder) ← lowerArgs tables owner args builder
    return (arg :: args, builder)

end

/-- The link of a function to a template, with its arguments. Arguments without a link are
not looked at. -/
def lowerTemplating (tables : Tables) (owner : String) (entry : FunctionEntry)
    (builder : Builder) : Except ManifestError (FunctionTemplating × Builder) :=
  match entry.specializes, entry.origin, entry.candidates with
  | none, none, [] => .ok (.nonTemplate, builder)
  | some primary, none, [] => do
    let primary ← tables.resolve owner primary
    let (args, builder) ← lowerArgs tables owner entry.args builder
    return (.specialization primary args, builder)
  | none, some origin, [] => do
    let origin ← tables.resolve owner origin
    let (args, builder) ← lowerArgs tables owner entry.args builder
    return (.member origin args, builder)
  | none, none, candidates => do
    let candidates ← tables.resolveAll owner candidates
    let (args, builder) ← lowerArgs tables owner entry.args builder
    return (.dependent candidates args, builder)
  | _, _, _ => .error (.conflictingLinks owner)

/-- The return type is `void` unless another is given. -/
def lowerFunction (tables : Tables) (owner : String) (flavor : FunctionFlavor)
    (entry : FunctionEntry) (builder : Builder) :
    Except ManifestError (FunctionDecl × Builder) := do
  let (returns, builder) ← lowerType tables owner (entry.returns.getD "void") builder
  let params ← tables.resolveAll owner entry.params
  let (templating, builder) ← lowerTemplating tables owner entry builder
  return (⟨flavor, returns, params, templating⟩, builder)

def lowerTemplate (tables : Tables) (owner : String) (flavor : TemplateFlavor)
    (entry : TemplateEntry) : Except ManifestError TemplateDecl := do
  let templated ← tables.resolve owner entry.templated
  let params ← tables.resolveAll owner entry.params
  let memberOrigin ← tables.resolve? owner entry.origin
  return ⟨flavor, templated, params, memberOrigin⟩

def lowerPartial (tables : Tables) (owner : String) (entry : PartialEntry) (builder : Builder) :
    Except ManifestError (RecordDecl × Builder) := do
  let template ← tables.resolve owner entry.template
  let params ← tables.resolveAll owner entry.params
  let (args, builder) ← lowerArgs tables owner entry.args builder
  return (⟨entry.tag, [], none, some (.ofPattern template params args)⟩, builder)

/-- The origin of a specialization, which is either a primary template or a partial
specialization. -/
def lowerOrigin (tables : Tables) (owner : String) (entry : SpecializationEntry) :
    Except ManifestError SpecializedFrom :=
  match entry.primary, entry.pattern with
  | some primary, none => (tables.resolve owner primary).map .primary
  | none, some pattern => (tables.resolve owner pattern).map .partialSpecialization
  | _, _ => .error (.unclearOrigin owner)

def lowerSpecialization (tables : Tables) (owner : String) (entry : SpecializationEntry)
    (builder : Builder) : Except ManifestError (RecordDecl × Builder) := do
  let origin ← lowerOrigin tables owner entry
  let (args, builder) ← lowerArgs tables owner entry.args builder
  return (⟨entry.tag, [], none, some (.full origin args)⟩, builder)

def lowerKind (tables : Tables) (owner : String) (kind : EntryKind) (builder : Builder) :
    Except ManifestError (DeclKind × Builder) :=
  match kind with
  | .namespaceDecl => .ok (.namespaceDecl, builder)
  | .record keyword entry => do
    let memberOrigin ← tables.resolve? owner entry.origin
    return (.record ⟨keyword.tag, [], memberOrigin, none⟩, builder)
  | .enumeration => .ok (.enumeration, builder)
  | .enumConstant value => .ok (.enumConstant value.toInt, builder)
  | .field spelling => do
    let (type, builder) ← lowerType tables owner spelling builder
    return (.field type, builder)
  | .var entry => do
    let (type, builder) ← lowerType tables owner entry.type builder
    let origin ← tables.resolve? owner entry.origin
    return (.var ⟨type, entry.isStaticMember, origin⟩, builder)
  | .parm spelling => do
    let (type, builder) ← lowerType tables owner spelling builder
    return (.parm type, builder)
  | .function flavor entry => do
    let (function, builder) ← lowerFunction tables owner flavor entry builder
    return (.function function, builder)
  | .template flavor entry => do
    let template ← lowerTemplate tables owner flavor entry
    return (.template template, builder)
  | .partialSpecialization entry => do
    let (record, builder) ← lowerPartial tables owner entry builder
    return (.record record, builder)
  | .specialization entry => do
    let (record, builder) ← lowerSpecialization tables owner entry builder
    return (.record record, builder)
  | .accessLabel => .ok (.accessLabel, builder)
  | .typedef spelling => do
    let (type, builder) ← lowerType tables owner spelling builder
    return (.typedef type, builder)
  | .typeAlias spelling => do
    let (type, builder) ← lowerType tables owner spelling builder
    return (.typeAlias type, builder)
  | .typeParm position => .ok (.typeParm position, builder)
  | .valueParm spelling position => do
    let (type, builder) ← lowerType tables owner spelling builder
    return (.valueParm type position, builder)
  | .templateParm position => .ok (.templateParm position, builder)

def lowerEntry (tables : Tables) (entry : Entry) (builder : Builder) :
    Except ManifestError (Decl × Builder) := do
  let (kind, builder) ← lowerKind tables entry.id entry.kind builder
  let parent ← tables.resolve? entry.id entry.parent
  let access := (entry.access.map AccessKeyword.access).getD .unspecified
  return (⟨entry.declName, access, parent, kind⟩, builder)

/-- The declaration that a function template is a template of, and the template itself. -/
def pattern? (place : DeclId) (decl : Decl) : Option (DeclId × DeclId) :=
  match decl.kind with
  | .template template =>
    if template.flavor = .ofFunction then some (template.templated, place) else none
  | _ => none

/-- Lowers entries one by one and puts their declarations in the places kept for them. The
entries lowered before the first fault are told, with their places. -/
def fill (tables : Tables) : List Entry → List (DeclId × DeclId) → Builder →
    List (String × DeclId) × Except ManifestError (List (DeclId × DeclId) × Builder)
  | [], patterns, builder => ([], .ok (patterns, builder))
  | entry :: entries, patterns, builder =>
    match tables.resolve entry.id entry.id with
    | .error fault => ([], .error fault)
    | .ok place =>
      match lowerEntry tables entry builder with
      | .error fault => ([], .error fault)
      | .ok (decl, builder) =>
        let patterns := patterns ++ (pattern? place decl).toList
        let (lowered, result) := fill tables entries patterns (builder.setDecl place decl)
        ((entry.id, place) :: lowered, result)

/-- The access of a base specifier without one hangs on the tag of the record. -/
def defaultAccess (tag : Option Tag) : Access := if tag = some .classTag then .priv else .pub

def lowerBases (tables : Tables) (entry : Entry) (owner : DeclId) :
    List BaseEntry → Builder → Except ManifestError Builder
  | [], builder => .ok builder
  | base :: bases, builder => do
    let (type, builder) ← lowerType tables entry.id base.type builder
    let access := (base.access.map AccessKeyword.access).getD (defaultAccess entry.kind.tag?)
    match builder.addBase owner type access base.isVirtual with
    | (.ok _, builder) => lowerBases tables entry owner bases builder
    | (.error fault, _) => .error (.rejected fault)

def attachBases (tables : Tables) : List Entry → Builder → Except ManifestError Builder
  | [], builder => .ok builder
  | entry :: entries, builder => do
    let owner ← tables.resolve entry.id entry.id
    let builder ← lowerBases tables entry owner entry.kind.bases builder
    attachBases tables entries builder

/-- Marks a function as the pattern of a template, unless it is linked to one already. -/
def markPattern (template : DeclId) (decl : Decl) : Decl :=
  match decl.kind with
  | .function function =>
    if function.templating = .nonTemplate then
      { decl with kind := .function { function with templating := .pattern template } }
    else decl
  | _ => decl

/-- Marks patterns, each given with its template. -/
def markPatterns (patterns : List (DeclId × DeclId)) (builder : Builder) : Builder :=
  patterns.foldl
    (fun builder (pattern, template) =>
      { builder with decls := builder.decls.modify pattern.index (markPattern template) })
    builder

/-- The entries that are lowered before the first fault, with the places of their
declarations, and what comes of the whole. -/
def lowerInPlace (manifest : Manifest) : List (String × DeclId) × Except ManifestError Builder :=
  match allocate manifest.entries {} (.empty manifest.unitName) with
  | .error fault => ([], .error fault)
  | .ok (tables, builder) =>
    let (lowered, result) := fill tables manifest.entries [] builder
    let result := result.bind fun (patterns, builder) =>
      (attachBases tables manifest.entries builder).map (markPatterns patterns)
    (lowered, result)

/-- The unit that a manifest describes. -/
def toBuilder (manifest : Manifest) : Except ManifestError Builder := manifest.lowerInPlace.2

end CppIntrospect.Manifest
