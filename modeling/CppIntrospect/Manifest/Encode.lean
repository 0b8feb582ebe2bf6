import CppIntrospect.Data.Datum
import CppIntrospect.Manifest.Basic

/-! Manifests as data. Fields that may be missing are left out when they are empty, save
for the parameters and arguments of templates and specializations. -/

namespace CppIntrospect.Manifest

def AccessKeyword.keyword : AccessKeyword → String
  | pub => "public"
  | prot => "protected"
  | priv => "private"

def tagKeyword : Tag → String
  | .classTag => "class"
  | .structTag => "struct"
  | .unionTag => "union"
  | .enumTag => "enum"

/-- A field that is left out when there is no value. -/
def textField (name : String) : Option String → List (String × Datum)
  | some value => [(name, .text value)]
  | none => []

/-- A field that is left out when the list is empty. -/
def listField (name : String) : List Datum → List (String × Datum)
  | [] => []
  | items => [(name, .list items)]

def accessField : Option AccessKeyword → List (String × Datum)
  | some access => [("access", .text access.keyword)]
  | none => []

mutual

def ArgumentEntry.encode : ArgumentEntry → Datum
  | .null flag => .record [("null", .bool flag)]
  | .integral value spelling =>
    .record [("integral", .integer value.toInt), ("type", .text spelling)]
  | .expression text spelling => .record [("expr", .text text), ("type", .text spelling)]
  | .type spelling => .record [("type", .text spelling)]
  | .decl id => .record [("decl", .text id)]
  | .template id => .record [("template", .text id)]
  | .expansion id => .record [("expansion", .text id)]
  | .pack elements => .record [("pack", .list (ArgumentEntry.encodeAll elements))]

def ArgumentEntry.encodeAll : List ArgumentEntry → List Datum
  | [] => []
  | arg :: args => arg.encode :: ArgumentEntry.encodeAll args

end

def BaseEntry.encode (base : BaseEntry) : Datum :=
  .record (("type", .text base.type) :: accessField base.access ++
    [("virtual", .bool base.isVirtual)])

def textList (values : List String) : List Datum := values.map Datum.text

def positionFields (position : ParmPosition) : List (String × Datum) :=
  [("depth", .integer position.depth.toNat), ("index", .integer position.index.toNat),
    ("pack", .bool position.isPack)]

def RecordEntry.fields (entry : RecordEntry) : List (String × Datum) :=
  listField "bases" (entry.bases.map BaseEntry.encode) ++
    textField "instantiated_from" entry.origin

def VarEntry.fields (entry : VarEntry) : List (String × Datum) :=
  [("type", .text entry.type), ("static_member", .bool entry.isStaticMember)] ++
    textField "instantiated_from" entry.origin

def FunctionEntry.fields (entry : FunctionEntry) : List (String × Datum) :=
  textField "returns" entry.returns ++ listField "params" (textList entry.params) ++
    textField "specializes" entry.specializes ++ textField "instantiated_from" entry.origin ++
    listField "candidates" (textList entry.candidates) ++
    listField "args" (ArgumentEntry.encodeAll entry.args)

def TemplateEntry.fields (entry : TemplateEntry) : List (String × Datum) :=
  [("templated", .text entry.templated), ("params", .list (textList entry.params))] ++
    textField "instantiated_from" entry.origin

def PartialEntry.fields (entry : PartialEntry) : List (String × Datum) :=
  [("tag", .text (tagKeyword entry.tag)), ("template", .text entry.template),
      ("params", .list (textList entry.params)),
      ("args", .list (ArgumentEntry.encodeAll entry.args))] ++
    listField "bases" (entry.bases.map BaseEntry.encode)

def SpecializationEntry.fields (entry : SpecializationEntry) : List (String × Datum) :=
  ("tag", .text (tagKeyword entry.tag)) :: textField "template" entry.primary ++
    textField "partial" entry.pattern ++
    ("args", .list (ArgumentEntry.encodeAll entry.args)) ::
      listField "bases" (entry.bases.map BaseEntry.encode)

/-- The word for a kind, and the fields that go with it. -/
def EntryKind.encode : EntryKind → String × List (String × Datum)
  | .namespaceDecl => ("namespace", [])
  | .record .classKey entry => ("class", entry.fields)
  | .record .structKey entry => ("struct", entry.fields)
  | .record .unionKey entry => ("union", entry.fields)
  | .enumeration => ("enum", [])
  | .enumConstant value => ("enum_constant", [("value", .integer value.toInt)])
  | .field type => ("field", [("type", .text type)])
  | .var entry => ("var", entry.fields)
  | .parm type => ("parm", [("type", .text type)])
  | .function .free entry => ("function", entry.fields)
  | .function .method entry => ("method", entry.fields)
  | .function .constructor entry => ("constructor", entry.fields)
  | .function .destructor entry => ("destructor", entry.fields)
  | .function .conversion entry => ("conversion", entry.fields)
  | .template .ofClass entry => ("class_template", entry.fields)
  | .template .ofFunction entry => ("function_template", entry.fields)
  | .template .ofAlias entry => ("alias_template", entry.fields)
  | .partialSpecialization entry => ("partial_specialization", entry.fields)
  | .specialization entry => ("specialization", entry.fields)
  | .accessLabel => ("access_spec", [])
  | .typedef type => ("typedef", [("type", .text type)])
  | .typeAlias type => ("type_alias", [("type", .text type)])
  | .typeParm position => ("template_type_parm", positionFields position)
  | .valueParm type position =>
    ("non_type_template_parm", ("type", .text type) :: positionFields position)
  | .templateParm position => ("template_template_parm", positionFields position)

def Entry.encode (entry : Entry) : Datum :=
  .record (("id", .text entry.id) :: textField "name" entry.name ++
    textField "parent" entry.parent ++ accessField entry.access ++
    ("kind", .text entry.kind.encode.1) :: entry.kind.encode.2)

end CppIntrospect.Manifest

namespace CppIntrospect

def Manifest.encode (manifest : Manifest) : Datum :=
  .record
    [("unit", .record [("name", .text manifest.unitName)]),
      ("decl", .list (manifest.entries.map Manifest.Entry.encode))]

end CppIntrospect
