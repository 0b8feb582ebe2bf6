import CppIntrospect.Data.Datum
import CppIntrospect.Manifest.Basic

/-! Reading a manifest from data. Unknown fields are passed over, a known field may not be
repeated, and a field of the wrong shape makes the whole manifest unreadable. -/

namespace CppIntrospect.Manifest

open Datum

/-- The two ways to write manifests. They differ in a few liberties. -/
inductive Format where
  | json
  | toml
  deriving DecidableEq, Repr

/-- What may stand behind a keyword written as the only field of a record, at the top of
an entry. -/
def Format.isKeywordMark : Format → Datum → Bool
  | .json, .null => true
  | .toml, .record [] => true
  | .toml, .list [] => true
  | _, _ => false

/-- What may stand behind a keyword written as the only field of a record, further in. -/
def isInnerKeywordMark : Datum → Bool
  | .null => true
  | .record [] => true
  | _ => false

/-- A keyword, written as a text or as the name of the only field of a record. -/
def keyword? {α : Type} (isMark : Datum → Bool) (keywords : List (String × α)) :
    Datum → Option α
  | .text word => keywords.lookup word
  | .record [(word, mark)] => if isMark mark then keywords.lookup word else none
  | _ => none

def accessKeywords : List (String × AccessKeyword) :=
  [("public", .pub), ("protected", .prot), ("private", .priv)]

def tagKeywords : List (String × Tag) :=
  [("class", .classTag), ("struct", .structTag), ("union", .unionTag), ("enum", .enumTag)]

def access? : Datum → Option AccessKeyword := keyword? isInnerKeywordMark accessKeywords

def tag? : Datum → Option Tag := keyword? isInnerKeywordMark tagKeywords

/-- The first shape that fits the fields of an argument. `pack` is what the field of that
name was read as, if it is there exactly once. -/
def ArgumentEntry.ofFields (fields : List (String × Datum))
    (pack : Option (List ArgumentEntry)) : Option ArgumentEntry :=
  match required bool? fields "null", required int64? fields "integral",
    required text? fields "expr", required text? fields "type" with
  | some flag, _, _, _ => some (.null flag)
  | none, some value, _, some spelling => some (.integral value spelling)
  | none, none, some source, some spelling => some (.expression source spelling)
  | none, none, none, some spelling => some (.type spelling)
  | none, _, _, none =>
    match required text? fields "decl", required text? fields "template",
      required text? fields "expansion" with
    | some id, _, _ => some (.decl id)
    | none, some id, _ => some (.template id)
    | none, none, some id => some (.expansion id)
    | none, none, none => pack.map .pack

mutual

def ArgumentEntry.decode : Datum → Option ArgumentEntry
  | .record fields =>
    ArgumentEntry.ofFields fields
      (match ArgumentEntry.decodePacks fields with
        | [elements] => elements
        | _ => none)
  | _ => none

/-- The fields named `pack`, each read as a list of arguments. -/
def ArgumentEntry.decodePacks : List (String × Datum) → List (Option (List ArgumentEntry))
  | [] => []
  | (name, value) :: fields =>
    if name = "pack" then ArgumentEntry.decodePack value :: ArgumentEntry.decodePacks fields
    else ArgumentEntry.decodePacks fields

def ArgumentEntry.decodePack : Datum → Option (List ArgumentEntry)
  | .list items => ArgumentEntry.decodeAll items
  | _ => none

def ArgumentEntry.decodeAll : List Datum → Option (List ArgumentEntry)
  | [] => some []
  | item :: items =>
    match ArgumentEntry.decode item, ArgumentEntry.decodeAll items with
    | some arg, some args => some (arg :: args)
    | _, _ => none

end

/-- A base specifier, as a record or as the list of its fields in order. -/
def BaseEntry.decode : Datum → Option BaseEntry
  | .record fields => do
    let type ← required text? fields "type"
    let access ← optional (nullable? access?) none fields "access"
    let isVirtual ← optional bool? false fields "virtual"
    return ⟨type, access, isVirtual⟩
  | .list [type] => do
    return ⟨← text? type, none, false⟩
  | .list [type, access] => do
    return ⟨← text? type, ← nullable? access? access, false⟩
  | .list [type, access, isVirtual] => do
    return ⟨← text? type, ← nullable? access? access, ← bool? isVirtual⟩
  | _ => none

def optionalText (fields : List (String × Datum)) (name : String) : Option (Option String) :=
  optional (nullable? text?) none fields name

def textsOrEmpty (fields : List (String × Datum)) (name : String) : Option (List String) :=
  optional (listOf? text?) [] fields name

def argsOrEmpty (fields : List (String × Datum)) : Option (List ArgumentEntry) :=
  optional ArgumentEntry.decodePack [] fields "args"

def basesOrEmpty (fields : List (String × Datum)) : Option (List BaseEntry) :=
  optional (listOf? BaseEntry.decode) [] fields "bases"

def RecordEntry.decode (fields : List (String × Datum)) : Option RecordEntry := do
  let bases ← basesOrEmpty fields
  let origin ← optionalText fields "instantiated_from"
  return ⟨bases, origin⟩

def VarEntry.decode (fields : List (String × Datum)) : Option VarEntry := do
  let type ← required text? fields "type"
  let isStaticMember ← optional bool? false fields "static_member"
  let origin ← optionalText fields "instantiated_from"
  return ⟨type, isStaticMember, origin⟩

def FunctionEntry.decode (fields : List (String × Datum)) : Option FunctionEntry := do
  let returns ← optionalText fields "returns"
  let params ← textsOrEmpty fields "params"
  let specializes ← optionalText fields "specializes"
  let origin ← optionalText fields "instantiated_from"
  let candidates ← textsOrEmpty fields "candidates"
  let args ← argsOrEmpty fields
  return ⟨returns, params, specializes, origin, candidates, args⟩

def TemplateEntry.decode (fields : List (String × Datum)) : Option TemplateEntry := do
  let templated ← required text? fields "templated"
  let params ← textsOrEmpty fields "params"
  let origin ← optionalText fields "instantiated_from"
  return ⟨templated, params, origin⟩

def PartialEntry.decode (fields : List (String × Datum)) : Option PartialEntry := do
  let tag ← required tag? fields "tag"
  let template ← required text? fields "template"
  let params ← textsOrEmpty fields "params"
  let args ← argsOrEmpty fields
  let bases ← basesOrEmpty fields
  return ⟨tag, template, params, args, bases⟩

def SpecializationEntry.decode (fields : List (String × Datum)) :
    Option SpecializationEntry := do
  let tag ← required tag? fields "tag"
  let primary ← optionalText fields "template"
  let pattern ← optionalText fields "partial"
  let args ← argsOrEmpty fields
  let bases ← basesOrEmpty fields
  return ⟨tag, primary, pattern, args, bases⟩

def decodePosition (fields : List (String × Datum)) : Option ParmPosition := do
  let depth ← optional uint32? 0 fields "depth"
  let index ← optional uint32? 0 fields "index"
  let isPack ← optional bool? false fields "pack"
  return ⟨depth, index, isPack⟩

/-- The words for the kinds of entries. -/
def kindWords : List String :=
  ["namespace", "class", "struct", "union", "enum", "enum_constant", "field", "var", "parm",
    "function", "method", "constructor", "destructor", "conversion", "class_template",
    "function_template", "alias_template", "partial_specialization", "specialization",
    "access_spec", "typedef", "type_alias", "template_type_parm", "non_type_template_parm",
    "template_template_parm"]

/-- The kind that a word stands for, with the fields that belong to it. -/
def EntryKind.decode (word : String) (fields : List (String × Datum)) : Option EntryKind :=
  match word with
  | "namespace" => some .namespaceDecl
  | "class" => (RecordEntry.decode fields).map (.record .classKey)
  | "struct" => (RecordEntry.decode fields).map (.record .structKey)
  | "union" => (RecordEntry.decode fields).map (.record .unionKey)
  | "enum" => some .enumeration
  | "enum_constant" => (required int64? fields "value").map .enumConstant
  | "field" => (required text? fields "type").map .field
  | "var" => (VarEntry.decode fields).map .var
  | "parm" => (required text? fields "type").map .parm
  | "function" => (FunctionEntry.decode fields).map (.function .free)
  | "method" => (FunctionEntry.decode fields).map (.function .method)
  | "constructor" => (FunctionEntry.decode fields).map (.function .constructor)
  | "destructor" => (FunctionEntry.decode fields).map (.function .destructor)
  | "conversion" => (FunctionEntry.decode fields).map (.function .conversion)
  | "class_template" => (TemplateEntry.decode fields).map (.template .ofClass)
  | "function_template" => (TemplateEntry.decode fields).map (.template .ofFunction)
  | "alias_template" => (TemplateEntry.decode fields).map (.template .ofAlias)
  | "partial_specialization" => (PartialEntry.decode fields).map .partialSpecialization
  | "specialization" => (SpecializationEntry.decode fields).map .specialization
  | "access_spec" => some .accessLabel
  | "typedef" => (required text? fields "type").map .typedef
  | "type_alias" => (required text? fields "type").map .typeAlias
  | "template_type_parm" => (decodePosition fields).map .typeParm
  | "non_type_template_parm" => do
    let type ← required text? fields "type"
    let position ← decodePosition fields
    return .valueParm type position
  | "template_template_parm" => (decodePosition fields).map .templateParm
  | _ => none

/-- The word for the kind of an entry. JSON also takes the position of the word among the
words for kinds. -/
def kindWord? : Format → Datum → Option String
  | _, .text word => some word
  | .json, .integer (.ofNat position) => kindWords[position]?
  | _, _ => none

def Entry.decode (format : Format) : Datum → Option Entry
  | .record fields => do
    let id ← required text? fields "id"
    let name ← optionalText fields "name"
    let parent ← optionalText fields "parent"
    let access ←
      optional (nullable? (keyword? format.isKeywordMark accessKeywords)) none fields "access"
    let word ← required (kindWord? format) fields "kind"
    let kind ← EntryKind.decode word fields
    return ⟨id, name, parent, access, kind⟩
  | _ => none

/-- The name of the unit, in a record or in a list. JSON takes nothing after it. -/
def decodeUnit : Format → Datum → Option String
  | _, .record fields => required text? fields "name"
  | _, .list [name] => text? name
  | .toml, .list (name :: _) => text? name
  | _, _ => none

end CppIntrospect.Manifest

namespace CppIntrospect

open Manifest Datum

/-- Reads a manifest written as a record, or as the list of its two fields. -/
def Manifest.decode (format : Format) : Datum → Option Manifest
  | .record fields => do
    let unitName ← required (decodeUnit format) fields "unit"
    let entries ← optional (listOf? (Entry.decode format)) [] fields "decl"
    return ⟨unitName, entries⟩
  | .list [unit] => do
    return ⟨← decodeUnit format unit, []⟩
  | .list [unit, entries] => do
    return ⟨← decodeUnit format unit, ← listOf? (Entry.decode format) entries⟩
  | _ => none

end CppIntrospect
