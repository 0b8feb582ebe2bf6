import CppIntrospect.Manifest.Decode
import CppIntrospect.Manifest.Encode

/-! A manifest written as data and read again is the same manifest. A reader looks up its fields
by name, so what matters is which fields of a record have that name: the pieces that a writer
puts together have different names, and a piece that was left out stands for its default. -/

namespace CppIntrospect

namespace Datum

variable {α : Type} {read : Datum → Option α} {fields own : List (String × Datum)} {name : String}

/-- The fields of a record that have a name. -/
abbrev named (fields : List (String × Datum)) (name : String) : List (String × Datum) :=
  fields.filter (·.1 == name)

theorem required_of_named {value : Datum} {a : α} (h : named fields name = [(name, value)])
    (hr : read value = some a) : required read fields name = some a := by
  simp only [required, fieldOnce, h, hr]

theorem optional_of_named {default a : α} {value : Datum}
    (h : named fields name = [(name, value)]) (hr : read value = some a) :
    optional read default fields name = some a := by
  simp only [optional, fieldOnce, h, hr]

theorem optional_of_absent {default : α} (h : named fields name = []) :
    optional read default fields name = some default := by
  simp only [optional, fieldOnce, h]

theorem named_append (fields more : List (String × Datum)) (name : String) :
    named (fields ++ more) name = named fields name ++ named more name :=
  List.filter_append ..

theorem fieldOnce_append (h : named own name = []) :
    fieldOnce (own ++ fields) name = fieldOnce fields name := by
  simp only [fieldOnce, named_append, h, List.nil_append]

theorem readAll_map {write : α → Datum} (h : ∀ x, read (write x) = some x) (xs : List α) :
    readAll read (xs.map write) = some xs := by
  induction xs with
  | nil => rfl
  | cons x xs ih => simp only [List.map_cons, readAll, h, ih]

theorem int64?_toInt (value : Int64) : int64? (.integer value.toInt) = some value := by
  have hlo := Int64.minValue_le_toInt value
  have hhi := Int64.toInt_le value
  rw [int64?, if_pos ⟨hlo, hhi⟩, Int64.ofInt_toInt]

theorem uint32?_toNat (value : UInt32) : uint32? (.integer value.toNat) = some value := by
  have hlt := value.toNat_lt
  rw [uint32?, if_pos ⟨Int.natCast_nonneg _, by exact_mod_cast hlt⟩, Int.toNat_natCast,
    UInt32.ofNat_toNat]

theorem text?_text (value : String) : text? (.text value) = some value := rfl

theorem text_of_named {value : String} (h : named fields name = [(name, .text value)]) :
    required text? fields name = some value :=
  required_of_named h (text?_text value)

theorem bool_of_named {default value : Bool} (h : named fields name = [(name, .bool value)]) :
    optional bool? default fields name = some value :=
  optional_of_named h rfl

theorem uint32_of_named {default value : UInt32}
    (h : named fields name = [(name, .integer value.toNat)]) :
    optional uint32? default fields name = some value :=
  optional_of_named h (uint32?_toNat value)

end Datum

namespace Manifest

open Datum

section Pieces

variable {name other : String}

@[simp]
theorem named_textField (value : Option String) :
    named (textField name value) other = if name = other then textField name value else [] := by
  cases value <;> simp [textField, List.filter_cons]

@[simp]
theorem named_listField (items : List Datum) :
    named (listField name items) other = if name = other then listField name items else [] := by
  cases items <;> simp [listField, List.filter_cons]

@[simp]
theorem named_accessField (access : Option AccessKeyword) :
    named (accessField access) other = if "access" = other then accessField access else [] := by
  cases access <;> simp [accessField, List.filter_cons]

variable {fields : List (String × Datum)}

theorem optionalText_of_named {value : Option String}
    (h : named fields name = textField name value) : optionalText fields name = some value := by
  cases value with
  | none => exact optional_of_absent h
  | some text => exact optional_of_named h rfl

theorem optional_of_listField {α : Type} {read : Datum → Option (List α)} {items : List Datum}
    {values : List α} (h : named fields name = listField name items)
    (hr : read (.list items) = some values) (hn : items = [] → values = []) :
    optional read [] fields name = some values := by
  cases items with
  | nil => rw [optional_of_absent h, hn rfl]
  | cons item items => exact optional_of_named h hr

theorem keyword?_access (isMark : Datum → Bool) (access : AccessKeyword) :
    keyword? isMark accessKeywords (.text access.keyword) = some access := by
  cases access <;> rfl

theorem optional_access {isMark : Datum → Bool} {access : Option AccessKeyword}
    (h : named fields "access" = accessField access) :
    optional (nullable? (keyword? isMark accessKeywords)) none fields "access" = some access := by
  cases access with
  | none => exact optional_of_absent h
  | some access =>
    refine optional_of_named h ?_
    rw [nullable?, keyword?_access, Option.map_some]
    nofun

theorem tag_of_named {tag : Tag} (h : named fields name = [(name, .text (tagKeyword tag))]) :
    required tag? fields name = some tag := by
  refine required_of_named h ?_
  cases tag <;> rfl

end Pieces

mutual

theorem ArgumentEntry.decode_encode : ∀ arg : ArgumentEntry, decode arg.encode = some arg
  | .null flag => by simp [encode, decode, ofFields, required, fieldOnce, bool?]
  | .integral value spelling => by
    simp [encode, decode, ofFields, required, fieldOnce, text?, int64?_toInt]
  | .expression source spelling => by simp [encode, decode, ofFields, required, fieldOnce, text?]
  | .type spelling => by simp [encode, decode, ofFields, required, fieldOnce, text?]
  | .decl id => by simp [encode, decode, ofFields, required, fieldOnce, text?]
  | .template id => by simp [encode, decode, ofFields, required, fieldOnce, text?]
  | .expansion id => by simp [encode, decode, ofFields, required, fieldOnce, text?]
  | .pack elements => by
    simp [encode, decode, ofFields, required, fieldOnce, decodePacks, decodePack,
      ArgumentEntry.decodeAll_encodeAll elements]

theorem ArgumentEntry.decodeAll_encodeAll :
    ∀ args : List ArgumentEntry, decodeAll (encodeAll args) = some args
  | [] => rfl
  | arg :: args => by
    simp only [encodeAll, decodeAll, ArgumentEntry.decode_encode arg,
      ArgumentEntry.decodeAll_encodeAll args]

end

theorem BaseEntry.decode_encode (base : BaseEntry) : decode base.encode = some base := by
  let fields : List (String × Datum) := ("type", .text base.type) :: accessField base.access ++
    [("virtual", .bool base.isVirtual)]
  have htype : required text? fields "type" = some base.type := text_of_named (by simp [fields])
  have haccess : optional (nullable? access?) none fields "access" = some base.access :=
    optional_access (by simp [fields])
  have hvirtual : optional bool? false fields "virtual" = some base.isVirtual :=
    bool_of_named (by simp [fields])
  change decode (.record fields) = _
  simp only [decode, htype, haccess, hvirtual]
  rfl

section Lists

variable {fields : List (String × Datum)}

theorem textsOrEmpty_of_named {name : String} {values : List String}
    (h : named fields name = listField name (textList values)) :
    textsOrEmpty fields name = some values :=
  optional_of_listField h (readAll_map text?_text values) List.map_eq_nil_iff.mp

theorem textsOrEmpty_of_list {name : String} {values : List String}
    (h : named fields name = [(name, .list (textList values))]) :
    textsOrEmpty fields name = some values :=
  optional_of_named h (readAll_map text?_text values)

theorem basesOrEmpty_of_named {bases : List BaseEntry}
    (h : named fields "bases" = listField "bases" (bases.map BaseEntry.encode)) :
    basesOrEmpty fields = some bases :=
  optional_of_listField h (readAll_map BaseEntry.decode_encode bases) List.map_eq_nil_iff.mp

theorem argsOrEmpty_of_named {args : List ArgumentEntry}
    (h : named fields "args" = listField "args" (ArgumentEntry.encodeAll args)) :
    argsOrEmpty fields = some args := by
  refine optional_of_listField h (ArgumentEntry.decodeAll_encodeAll args) fun hn => ?_
  cases args with
  | nil => rfl
  | cons arg args => cases hn

theorem argsOrEmpty_of_list {args : List ArgumentEntry}
    (h : named fields "args" = [("args", .list (ArgumentEntry.encodeAll args))]) :
    argsOrEmpty fields = some args :=
  optional_of_named h (ArgumentEntry.decodeAll_encodeAll args)

end Lists

theorem RecordEntry.decode_fields (entry : RecordEntry) : decode entry.fields = some entry := by
  have hbases : basesOrEmpty entry.fields = some entry.bases :=
    basesOrEmpty_of_named (by simp [fields])
  have horigin : optionalText entry.fields "instantiated_from" = some entry.origin :=
    optionalText_of_named (by simp [fields])
  simp only [decode, hbases, horigin]
  rfl

theorem VarEntry.decode_fields (entry : VarEntry) : decode entry.fields = some entry := by
  have htype : required text? entry.fields "type" = some entry.type :=
    text_of_named (by simp [fields])
  have hstatic : optional bool? false entry.fields "static_member" = some entry.isStaticMember :=
    bool_of_named (by simp [fields])
  have horigin : optionalText entry.fields "instantiated_from" = some entry.origin :=
    optionalText_of_named (by simp [fields])
  simp only [decode, htype, hstatic, horigin]
  rfl

theorem FunctionEntry.decode_fields (entry : FunctionEntry) :
    decode entry.fields = some entry := by
  have hreturns : optionalText entry.fields "returns" = some entry.returns :=
    optionalText_of_named (by simp [fields])
  have hparams : textsOrEmpty entry.fields "params" = some entry.params :=
    textsOrEmpty_of_named (by simp [fields])
  have hspecializes : optionalText entry.fields "specializes" = some entry.specializes :=
    optionalText_of_named (by simp [fields])
  have horigin : optionalText entry.fields "instantiated_from" = some entry.origin :=
    optionalText_of_named (by simp [fields])
  have hcandidates : textsOrEmpty entry.fields "candidates" = some entry.candidates :=
    textsOrEmpty_of_named (by simp [fields])
  have hargs : argsOrEmpty entry.fields = some entry.args :=
    argsOrEmpty_of_named (by simp [fields])
  simp only [decode, hreturns, hparams, hspecializes, horigin, hcandidates, hargs]
  rfl

theorem TemplateEntry.decode_fields (entry : TemplateEntry) :
    decode entry.fields = some entry := by
  have htemplated : required text? entry.fields "templated" = some entry.templated :=
    text_of_named (by simp [fields])
  have hparams : textsOrEmpty entry.fields "params" = some entry.params :=
    textsOrEmpty_of_list (by simp [fields])
  have horigin : optionalText entry.fields "instantiated_from" = some entry.origin :=
    optionalText_of_named (by simp [fields])
  simp only [decode, htemplated, hparams, horigin]
  rfl

theorem PartialEntry.decode_fields (entry : PartialEntry) : decode entry.fields = some entry := by
  have htag : required tag? entry.fields "tag" = some entry.tag :=
    tag_of_named (by simp [fields])
  have htemplate : required text? entry.fields "template" = some entry.template :=
    text_of_named (by simp [fields])
  have hparams : textsOrEmpty entry.fields "params" = some entry.params :=
    textsOrEmpty_of_list (by simp [fields])
  have hargs : argsOrEmpty entry.fields = some entry.args :=
    argsOrEmpty_of_list (by simp [fields])
  have hbases : basesOrEmpty entry.fields = some entry.bases :=
    basesOrEmpty_of_named (by simp [fields])
  simp only [decode, htag, htemplate, hparams, hargs, hbases]
  rfl

theorem SpecializationEntry.decode_fields (entry : SpecializationEntry) :
    decode entry.fields = some entry := by
  have htag : required tag? entry.fields "tag" = some entry.tag :=
    tag_of_named (by simp [fields])
  have hprimary : optionalText entry.fields "template" = some entry.primary :=
    optionalText_of_named (by simp [fields])
  have hpattern : optionalText entry.fields "partial" = some entry.pattern :=
    optionalText_of_named (by simp [fields])
  have hargs : argsOrEmpty entry.fields = some entry.args :=
    argsOrEmpty_of_list (by simp [fields])
  have hbases : basesOrEmpty entry.fields = some entry.bases :=
    basesOrEmpty_of_named (by simp [fields])
  simp only [decode, htag, hprimary, hpattern, hargs, hbases]
  rfl

theorem decodePosition_append (position : ParmPosition) (own : List (String × Datum))
    (h : ∀ name ∈ ["depth", "index", "pack"], named own name = []) :
    decodePosition (own ++ positionFields position) = some position := by
  have hdepth : optional uint32? 0 (own ++ positionFields position) "depth" =
      some position.depth :=
    uint32_of_named (by simp [positionFields, h])
  have hindex : optional uint32? 0 (own ++ positionFields position) "index" =
      some position.index :=
    uint32_of_named (by simp [positionFields, h])
  have hpack : optional bool? false (own ++ positionFields position) "pack" =
      some position.isPack :=
    bool_of_named (by simp [positionFields, h])
  simp only [decodePosition, hdepth, hindex, hpack]
  rfl

theorem required_type (type : String) :
    required text? [("type", .text type)] "type" = some type :=
  text_of_named (by simp)

theorem EntryKind.decode_encode (kind : EntryKind) :
    decode kind.encode.1 kind.encode.2 = some kind := by
  unfold decode
  cases kind with
  | namespaceDecl => simp only [encode]
  | record keyword entry =>
    cases keyword <;> simp only [encode, entry.decode_fields, Option.map_some]
  | enumeration => simp only [encode]
  | enumConstant value =>
    have hvalue : required int64? [("value", .integer value.toInt)] "value" = some value :=
      required_of_named (by simp) (int64?_toInt value)
    simp only [encode, hvalue, Option.map_some]
  | field type => simp only [encode, required_type, Option.map_some]
  | var entry => simp only [encode, entry.decode_fields, Option.map_some]
  | parm type => simp only [encode, required_type, Option.map_some]
  | function flavor entry =>
    cases flavor <;> simp only [encode, entry.decode_fields, Option.map_some]
  | template flavor entry =>
    cases flavor <;> simp only [encode, entry.decode_fields, Option.map_some]
  | partialSpecialization entry => simp only [encode, entry.decode_fields, Option.map_some]
  | specialization entry => simp only [encode, entry.decode_fields, Option.map_some]
  | accessLabel => simp only [encode]
  | typedef type => simp only [encode, required_type, Option.map_some]
  | typeAlias type => simp only [encode, required_type, Option.map_some]
  | typeParm position =>
    have hposition := decodePosition_append position [] (by simp)
    rw [List.nil_append] at hposition
    simp only [encode, hposition, Option.map_some]
  | valueParm type position =>
    have htype : required text? (("type", .text type) :: positionFields position) "type" =
        some type :=
      text_of_named (by simp [positionFields])
    have hposition := decodePosition_append position [("type", .text type)] (by simp)
    rw [List.singleton_append] at hposition
    simp only [encode, htype, hposition]
    rfl
  | templateParm position =>
    have hposition := decodePosition_append position [] (by simp)
    rw [List.nil_append] at hposition
    simp only [encode, hposition, Option.map_some]

/-- The names of the fields that every kind of entry may have. -/
def ownNames : List String := ["id", "name", "parent", "access", "kind"]

/-- The names of the fields that belong to a kind. -/
def kindNames : List String :=
  ["bases", "instantiated_from", "value", "type", "static_member", "returns", "params",
    "specializes", "candidates", "args", "templated", "tag", "template", "partial", "depth",
    "index", "pack"]

theorem ne_of_mem_names : ∀ own ∈ ownNames, ∀ other ∈ kindNames, other ≠ own := by decide

theorem EntryKind.decode_append {own fields : List (String × Datum)}
    (h : ∀ name ∈ kindNames, named own name = []) (word : String) :
    decode word (own ++ fields) = decode word fields := by
  have hf : ∀ name ∈ kindNames, fieldOnce (own ++ fields) name = fieldOnce fields name :=
    fun name hn => fieldOnce_append (h name hn)
  simp only [kindNames, List.forall_mem_cons] at hf
  unfold decode
  split <;> simp only [RecordEntry.decode, VarEntry.decode, FunctionEntry.decode,
    TemplateEntry.decode, PartialEntry.decode, SpecializationEntry.decode, decodePosition,
    basesOrEmpty, argsOrEmpty, textsOrEmpty, optionalText, required, Datum.optional, hf]

theorem EntryKind.named_encode (kind : EntryKind) {name : String}
    (h : ∀ other ∈ kindNames, other ≠ name) : named kind.encode.2 name = [] := by
  simp only [kindNames, List.forall_mem_cons] at h
  cases kind with
  | record keyword entry => cases keyword <;> simp [encode, RecordEntry.fields, h]
  | var entry => simp [encode, VarEntry.fields, h]
  | function flavor entry => cases flavor <;> simp [encode, FunctionEntry.fields, h]
  | template flavor entry => cases flavor <;> simp [encode, TemplateEntry.fields, h]
  | partialSpecialization entry => simp [encode, PartialEntry.fields, h]
  | specialization entry => simp [encode, SpecializationEntry.fields, h]
  | typeParm position => simp [encode, positionFields, h]
  | valueParm type position => simp [encode, positionFields, h]
  | templateParm position => simp [encode, positionFields, h]
  | _ => simp [encode, h]

namespace Entry

/-- The fields of an entry that do not belong to its kind. -/
def ownFields (entry : Entry) : List (String × Datum) :=
  ("id", .text entry.id) :: textField "name" entry.name ++ textField "parent" entry.parent ++
    accessField entry.access ++ [("kind", .text entry.kind.encode.1)]

theorem encode_eq (entry : Entry) :
    entry.encode = .record (entry.ownFields ++ entry.kind.encode.2) := by
  simp only [encode, ownFields, List.append_assoc, List.cons_append, List.nil_append]

theorem named_ownFields (entry : Entry) {name : String} (h : name ∈ kindNames) :
    named entry.ownFields name = [] := by
  have hne : ∀ own ∈ ownNames, own ≠ name := fun own ho => (ne_of_mem_names own ho name h).symm
  simp only [ownNames, List.forall_mem_cons] at hne
  simp [ownFields, hne]

theorem named_of_mem (entry : Entry) {name : String} (h : name ∈ ownNames) :
    named (entry.ownFields ++ entry.kind.encode.2) name = named entry.ownFields name := by
  rw [named_append, entry.kind.named_encode (ne_of_mem_names name h), List.append_nil]

theorem decode_encode (format : Format) (entry : Entry) :
    decode format entry.encode = some entry := by
  have hmem : ∀ name ∈ ownNames, named (entry.ownFields ++ entry.kind.encode.2) name =
      named entry.ownFields name := fun _ => entry.named_of_mem
  have hid : required text? (entry.ownFields ++ entry.kind.encode.2) "id" = some entry.id :=
    text_of_named ((hmem _ (by decide)).trans (by simp [ownFields]))
  have hname : optionalText (entry.ownFields ++ entry.kind.encode.2) "name" = some entry.name :=
    optionalText_of_named ((hmem _ (by decide)).trans (by simp [ownFields]))
  have hparent : optionalText (entry.ownFields ++ entry.kind.encode.2) "parent" =
      some entry.parent :=
    optionalText_of_named ((hmem _ (by decide)).trans (by simp [ownFields]))
  have haccess : optional (nullable? (keyword? format.isKeywordMark accessKeywords)) none
      (entry.ownFields ++ entry.kind.encode.2) "access" = some entry.access :=
    optional_access ((hmem _ (by decide)).trans (by simp [ownFields]))
  have hword : required (kindWord? format) (entry.ownFields ++ entry.kind.encode.2) "kind" =
      some entry.kind.encode.1 := by
    have hkey : named (entry.ownFields ++ entry.kind.encode.2) "kind" =
        [("kind", .text entry.kind.encode.1)] :=
      (hmem _ (by decide)).trans (by simp [ownFields])
    refine required_of_named hkey ?_
    cases format <;> rfl
  have hkind : EntryKind.decode entry.kind.encode.1 (entry.ownFields ++ entry.kind.encode.2) =
      some entry.kind := by
    rw [EntryKind.decode_append fun _ => entry.named_ownFields]
    exact entry.kind.decode_encode
  simp only [encode_eq, decode, hid, hname, hparent, haccess, hword, Option.bind_eq_bind,
    Option.bind_some, hkind]
  rfl

end Entry

/-- Reading what was written of a manifest gives the manifest back, with its entries of every
kind and their arguments to any depth. -/
theorem decode_written (format : Format) (manifest : Manifest) :
    Manifest.decode format manifest.encode = some manifest := by
  obtain ⟨unitName, entries⟩ := manifest
  let fields : List (String × Datum) :=
    [("unit", .record [("name", .text unitName)]), ("decl", .list (entries.map Entry.encode))]
  have hunit : required (decodeUnit format) fields "unit" = some unitName := by
    have hnamed : named fields "unit" = [("unit", .record [("name", .text unitName)])] := by
      simp [fields]
    have hname : required text? [("name", .text unitName)] "name" = some unitName :=
      text_of_named (by simp)
    refine required_of_named hnamed ?_
    cases format <;> exact hname
  have hentries : optional (listOf? (Entry.decode format)) [] fields "decl" = some entries := by
    have hnamed : named fields "decl" = [("decl", .list (entries.map Entry.encode))] := by
      simp [fields]
    exact optional_of_named hnamed (readAll_map (Entry.decode_encode format) entries)
  change Manifest.decode format (.record fields) = _
  simp only [Manifest.decode, hunit, hentries]
  rfl

end Manifest

end CppIntrospect
