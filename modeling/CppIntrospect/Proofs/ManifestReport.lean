import CppIntrospect.Proofs.CursorSession
import CppIntrospect.Proofs.LoadAtomic
import CppIntrospect.Proofs.LoweringFaults
import CppIntrospect.Proofs.UnitReport

/-! The report on a loaded manifest, read off its entries. Where an entry refers to another,
the report shows what the entry with that id says, so it hangs on the order of the entries
only through the ids of the declarations. -/

namespace CppIntrospect.Manifest

open Report

def EntryKind.cursorKind : EntryKind → CursorKind
  | .namespaceDecl => .namespaceDecl
  | .record keyword _ => .ofTag keyword.tag
  | .enumeration => .enumDecl
  | .enumConstant _ => .enumConstantDecl
  | .field _ => .fieldDecl
  | .var _ => .varDecl
  | .parm _ => .parmDecl
  | .function flavor _ => .ofFlavor flavor
  | .template flavor _ => .ofTemplateFlavor flavor
  | .partialSpecialization _ => .classTemplatePartialSpecialization
  | .specialization entry => .ofTag entry.tag
  | .accessLabel => .accessSpecifier
  | .typedef _ => .typedefDecl
  | .typeAlias _ => .typeAliasDecl
  | .typeParm _ => .templateTypeParameter
  | .valueParm _ _ => .nonTypeTemplateParameter
  | .templateParm _ => .templateTemplateParameter

def FunctionEntry.templateClass (entry : FunctionEntry) : TemplateClass :=
  if entry.specializes.isSome then .functionSpecialization
  else if entry.origin.isSome then .memberSpecialization
  else if entry.candidates.isEmpty then .nonTemplate
  else .dependentSpecialization

def EntryKind.templateClass : EntryKind → TemplateClass
  | .template _ _ => .primaryTemplate
  | .partialSpecialization _ => .classPartialSpecialization
  | .specialization _ => .classSpecialization
  | .function _ entry => entry.templateClass
  | _ => .ordinary

/-- The id of the entry that an entry was specialized or instantiated from. -/
def EntryKind.origin? : EntryKind → Option String
  | .record _ entry => entry.origin
  | .var entry => if entry.isStaticMember then entry.origin else none
  | .function _ entry => entry.specializes.or entry.origin
  | .template _ entry => entry.origin
  | .partialSpecialization entry => some entry.template
  | .specialization entry => entry.primary.or entry.pattern
  | _ => none

def EntryKind.params? : EntryKind → Option (List String)
  | .template _ entry => some entry.params
  | .partialSpecialization entry => some entry.params
  | _ => none

/-- The arguments that a report lists. A function without a link shows none. -/
def EntryKind.args? : EntryKind → Option (List ArgumentEntry)
  | .function _ entry => if entry.linkCount = 0 then none else some entry.args
  | .partialSpecialization entry => some entry.args
  | .specialization entry => some entry.args
  | _ => none

def ArgumentEntry.kind : ArgumentEntry → ArgumentKind
  | .null _ => .null
  | .integral _ _ => .integral
  | .expression _ _ => .expression
  | .type _ => .type
  | .decl _ => .declaration
  | .template _ => .template
  | .expansion _ => .templateExpansion
  | .pack _ => .pack

/-- The text of the type that a spelling stands for. -/
def typeText (spelling : String) : String :=
  ((CppType.parse? spelling).map CppType.spelling).getD ""

def Entry.label (entry : Entry) : String :=
  entry.declName ++ " (" ++ entry.kind.cursorKind.spelling ++ ")"

section Lookup

-- How the entries that others refer to are found.
variable (find : String → Option Entry)

def labelOf (target : String) : Option String := (find target).map Entry.label

def nameOf (target : String) : String := ((find target).map Entry.declName).getD ""

def operandText (token : List Char) : String :=
  match Text.integer128? token with
  | some value => value.repr
  | none =>
    match find (String.ofList token) with
    | some entry => entry.declName
    | none => String.ofList token

/-- The text of an expression: operands and operators with one blank between them, if it can
be read so. -/
def exprText (text : String) : String :=
  match Text.words text.toList with
  | [] => String.ofList (Text.trim text.toList)
  | token :: tokens =>
    match operations? tokens with
    | some rest =>
      rest.foldl
        (fun left (op, token) => left ++ " " ++ op.spelling ++ " " ++ operandText find token)
        (operandText find token)
    | none => String.ofList (Text.trim text.toList)

mutual

def ArgumentEntry.text : ArgumentEntry → String
  | .null _ => ""
  | .type spelling => typeText spelling
  | .decl id => "&" ++ nameOf find id
  | .integral value _ => value.toInt.repr
  | .template id => nameOf find id
  | .expansion id => nameOf find id ++ "..."
  | .expression text _ => exprText find text
  | .pack elements => "<" ++ ", ".intercalate (ArgumentEntry.texts elements) ++ ">"

def ArgumentEntry.texts : List ArgumentEntry → List String
  | [] => []
  | arg :: args => arg.text :: ArgumentEntry.texts args

end

/-- The kind of declaration that an entry makes. -/
def EntryKind.produces : EntryKind → CursorKind
  | .template .ofAlias _ => .noDeclFound
  | .template _ entry =>
    ((find entry.templated).map fun entry => entry.kind.cursorKind).getD .noDeclFound
  | .partialSpecialization entry => if entry.tag = .enumTag then .noDeclFound else .ofTag entry.tag
  | _ => .noDeclFound

def Entry.shownAccess (entry : Entry) : Access :=
  if entry.kind.cursorKind.carriesAccess then
    (entry.access.map AccessKeyword.access).getD .unspecified
  else .unspecified

def Entry.baseReport (entry : Entry) (base : BaseEntry) : BaseReport where
  type := typeText base.type
  access := ((base.access.map AccessKeyword.access).getD (defaultAccess entry.kind.tag?)).spelling
  isVirtual := base.isVirtual

def Entry.report (entry : Entry) (id : DeclId) : DeclReport where
  id := id.label
  name := entry.declName
  kind := entry.kind.cursorKind.spelling
  parent := entry.parent.bind (labelOf find)
  access := if entry.shownAccess = .unspecified then none else some entry.shownAccess.spelling
  templateClass := templateClassName entry.kind.templateClass
  specializedFrom := entry.kind.origin?.bind (labelOf find)
  produces :=
    if entry.kind.produces find = .noDeclFound then none
    else some (entry.kind.produces find).spelling
  parameters := entry.kind.params?.map (·.filterMap (labelOf find))
  arguments := entry.kind.args?.map (·.map fun arg => ⟨arg.kind.spelling, arg.text find⟩)
  bases := entry.kind.bases.map entry.baseReport

end Lookup

def report (manifest : Manifest) : Report where
  unit := manifest.unitName
  decls := manifest.entries.zipIdx.map fun (entry, i) => entry.report manifest.find? ⟨i⟩

/-- A unit with the nodes of a lowered manifest. -/
structure Presents (manifest : Manifest) (builder : Builder) (unit : TranslationUnit) : Prop where
  distinct : Scope.Distinct ⟨manifest.entries⟩
  lowered : Lowered manifest builder
  name : unit.name = builder.name
  decls : unit.decls = builder.decls
  bases : unit.bases = builder.bases
  types : unit.types = builder.types
  exprs : unit.exprs = builder.exprs

theorem typeParameter?_chars {scope : Scope} {name : String} {type : CppType}
    (h : scope.typeParameter? name = some type) : type.chars = name.toList := by
  obtain ⟨entry, -, he⟩ := List.exists_of_findSome?_eq_some h
  split at he
  · split at he
    · cases he
      rfl
    · cases he
  · cases he

/-- A template parameter is spelled by its name, so it looks like the name it stands for. -/
theorem chars_substitute (scope : Scope) (type : CppType) :
    (type.substitute scope.typeParameter?).chars = type.chars := by
  induction type with
  | named name =>
    cases hp : scope.typeParameter? name with
    | none => simp [CppType.substitute, hp]
    | some type => simpa [CppType.substitute, hp, CppType.chars] using typeParameter?_chars hp
  | pointer pointee isConst ih => simp [CppType.substitute, CppType.chars, ih]
  | reference referent isConst isRvalue ih =>
    cases isRvalue <;> simp [CppType.substitute, CppType.chars, ih]
  | array element size ih => cases size <;> simp [CppType.substitute, CppType.chars, ih]
  | builtin => rfl
  | templateParam => rfl

/-- The text of an expression tree. -/
def termText (unit : TranslationUnit) : Term → String
  | .integer value => value.repr
  | .mention decl => unit.declName decl
  | .text text => text
  | .binary op lhs rhs => termText unit lhs ++ " " ++ op.spelling ++ " " ++ termText unit rhs

-- Operands have smaller ids, so the id bounds the depth of the tree under it.
theorem exprTextWithin_of_denotes {unit : TranslationUnit} {type : TypeId} {term : Term}
    {id : ExprId} {depth : Nat} (h : Denotes unit.exprs type term id) (hlt : id.index < depth) :
    unit.exprTextWithin depth id = some (termText unit term) := by
  obtain ⟨depth, rfl⟩ : ∃ n, depth = n + 1 := ⟨depth - 1, by omega⟩
  induction h generalizing depth with
  | integer h | mention h | text h =>
    simp [TranslationUnit.exprTextWithin, TranslationUnit.expr?, h, termText]
  | binary h hl hr _ _ ihl ihr =>
    obtain ⟨depth, rfl⟩ : ∃ n, depth = n + 1 := ⟨depth - 1, by omega⟩
    have hleft := ihl depth (by omega)
    have hright := ihr depth (by omega)
    rw [TranslationUnit.exprTextWithin]
    simp [TranslationUnit.expr?, h, termText, hleft, hright]

theorem map_eq_of_rel {α β γ : Type} {r : α → β → Prop} {f : α → γ} {g : β → γ}
    {a : Option α} {b : Option β} (h : Option.Rel r a b) (hr : ∀ x y, r x y → g y = f x) :
    b.map g = a.map f := by
  cases h with
  | none => rfl
  | some h => exact congrArg some (hr _ _ h)

section Mirrors

variable {scope : Scope} {arenas : Arenas}

theorem MirrorsKind.cursorKind {entry : EntryKind} {decl : Decl}
    (h : MirrorsKind scope arenas entry decl.kind) :
    CursorKind.ofDecl decl = entry.cursorKind := by
  obtain ⟨name, access, parent, kind⟩ := decl
  cases h <;> rfl

theorem Mirrors.label {entry : Entry} {decl : Decl} (h : Mirrors scope arenas entry decl) :
    decl.label = entry.label := by
  rw [Decl.label, Entry.label, h.kind.cursorKind, h.name]

theorem Mirrors.shownAccess {entry : Entry} {decl : Decl} (h : Mirrors scope arenas entry decl) :
    decl.shownAccess = entry.shownAccess := by
  rw [Decl.shownAccess, Entry.shownAccess, h.kind.cursorKind, h.access]

theorem MirrorsTemplating.templateClass {entry : FunctionEntry} {templating : FunctionTemplating}
    (h : MirrorsTemplating scope arenas entry templating) :
    TemplateClass.ofTemplating templating = entry.templateClass := by
  cases h <;> simp_all [TemplateClass.ofTemplating, FunctionEntry.templateClass]

theorem MirrorsKind.templateClass {entry : EntryKind} {decl : Decl}
    (h : MirrorsKind scope arenas entry decl.kind) :
    TemplateClass.ofDecl decl = entry.templateClass := by
  obtain ⟨name, access, parent, kind⟩ := decl
  cases h with
  | function _ _ ht => exact ht.templateClass
  | _ => rfl

theorem MirrorsTemplating.origin {entry : FunctionEntry} {function : FunctionDecl}
    (h : MirrorsTemplating scope arenas entry function.templating) :
    Option.Rel scope.Names (entry.specializes.or entry.origin) function.origin := by
  obtain ⟨flavor, returns, params, templating⟩ := function
  cases h with
  | nonTemplate hs ho | pattern hs ho | dependent hs ho =>
    rw [hs, ho]
    exact .none
  | specialization hs _ _ h =>
    rw [hs]
    exact .some h
  | member hs ho _ h =>
    rw [hs, ho]
    exact .some h

theorem MirrorsKind.origin {entry : EntryKind} {decl : Decl}
    (h : MirrorsKind scope arenas entry decl.kind) :
    Option.Rel scope.Names entry.origin? decl.origin := by
  obtain ⟨name, access, parent, kind⟩ := decl
  cases h with
  | record h => exact h
  | @var entry _ _ _ ho =>
    simp only [EntryKind.origin?, Decl.origin, VarDecl.staticOrigin]
    split
    · exact ho
    · exact .none
  | function _ _ ht => exact ht.origin
  | template _ _ ho => exact ho
  | partialSpecialization h => exact .some h
  | specialization h =>
    cases h with
    | primary hp _ h =>
      rw [EntryKind.origin?, hp]
      exact .some h
    | partialSpecialization hn hp h =>
      rw [EntryKind.origin?, hn, hp]
      exact .some h
  | _ => exact .none

theorem MirrorsKind.params {entry : EntryKind} {decl : Decl}
    (h : MirrorsKind scope arenas entry decl.kind) :
    Option.Rel (List.Forall₂ scope.Names) entry.params? decl.params? := by
  obtain ⟨name, access, parent, kind⟩ := decl
  cases h with
  | template _ hp => exact .some hp
  | partialSpecialization _ hp => exact .some hp
  | _ => exact .none

theorem MirrorsTemplating.args {flavor : FunctionFlavor} {entry : FunctionEntry}
    {function : FunctionDecl} (h : MirrorsTemplating scope arenas entry function.templating) :
    Option.Rel (MirrorsArgs scope arenas) (EntryKind.function flavor entry).args?
      function.args? := by
  obtain ⟨_, returns, params, templating⟩ := function
  have hcount : entry.linkCount =
      [entry.specializes.isSome, entry.origin.isSome, !entry.candidates.isEmpty].count true := rfl
  cases h with
  | nonTemplate hs ho hc | pattern hs ho hc =>
    simp only [EntryKind.args?, hcount, hs, ho, hc]
    exact .none
  | specialization hs ho hc _ ha | member hs ho hc _ ha =>
    simp only [EntryKind.args?, hcount, hs, ho, hc]
    exact .some ha
  | dependent hs ho hc _ ha =>
    simp only [EntryKind.args?, hcount, hs, ho, List.isEmpty_eq_false_iff.mpr hc]
    exact .some ha

theorem MirrorsKind.args {entry : EntryKind} {decl : Decl}
    (h : MirrorsKind scope arenas entry decl.kind) :
    Option.Rel (MirrorsArgs scope arenas) entry.args? decl.args? := by
  obtain ⟨name, access, parent, kind⟩ := decl
  cases h with
  | function _ _ ht => exact ht.args
  | partialSpecialization _ _ ha => exact .some ha
  | specialization _ ha => exact .some ha
  | _ => exact .none

end Mirrors

variable {manifest : Manifest} {builder : Builder} {unit : TranslationUnit}

namespace Presents

variable (h : Presents manifest builder unit)
include h

theorem typeText_eq {spelling : String} {id : TypeId}
    (ht : HoldsType ⟨manifest.entries⟩ builder spelling id) :
    unit.typeText id = typeText spelling := by
  obtain ⟨type, hp, hs⟩ := ht
  have hstored : unit.type? id =
      some (type.substitute (Scope.typeParameter? ⟨manifest.entries⟩)) := by
    rw [TranslationUnit.type?, h.types]
    exact hs
  simp [TranslationUnit.typeText, hstored, typeText, hp, CppType.spelling, chars_substitute]

theorem exists_decl {i : Nat} {entry : Entry} (hi : manifest.entries[i]? = some entry) :
    ∃ decl, unit.decl? ⟨i⟩ = some decl ∧ Mirrors ⟨manifest.entries⟩ builder entry decl ∧
      listedBases decl.kind = baseRun (baseOffset manifest.entries i) entry.kind.bases.length := by
  obtain ⟨first, -, hm, hb, hd⟩ := h.lowered.decls i entry hi
  refine ⟨_, by rw [TranslationUnit.decl?, h.decls, hd], hm.keeps (keeps_finish _ _ _ first), ?_⟩
  refine listedBases_finish _ _ hb fun hne => hm.kind.record_of_bases ?_
  rintro hnil
  simp [hnil, baseRun] at hne

theorem arenas_eq : unit.arenas = builder.arenas := by
  rw [TranslationUnit.arenas, h.types, h.exprs, Builder.arenas]

theorem exists_entry {i : DeclId} {decl : Decl} (hd : unit.decl? i = some decl) :
    ∃ entry, manifest.entries[i.index]? = some entry ∧
      Mirrors ⟨manifest.entries⟩ builder entry decl := by
  have hlt : i.index < manifest.entries.length := by
    have hlen := (List.getElem?_eq_some_iff.mp hd).1
    rwa [h.decls, h.lowered.length] at hlen
  obtain ⟨other, ho, hm, -⟩ := h.exists_decl (List.getElem?_eq_getElem hlt)
  obtain rfl := Option.some.inj (ho.symm.trans hd)
  exact ⟨_, List.getElem?_eq_getElem hlt, hm⟩

theorem exists_target {target : String} {id : DeclId}
    (hn : Scope.Names ⟨manifest.entries⟩ target id) :
    ∃ entry decl, manifest.find? target = some entry ∧ unit.decl? id = some decl ∧
      Mirrors ⟨manifest.entries⟩ builder entry decl := by
  obtain ⟨⟨entry, he, hid⟩, hu⟩ := hn
  obtain ⟨decl, hd, hm, -⟩ := h.exists_decl he
  refine ⟨entry, decl, ?_, hd, hm⟩
  obtain ⟨hlt, hget⟩ := List.getElem?_eq_some_iff.mp he
  refine List.find?_eq_some_iff_getElem.mpr ⟨by simpa using hid, id.index, hlt, hget, ?_⟩
  intro j hj
  have hjlt : j < manifest.entries.length := Nat.lt_trans hj hlt
  have hne : manifest.entries[j].id ≠ target := by
    intro heq
    have := hu j _ (List.getElem?_eq_getElem hjlt) heq
    omega
  simpa using hne

theorem label? {target : String} {id : DeclId} (hn : Scope.Names ⟨manifest.entries⟩ target id) :
    unit.label? id = labelOf manifest.find? target := by
  obtain ⟨entry, decl, hf, hd, hm⟩ := h.exists_target hn
  simp [TranslationUnit.label?, labelOf, hf, hd, hm.label]

theorem declName {target : String} {id : DeclId} (hn : Scope.Names ⟨manifest.entries⟩ target id) :
    unit.declName id = nameOf manifest.find? target := by
  obtain ⟨entry, decl, hf, hd, hm⟩ := h.exists_target hn
  simp [TranslationUnit.declName, nameOf, hf, hd, hm.name]

theorem link_label? {target : Option String} {link : Option DeclId}
    (hn : Option.Rel (Scope.Names ⟨manifest.entries⟩) target link) :
    link.bind unit.label? = target.bind (labelOf manifest.find?) := by
  cases hn with
  | none => rfl
  | some hn => exact h.label? hn

theorem params_label? {targets : List String} {params : List DeclId}
    (hn : List.Forall₂ (Scope.Names ⟨manifest.entries⟩) targets params) :
    params.filterMap unit.label? = targets.filterMap (labelOf manifest.find?) := by
  induction hn with
  | nil => rfl
  | cons hn _ ih => rw [List.filterMap_cons, List.filterMap_cons, h.label? hn, ih]

theorem operandText_eq (token : List Char) :
    termText unit (operandTerm ⟨manifest.entries⟩ token) = operandText manifest.find? token := by
  unfold operandTerm operandText
  cases Text.integer128? token with
  | some value => rfl
  | none =>
    cases hf : Scope.find? ⟨manifest.entries⟩ (String.ofList token) with
    | some id =>
      obtain ⟨entry, decl, he, hd, hm⟩ := h.exists_target (names_of_find? h.distinct hf)
      simp [termText, TranslationUnit.declName, hd, he, hm.name]
    | none =>
      have hnone : manifest.find? (String.ofList token) = none := by
        simpa [Scope.find?, Manifest.find?] using hf
      simp [termText, hnone]

theorem termText_foldl (rest : List (BinaryOp × List Char)) {term : Term} {left : String}
    (heq : termText unit term = left) :
    termText unit (rest.foldl (fun lhs (op, token) =>
      .binary op lhs (operandTerm ⟨manifest.entries⟩ token)) term) =
    rest.foldl (fun left (op, token) =>
      left ++ " " ++ op.spelling ++ " " ++ operandText manifest.find? token) left := by
  induction rest generalizing term left with
  | nil => exact heq
  | cons step rest ih => exact ih (by rw [termText, heq, h.operandText_eq])

theorem exprText_eq (text : String) :
    termText unit (termOf ⟨manifest.entries⟩ text) = exprText manifest.find? text := by
  unfold termOf exprText
  cases Text.words text.toList with
  | nil => rfl
  | cons token tokens =>
    cases ho : operations? tokens with
    | none => simp only [ho, termText]
    | some rest =>
      simp only [ho]
      exact h.termText_foldl rest (h.operandText_eq token)

theorem basesOf_eq_run {i : Nat} {entry : Entry} (hi : manifest.entries[i]? = some entry) :
    unit.basesOf ⟨i⟩ = baseRun (baseOffset manifest.entries i) entry.kind.bases.length := by
  obtain ⟨decl, hd, -, hb⟩ := h.exists_decl hi
  have hlist : unit.basesOf ⟨i⟩ = listedBases decl.kind := by
    simp only [TranslationUnit.basesOf, hd, Option.bind_some, Decl.record?, listedBases]
    cases decl.kind <;> rfl
  exact hlist.trans hb

theorem basesOf {i : Nat} {entry : Entry} (hi : manifest.entries[i]? = some entry) :
    (unit.basesOf ⟨i⟩).map unit.baseReport = entry.kind.bases.map entry.baseReport := by
  rw [h.basesOf_eq_run hi]
  apply List.ext_getElem?
  intro j
  simp only [baseRun, List.getElem?_map]
  cases hj : entry.kind.bases[j]? with
  | none =>
    have hge := List.getElem?_eq_none_iff.mp hj
    simp [hge]
  | some base =>
    obtain ⟨hlt, -⟩ := List.getElem?_eq_some_iff.mp hj
    obtain ⟨spec, hs, hm⟩ := h.lowered.bases i entry j base hi hj
    have hbase : unit.base? ⟨baseOffset manifest.entries i + j⟩ = some spec := by
      rw [TranslationUnit.base?, h.bases, hs]
    simp [hlt, TranslationUnit.baseReport, hbase, Entry.baseReport,
      h.typeText_eq hm.type, hm.access, hm.isVirtual]

theorem produces_eq {i : Nat} {entry : Entry} {decl : Decl} (hd : unit.decl? ⟨i⟩ = some decl)
    (hm : Mirrors ⟨manifest.entries⟩ builder entry decl) :
    unit.produces ⟨i⟩ decl = entry.kind.produces manifest.find? := by
  have hk := hm.kind
  rw [TranslationUnit.produces, hk.cursorKind]
  obtain ⟨name, access, parent, kind⟩ := decl
  generalize entry.kind = written at hk
  cases hk with
  | @template flavor entry _ _ _ hn =>
    have htemplated : unit.templatedKind ⟨i⟩ = ((manifest.find? entry.templated).map
        fun entry => entry.kind.cursorKind).getD .noDeclFound := by
      obtain ⟨target, decl, hf, ht, hm⟩ := h.exists_target hn
      simp [TranslationUnit.templatedKind, hd, Decl.template?, ht, hf, hm.kind.cursorKind]
    cases flavor with
    | ofClass | ofFunction => exact htemplated
    | ofAlias => rfl
  | partialSpecialization =>
    simp [EntryKind.cursorKind, TranslationUnit.specializedKind, hd, Decl.record?,
      EntryKind.produces]
  | @record keyword => cases keyword <;> rfl
  | @specialization entry =>
    obtain ⟨tag, primary, pattern, args, bases⟩ := entry
    cases tag <;> rfl
  | @function flavor => cases flavor <;> rfl
  | _ => rfl

end Presents

mutual

theorem Presents.argumentText (h : Presents manifest builder unit) {entry : ArgumentEntry}
    {arg : TemplateArgument} : MirrorsArg ⟨manifest.entries⟩ builder entry arg →
      unit.argumentText arg = some (entry.text manifest.find?)
  | .null => rfl
  | .type ht => by rw [TranslationUnit.argumentText, h.typeText_eq ht, ArgumentEntry.text]
  | .integral _ => rfl
  | .decl hn => by rw [TranslationUnit.argumentText, h.declName hn, ArgumentEntry.text]
  | .template hn => by rw [TranslationUnit.argumentText, h.declName hn, ArgumentEntry.text]
  | .expansion hn => by rw [TranslationUnit.argumentText, h.declName hn, ArgumentEntry.text]
  | .expression _ he => by
    rw [← h.arenas_eq, TranslationUnit.arenas] at he
    rw [TranslationUnit.argumentText, TranslationUnit.exprText, ArgumentEntry.text,
      exprTextWithin_of_denotes he (Nat.lt_succ_of_lt he.lt), h.exprText_eq]
  | .pack hs => by
    rw [TranslationUnit.argumentText, h.argumentTexts hs, ArgumentEntry.text]
    rfl

theorem Presents.argumentTexts (h : Presents manifest builder unit)
    {entries : List ArgumentEntry} {args : List TemplateArgument} :
    MirrorsArgs ⟨manifest.entries⟩ builder entries args →
      unit.argumentTexts args = some (ArgumentEntry.texts manifest.find? entries)
  | .nil => rfl
  | .cons ha hs => by
    rw [TranslationUnit.argumentTexts, h.argumentText ha, h.argumentTexts hs, ArgumentEntry.texts]

end

theorem Presents.arguments_end (h : Presents manifest builder unit) {entries : List ArgumentEntry}
    {args : List TemplateArgument} (hm : MirrorsArgs ⟨manifest.entries⟩ builder entries args) :
    ∀ arg ∈ args, unit.argumentText arg ≠ none := by
  have hall := hm.forall₂
  clear hm
  induction hall with
  | nil => simp
  | cons ha _ ih =>
    rw [List.forall_mem_cons, h.argumentText ha]
    exact ⟨Option.some_ne_none _, ih⟩

/-- Operators are lowered after their operands, so every text of a loaded manifest ends. -/
theorem Presents.textsEnd (h : Presents manifest builder unit) {decl : Decl}
    (hd : decl ∈ unit.decls) : unit.TextsEnd decl := by
  obtain ⟨i, hi⟩ := List.getElem?_of_mem hd
  obtain ⟨entry, -, hm⟩ := h.exists_entry (show unit.decl? ⟨i⟩ = some decl from hi)
  have hargs := hm.kind.args
  unfold TranslationUnit.TextsEnd
  cases ha : decl.args? with
  | none => simp
  | some args =>
    rw [ha] at hargs
    cases hw : entry.kind.args? with
    | none =>
      rw [hw] at hargs
      cases hargs
    | some entries =>
      rw [hw] at hargs
      cases hargs with
      | some hall => exact h.arguments_end hall

theorem MirrorsArg.kind {scope : Scope} {arenas : Arenas} {entry : ArgumentEntry}
    {arg : TemplateArgument} (h : MirrorsArg scope arenas entry arg) : arg.kind = entry.kind := by
  cases h <;> rfl

theorem Presents.arguments (h : Presents manifest builder unit) {entries : List ArgumentEntry}
    {args : List TemplateArgument} (hm : MirrorsArgs ⟨manifest.entries⟩ builder entries args) :
    args.map unit.argumentReport =
      entries.map fun arg => ⟨arg.kind.spelling, arg.text manifest.find?⟩ := by
  have hall := hm.forall₂
  clear hm
  induction hall with
  | nil => rfl
  | cons ha _ ih =>
    rw [List.map_cons, List.map_cons, ih, TranslationUnit.argumentReport, h.argumentText ha,
      ha.kind, Option.getD_some]

theorem Presents.declReport (h : Presents manifest builder unit) {i : Nat} {entry : Entry}
    {decl : Decl} (hi : manifest.entries[i]? = some entry) (hd : unit.decl? ⟨i⟩ = some decl) :
    unit.declReport ⟨i⟩ decl = entry.report manifest.find? ⟨i⟩ := by
  obtain ⟨other, hother, hm, -⟩ := h.exists_decl hi
  obtain rfl : other = decl := Option.some_inj.mp (hother.symm.trans hd)
  have hparams := map_eq_of_rel hm.kind.params fun _ _ => h.params_label?
  have hargs := map_eq_of_rel hm.kind.args fun _ _ => h.arguments
  rw [TranslationUnit.declReport, Entry.report, hparams, hargs, h.basesOf hi, h.produces_eq hd hm,
    h.link_label? hm.parent, h.link_label? hm.kind.origin, hm.name, hm.kind.cursorKind,
    hm.kind.templateClass, hm.shownAccess]

theorem eq_ok_of_toOption {ε α : Type} {result : Except ε α} {value : α}
    (h : result.toOption = some value) : result = .ok value := by
  cases result with
  | error fault => cases h
  | ok other => exact congrArg Except.ok (Option.some.inj h)

theorem presents_of_load {store : Store} {id : UnitId}
    (h : (manifest.load store).result = .ok id) :
    ∃ builder unit, Presents manifest builder unit ∧ unit.id = id ∧
      (manifest.load store).store.resolve id = .ok unit := by
  obtain ⟨builder, unit, hb, hbuild, hunit⟩ := built_of_load h
  refine ⟨builder, unit, ?_, Builder.build_id hbuild, Store.resolve_eq_ok_iff.mpr hunit⟩
  unfold Builder.build at hbuild
  split at hbuild
  · cases hbuild
  · cases hbuild
    exact ⟨distinct_of_toBuilder hb, lowered_of_toBuilder hb, rfl, rfl, rfl, rfl, rfl⟩

/-- The report on a loaded manifest can be read off its entries. -/
theorem ofUnit_load {store : Store} {id : UnitId} (h : (manifest.load store).result = .ok id) :
    Report.ofUnit (manifest.load store).store id none = .ok manifest.report := by
  obtain ⟨builder, unit, hp, rfl, hlive⟩ := presents_of_load h
  have hlen : unit.decls.length = manifest.entries.length := by rw [hp.decls, hp.lowered.length]
  have hdecls : unit.report.decls = manifest.report.decls := by
    apply List.ext_getElem?
    intro i
    simp only [TranslationUnit.report, report, List.getElem?_map, List.getElem?_zipIdx,
      Nat.zero_add]
    cases hi : manifest.entries[i]? with
    | none =>
      have hge := List.getElem?_eq_none_iff.mp hi
      rw [List.getElem?_eq_none (hlen ▸ hge)]
      rfl
    | some entry =>
      obtain ⟨decl, hd, -⟩ := hp.exists_decl hi
      rw [show unit.decls[i]? = some decl from hd]
      exact congrArg some (hp.declReport hi hd)
  have hname : unit.report.unit = manifest.report.unit := hp.name.trans hp.lowered.name
  have hreport : unit.report = manifest.report := congr (congrArg Report.mk hname) hdecls
  rw [ofUnit_live hlive fun _ => hp.textsEnd, hreport]

end CppIntrospect.Manifest
