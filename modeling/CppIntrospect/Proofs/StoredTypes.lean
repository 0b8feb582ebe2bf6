import CppIntrospect.Proofs.BaseArena
import CppIntrospect.Proofs.TypeSpelling

/-! The types of a loaded manifest. A type is stored with the layers of its spelling, and a name
under them that a type parameter carries has become that parameter. Each type is stored once, so
two places share an id exactly if their spellings are read alike. -/

namespace CppIntrospect

namespace CppType

inductive Layer where
  | pointer (isConst : Bool)
  | reference (isConst isRvalue : Bool)
  | array (size : Option UInt64)
  deriving DecidableEq, Repr

/-- The layers over the leaf, from the outside in. -/
def shape : CppType → List Layer
  | pointer pointee isConst => .pointer isConst :: pointee.shape
  | reference referent isConst isRvalue => .reference isConst isRvalue :: referent.shape
  | array element size => .array size :: element.shape
  | _ => []

def Layer.over : Layer → CppType → CppType
  | pointer isConst, inner => .pointer inner isConst
  | reference isConst isRvalue, inner => .reference inner isConst isRvalue
  | array size, inner => .array inner size

theorem foldr_shape (type : CppType) : type.shape.foldr Layer.over type.leaf = type := by
  induction type with
  | pointer pointee isConst ih => exact congrArg (pointer · isConst) ih
  | reference referent isConst isRvalue ih => exact congrArg (reference · isConst isRvalue) ih
  | array element size ih => exact congrArg (array · size) ih
  | builtin | named | templateParam => rfl

theorem eq_of_shape_of_leaf {type other : CppType} (hs : type.shape = other.shape)
    (hl : type.leaf = other.leaf) : type = other := by
  rw [← foldr_shape type, hs, hl, foldr_shape]

theorem isDependent_iff_leaf (type : CppType) :
    type.isDependent = true ↔ ∃ name depth index, type.leaf = templateParam name depth index := by
  induction type with
  | builtin => exact ⟨nofun, nofun⟩
  | named => exact ⟨nofun, nofun⟩
  | templateParam name depth index => exact ⟨fun _ => ⟨name, depth, index, rfl⟩, fun _ => rfl⟩
  | pointer _ _ ih | reference _ _ _ ih | array _ _ ih => exact ih

end CppType

/-- A place where a type is written. The path of an argument leads through packs. -/
inductive TypePlace where
  | declared (decl : Nat)
  | base (decl position : Nat)
  | argument (decl : Nat) (path : List Nat)
  deriving DecidableEq, Repr

/-- The item at the end of a path of positions. -/
def nested? {α : Type} (elements : α → List α) : List α → List Nat → Option α
  | _, [] => none
  | items, [i] => items[i]?
  | items, i :: j :: path => items[i]?.bind fun item => nested? elements (elements item) (j :: path)

def DeclKind.type? : DeclKind → Option TypeId
  | .field type | .parm type | .typedef type | .typeAlias type | .valueParm type _ => some type
  | .var decl => some decl.type
  | .function decl => some decl.returns
  | _ => none

namespace TranslationUnit

/-- The type of an argument. An expression has its own. -/
def argumentType? (unit : TranslationUnit) : TemplateArgument → Option TypeId
  | .type type => some type
  | .integral _ type => some type
  | .expression expr => (unit.expr? expr).map Expr.type
  | _ => none

/-- The id of the type that a unit has at a place. -/
def typeAt? (unit : TranslationUnit) : TypePlace → Option TypeId
  | .declared i => (unit.decl? ⟨i⟩).bind (·.kind.type?)
  | .base i j => (unit.basesOf ⟨i⟩)[j]?.bind fun id => (unit.base? id).map BaseSpecifier.type
  | .argument i path => (unit.decl? ⟨i⟩).bind fun decl => decl.args?.bind fun args =>
    (nested? TemplateArgument.packElements args path).bind unit.argumentType?

end TranslationUnit

namespace Manifest

def ArgumentEntry.elements : ArgumentEntry → List ArgumentEntry
  | .pack elements => elements
  | _ => []

/-- The type that an entry gives for itself, or what a function returns. -/
def EntryKind.typeSpelling? : EntryKind → Option String
  | .field spelling | .parm spelling | .typedef spelling | .typeAlias spelling
  | .valueParm spelling _ => some spelling
  | .var entry => some entry.type
  | .function _ entry => some (entry.returns.getD "void")
  | _ => none

/-- The spelling that a manifest has at a place. The arguments of a function without a link are
not read. -/
def spellingAt? (manifest : Manifest) : TypePlace → Option String
  | .declared i => manifest.entries[i]?.bind (·.kind.typeSpelling?)
  | .base i j => manifest.entries[i]?.bind fun entry => entry.kind.bases[j]?.map BaseEntry.type
  | .argument i path => manifest.entries[i]?.bind fun entry => entry.kind.args?.bind fun args =>
    (nested? ArgumentEntry.elements args path).bind ArgumentEntry.spelling?

def Entry.IsTypeParm (entry : Entry) (name : String) (position : ParmPosition) : Prop :=
  entry.declName = name ∧ entry.kind = .typeParm position

/-- The first type parameter with a name has a position. Later ones do not matter. -/
inductive FirstTypeParm (name : String) (position : ParmPosition) : List Entry → Prop
  | here {entry : Entry} {entries : List Entry} (h : entry.IsTypeParm name position) :
    FirstTypeParm name position (entry :: entries)
  | later {entry : Entry} {entries : List Entry} (hn : ∀ other, ¬ entry.IsTypeParm name other)
    (h : FirstTypeParm name position entries) : FirstTypeParm name position (entry :: entries)

/-- A stored type is the one that was read, with a type parameter in place of its name. -/
structure StandsFor (manifest : Manifest) (read stored : CppType) : Prop where
  spelling : stored.spelling = read.spelling
  shape : stored.shape = read.shape
  dependent : stored.isDependent = true ↔ ∃ name, read.leaf = .named name ∧
    ∃ entry ∈ manifest.entries, ∃ position, entry.IsTypeParm name position
  parameter : stored.isDependent = true → ∃ name position, read.leaf = .named name ∧
    FirstTypeParm name position manifest.entries ∧
    stored.leaf = .templateParam name position.depth position.index
  plain : stored.isDependent = false → stored.leaf = read.leaf

/-- The type that a spelling stands for is stored under an id. -/
def StoredAs (manifest : Manifest) (unit : TranslationUnit) (spelling : String) (id : TypeId) :
    Prop :=
  ∃ read stored, CppType.parse? spelling = some read ∧ unit.type? id = some stored ∧
    manifest.StandsFor read stored

variable {manifest : Manifest} {builder : Builder} {unit : TranslationUnit} {scope : Scope}
  {arenas : Arenas}

theorem StandsFor.unique {read other stored : CppType} (h : manifest.StandsFor read stored)
    (h' : manifest.StandsFor other stored) : read = other := by
  refine CppType.eq_of_shape_of_leaf (h.shape.symm.trans h'.shape) ?_
  cases hd : stored.isDependent with
  | false => exact (h.plain hd).symm.trans (h'.plain hd)
  | true =>
    obtain ⟨name, position, hl, -, hs⟩ := h.parameter hd
    obtain ⟨name', position', hl', -, hs'⟩ := h'.parameter hd
    obtain ⟨rfl, -⟩ := CppType.templateParam.inj (hs.symm.trans hs')
    exact hl.trans hl'.symm

theorem FirstTypeParm.exists_mem {name : String} {position : ParmPosition} {entries : List Entry}
    (h : FirstTypeParm name position entries) :
    ∃ entry ∈ entries, entry.IsTypeParm name position := by
  induction h with
  | here h => exact ⟨_, List.mem_cons_self, h⟩
  | later _ _ ih =>
    obtain ⟨entry, hm, h⟩ := ih
    exact ⟨entry, List.mem_cons_of_mem _ hm, h⟩

theorem typeParameter?_here {entry : Entry} {name : String} {position : ParmPosition}
    (h : entry.IsTypeParm name position) (entries : List Entry) :
    Scope.typeParameter? ⟨entry :: entries⟩ name =
      some (.templateParam name position.depth position.index) := by
  simp [Scope.typeParameter?, h.1, h.2]

theorem typeParameter?_later {entry : Entry} {name : String}
    (h : ∀ position, ¬ entry.IsTypeParm name position) (entries : List Entry) :
    Scope.typeParameter? ⟨entry :: entries⟩ name = Scope.typeParameter? ⟨entries⟩ name := by
  obtain ⟨id, written, access, parent, kind⟩ := entry
  cases kind with
  | typeParm position =>
    have hn : (Entry.mk id written access parent (.typeParm position)).declName ≠ name :=
      fun hn => h position ⟨hn, rfl⟩
    simp [Scope.typeParameter?, hn]
  | _ => rfl

/-- The table of type parameters: the first with a name, if there is one at all. -/
theorem typeParameter?_cases (entries : List Entry) (name : String) :
    (∃ position, FirstTypeParm name position entries ∧
      Scope.typeParameter? ⟨entries⟩ name =
        some (.templateParam name position.depth position.index)) ∨
    ((∀ entry ∈ entries, ∀ position, ¬ entry.IsTypeParm name position) ∧
      Scope.typeParameter? ⟨entries⟩ name = none) := by
  induction entries with
  | nil => exact .inr ⟨List.forall_mem_nil _, rfl⟩
  | cons entry entries ih =>
    by_cases he : ∃ position, entry.IsTypeParm name position
    · obtain ⟨position, hp⟩ := he
      exact .inl ⟨position, .here hp, typeParameter?_here hp entries⟩
    · have hno : ∀ position, ¬ entry.IsTypeParm name position := not_exists.mp he
      rw [typeParameter?_later hno]
      obtain ⟨position, hf, ht⟩ | ⟨hall, ht⟩ := ih
      · exact .inl ⟨position, .later hno hf, ht⟩
      · exact .inr ⟨List.forall_mem_cons.mpr ⟨hno, hall⟩, ht⟩

theorem substitute_leaf_cases (entries : List Entry) (type : CppType) :
    (∃ name position, type.leaf = .named name ∧ FirstTypeParm name position entries ∧
      (type.substitute (Scope.typeParameter? ⟨entries⟩)).leaf =
        .templateParam name position.depth position.index) ∨
    ((∀ name, type.leaf = .named name → ∀ entry ∈ entries, ∀ position,
        ¬ entry.IsTypeParm name position) ∧
      (type.substitute (Scope.typeParameter? ⟨entries⟩)).leaf = type.leaf) := by
  induction type with
  | named name =>
    obtain ⟨position, hf, ht⟩ | ⟨hall, ht⟩ := typeParameter?_cases entries name
    · exact .inl ⟨name, position, rfl, hf, by simp [CppType.substitute, ht, CppType.leaf]⟩
    · refine .inr ⟨fun other ho => ?_, by simp [CppType.substitute, ht]⟩
      obtain rfl := CppType.named.inj ho
      exact hall
  | builtin | templateParam =>
    refine .inr ⟨fun name hn => ?_, rfl⟩
    cases hn
  | pointer _ _ ih | reference _ _ _ ih | array _ _ ih => exact ih

theorem shape_substitute (entries : List Entry) (type : CppType) :
    (type.substitute (Scope.typeParameter? ⟨entries⟩)).shape = type.shape := by
  induction type with
  | named name =>
    obtain ⟨position, -, ht⟩ | ⟨-, ht⟩ := typeParameter?_cases entries name
    · simp [CppType.substitute, ht, CppType.shape]
    · simp [CppType.substitute, ht]
  | builtin | templateParam => rfl
  | pointer _ isConst ih => exact congrArg (_ :: ·) ih
  | reference _ _ _ ih => exact congrArg (_ :: ·) ih
  | array _ _ ih => exact congrArg (_ :: ·) ih

/-- A type that was read has no parameter of its own, so its leaf tells whether it gets one. -/
theorem standsFor_substitute {read : CppType} (h : CppType.OverPlainLeaf read) :
    manifest.StandsFor read (read.substitute (Scope.typeParameter? ⟨manifest.entries⟩)) := by
  have hspelling := congrArg String.ofList (chars_substitute ⟨manifest.entries⟩ read)
  have hshape := shape_substitute manifest.entries read
  obtain ⟨name, position, hl, hf, hs⟩ | ⟨hall, hs⟩ := substitute_leaf_cases manifest.entries read
  · have hd : (read.substitute (Scope.typeParameter? ⟨manifest.entries⟩)).isDependent = true :=
      (CppType.isDependent_iff_leaf _).mpr ⟨_, _, _, hs⟩
    obtain ⟨entry, hm, he⟩ := hf.exists_mem
    refine ⟨hspelling, hshape, ⟨fun _ => ⟨name, hl, entry, hm, position, he⟩, fun _ => hd⟩,
      fun _ => ⟨name, position, hl, hf, hs⟩, fun hn => ?_⟩
    rw [hd] at hn
    cases hn
  · have hd : ¬ (read.substitute (Scope.typeParameter? ⟨manifest.entries⟩)).isDependent = true := by
      rw [CppType.isDependent_iff_leaf, hs]
      rintro ⟨name, depth, index, hp⟩
      exact CppType.not_overPlainLeaf_of_templateParam hp h
    refine ⟨hspelling, hshape, ⟨fun ht => absurd ht hd, ?_⟩, fun ht => absurd ht hd, fun _ => hs⟩
    rintro ⟨name, hl, entry, hm, position, he⟩
    exact absurd he (hall name hl entry hm position)

theorem HoldsType.storedAs {spelling : String} {id : TypeId}
    (h : HoldsType ⟨manifest.entries⟩ unit.arenas spelling id) :
    manifest.StoredAs unit spelling id := by
  obtain ⟨read, hp, hs⟩ := h
  exact ⟨read, _, hp, hs, standsFor_substitute (CppType.overPlainLeaf_of_parseChars hp)⟩

theorem rel_bind {α β γ δ : Type} {r : α → β → Prop} {q : γ → δ → Prop} {a : Option α}
    {b : Option β} {f : α → Option γ} {g : β → Option δ} (h : Option.Rel r a b)
    (hf : ∀ x y, r x y → Option.Rel q (f x) (g y)) : Option.Rel q (a.bind f) (b.bind g) := by
  cases h with
  | none => exact .none
  | some h => exact hf _ _ h

theorem rel_getElem? {α β : Type} {r : α → β → Prop} {xs : List α} {ys : List β}
    (h : List.Forall₂ r xs ys) (i : Nat) : Option.Rel r xs[i]? ys[i]? := by
  induction h generalizing i with
  | nil => exact .none
  | cons h _ ih =>
    cases i with
    | zero => exact .some h
    | succ i => exact ih i

theorem MirrorsArg.elements {entry : ArgumentEntry} {arg : TemplateArgument}
    (h : MirrorsArg scope arenas entry arg) :
    MirrorsArgs scope arenas entry.elements arg.packElements := by
  cases h with
  | pack h => exact h
  | _ => exact .nil

/-- A path leads to the same place in both lists of arguments. -/
theorem MirrorsArgs.nested {entries : List ArgumentEntry} {args : List TemplateArgument}
    (h : MirrorsArgs scope arenas entries args) (path : List Nat) :
    Option.Rel (MirrorsArg scope arenas) (nested? ArgumentEntry.elements entries path)
      (nested? TemplateArgument.packElements args path) := by
  induction path generalizing entries args with
  | nil => exact .none
  | cons i path ih =>
    have hat := rel_getElem? h.forall₂ i
    cases path with
    | nil => exact hat
    | cons j path => exact rel_bind hat fun _ _ ha => ih ha.elements

theorem Denotes.type_eq {exprs : List Expr} {type : TypeId} {term : Term} {id : ExprId}
    (h : Denotes exprs type term id) : exprs[id.index]?.map Expr.type = some type := by
  cases h with
  | integer h | mention h | text h | binary h => rw [h, Option.map_some]

theorem MirrorsKind.rel_type {entry : EntryKind} {kind : DeclKind}
    (h : MirrorsKind scope arenas entry kind) :
    Option.Rel (HoldsType scope arenas) entry.typeSpelling? kind.type? := by
  cases h with
  | field h | var h | parm h | function h | typedef h | typeAlias h | valueParm h => exact .some h
  | _ => exact .none

theorem MirrorsArg.rel_type {entry : ArgumentEntry} {arg : TemplateArgument}
    (h : MirrorsArg scope unit.arenas entry arg) :
    Option.Rel (HoldsType scope unit.arenas) entry.spelling? (unit.argumentType? arg) := by
  cases h with
  | type h | integral h => exact .some h
  | expression h he =>
    have htype : (unit.expr? _).map Expr.type = some _ := he.type_eq
    rw [TranslationUnit.argumentType?, htype]
    exact .some h
  | _ => exact .none

namespace Presents

variable (h : Presents manifest builder unit)
include h

theorem decl?_eq_none {i : Nat} (hi : manifest.entries[i]? = none) : unit.decl? ⟨i⟩ = none := by
  cases hd : unit.decl? ⟨i⟩ with
  | none => rfl
  | some decl =>
    obtain ⟨entry, he, -⟩ := h.exists_entry hd
    simp [hi] at he

theorem rel_decl (i : Nat) :
    Option.Rel (Mirrors ⟨manifest.entries⟩ unit.arenas) manifest.entries[i]?
      (unit.decl? ⟨i⟩) := by
  cases hi : manifest.entries[i]? with
  | some entry =>
    obtain ⟨decl, hd, hm, -⟩ := h.exists_decl hi
    rw [hd, h.arenas_eq]
    exact .some hm
  | none =>
    rw [h.decl?_eq_none hi]
    exact .none

/-- A spelling and a type are at the same places, and the type is the one spelled. -/
theorem rel_typeAt (place : TypePlace) :
    Option.Rel (HoldsType ⟨manifest.entries⟩ unit.arenas) (manifest.spellingAt? place)
      (unit.typeAt? place) := by
  cases place with
  | declared i => exact rel_bind (h.rel_decl i) fun _ _ hm => hm.kind.rel_type
  | argument i path =>
    exact rel_bind (h.rel_decl i) fun _ _ hm => rel_bind hm.kind.args fun _ _ hargs =>
      rel_bind (hargs.nested path) fun _ _ harg => harg.rel_type
  | base i j =>
    cases hi : manifest.entries[i]? with
    | none =>
      simp only [spellingAt?, TranslationUnit.typeAt?, TranslationUnit.basesOf, hi,
        h.decl?_eq_none hi]
      exact .none
    | some entry =>
      rw [spellingAt?, hi, Option.bind_some, Option.map_eq_bind, TranslationUnit.typeAt?]
      refine rel_bind (rel_getElem? (h.forall₂_basesOf hi) j) ?_
      rintro base id ⟨spec, hs, hstores⟩
      rw [hs]
      exact .some hstores.type

/-- No type is stored twice, and none stands for two spellings that are read apart. -/
theorem id_eq_iff {spelling other : String} {id found : TypeId}
    (ht : HoldsType ⟨manifest.entries⟩ unit.arenas spelling id)
    (ho : HoldsType ⟨manifest.entries⟩ unit.arenas other found) :
    id = found ↔ CppType.parse? spelling = CppType.parse? other := by
  constructor
  · rintro rfl
    obtain ⟨read, stored, hp, hs, hstands⟩ := ht.storedAs
    obtain ⟨read', stored', hp', hs', hstands'⟩ := ho.storedAs
    obtain rfl := Option.some.inj (hs.symm.trans hs')
    rw [hp, hp', hstands.unique hstands']
  · intro heq
    obtain ⟨read, hp, hs⟩ := ht
    obtain ⟨read', hp', hs'⟩ := ho
    obtain rfl := Option.some.inj (hp.symm.trans (heq.trans hp'))
    have hnodup : unit.arenas.types.Nodup := by
      rw [h.arenas_eq]
      exact builder.inverts.nodup
    have hlt : id.index < unit.arenas.types.length := (List.getElem?_eq_some_iff.mp hs).1
    exact congrArg TypeId.mk ((List.getElem?_inj hlt hnodup).mp (hs.trans hs'.symm))

end Presents

/-- In a loaded manifest a spelled type is stored at its place, and nothing else is at the places
of types. Two places have one id exactly if their spellings are read as one type. The arguments of
a function are places only if it has a link; else their types are not even read. -/
theorem types_stored_once (manifest : Manifest) (store : Store) (id : UnitId)
    (h : (manifest.load store).result = .ok id) :
    ∃ unit, (manifest.load store).store.unit id = .ok unit ∧
      (∀ place, Option.Rel (manifest.StoredAs unit) (manifest.spellingAt? place)
        (unit.typeAt? place)) ∧
      ∀ (place other : TypePlace) (spelling spelling' : String) (type type' : TypeId),
        manifest.spellingAt? place = some spelling →
        manifest.spellingAt? other = some spelling' →
        unit.typeAt? place = some type → unit.typeAt? other = some type' →
        (type = type' ↔ CppType.parse? spelling = CppType.parse? spelling') := by
  obtain ⟨builder, unit, hp, -, hlive⟩ := presents_of_load h
  refine ⟨unit, Store.resolve_eq_ok_iff.mp hlive, fun place => ?_, ?_⟩
  · have hrel := hp.rel_typeAt place
    generalize manifest.spellingAt? place = spelling at hrel ⊢
    generalize unit.typeAt? place = type at hrel ⊢
    cases hrel with
    | none => exact .none
    | some hold => exact .some hold.storedAs
  · intro place other spelling spelling' type type' hs hs' ht ht'
    have hrel := hp.rel_typeAt place
    have hrel' := hp.rel_typeAt other
    rw [hs, ht] at hrel
    rw [hs', ht'] at hrel'
    cases hrel with
    | some hold =>
      cases hrel' with
      | some hold' => exact hp.id_eq_iff hold hold'

/-- A field before the parameter in its type, which has two entries, and the same type in a pack
and in other blanks. -/
def holders : Manifest where
  unitName := "holders.cpp"
  entries :=
    [⟨"value", none, none, none, .field "const T *"⟩,
      ⟨"T-outer", some "T", none, none, .typeParm ⟨1, 2, false⟩⟩,
      ⟨"T-inner", some "T", none, none, .typeParm ⟨0, 0, false⟩⟩,
      ⟨"other", none, none, none, .field "T *"⟩,
      ⟨"Holder", none, none, none, .record .structKey ⟨[], none⟩⟩,
      ⟨"Holder-template", some "Holder", none, none,
        .template .ofClass ⟨"Holder", ["T-outer"], none⟩⟩,
      ⟨"Holder<const T *>", none, none, none, .specialization
        ⟨.structTag, some "Holder-template", none, [.pack [.integral 3 "int", .type "const T*"]],
          []⟩⟩]

theorem types_stored_once_holders :
    ∃ unit type other stored, (holders.load .empty).result = .ok ⟨0, 0⟩ ∧
      (holders.load .empty).store.unit ⟨0, 0⟩ = .ok unit ∧
      unit.typeAt? (.declared 0) = some type ∧ unit.typeAt? (.argument 6 [0, 1]) = some type ∧
      unit.typeAt? (.declared 3) = some other ∧ other ≠ type ∧
      unit.type? type = some stored ∧ stored.spelling = "const T *" ∧
      stored.leaf = .templateParam "T" 1 2 := by
  have hload : (holders.load .empty).result = .ok ⟨0, 0⟩ := eq_ok_of_toOption (by decide +kernel)
  obtain ⟨unit, hunit, hstored, hshared⟩ := types_stored_once holders .empty ⟨0, 0⟩ hload
  have hex : ∀ place spelling, holders.spellingAt? place = some spelling →
      ∃ type, unit.typeAt? place = some type ∧ holders.StoredAs unit spelling type := by
    intro place spelling hs
    have hrel := hstored place
    rw [hs] at hrel
    generalize unit.typeAt? place = type at hrel ⊢
    cases hrel with
    | some h => exact ⟨_, rfl, h⟩
  obtain ⟨type, ht, read, stored, hp, hs, hstands⟩ := hex (.declared 0) "const T *" rfl
  obtain ⟨packed, htp, -⟩ := hex (.argument 6 [0, 1]) "const T*" rfl
  obtain ⟨other, hto, -⟩ := hex (.declared 3) "T *" rfl
  obtain rfl : type = packed :=
    (hshared _ _ _ _ _ _ rfl rfl ht htp).mpr (by decide +kernel)
  have hne : other ≠ type := fun he =>
    absurd ((hshared _ _ _ _ _ _ rfl rfl hto ht).mp he) (by decide +kernel)
  have hread : CppType.parse? "const T *" = some (.pointer (.named "T") true) := by decide +kernel
  obtain rfl := Option.some.inj (hp.symm.trans hread)
  have hdependent := hstands.dependent.mpr
    ⟨"T", rfl, _, .tail _ (.head _), ⟨1, 2, false⟩, rfl, rfl⟩
  obtain ⟨name, position, hname, hfirst, hleaf⟩ := hstands.parameter hdependent
  obtain rfl := CppType.named.inj hname
  refine ⟨unit, type, other, stored, hload, hunit, ht, htp, hto, hne, hs,
    hstands.spelling.trans rfl, ?_⟩
  cases hfirst with
  | here h => cases h.2
  | later _ hfirst =>
    cases hfirst with
    | here h =>
      obtain rfl := EntryKind.typeParm.inj h.2
      exact hleaf
    | later hn => exact absurd ⟨rfl, rfl⟩ (hn ⟨1, 2, false⟩)

/-- Two types among the arguments of a function without a link: one is not stored, the other
would not even be read. -/
theorem unlinked_types_dropped :
    let sum : FunctionEntry := ⟨some "int", [], none, none, [], [.type "long", .type "!!"]⟩
    let manifest : Manifest := ⟨"sums.cpp", [⟨"sum", none, none, none, .function .free sum⟩]⟩
    CppType.parse? "long" = some (.builtin (.integer .long true)) ∧ CppType.parse? "!!" = none ∧
      ∃ unit, (manifest.load .empty).result = .ok ⟨0, 0⟩ ∧
        (manifest.load .empty).store.unit ⟨0, 0⟩ = .ok unit ∧
        unit.types = [.builtin (.integer .int true)] := by
  intro sum manifest
  have hload : (manifest.load .empty).result = .ok ⟨0, 0⟩ := eq_ok_of_toOption (by decide +kernel)
  obtain ⟨_, unit, -, -, hlive⟩ := presents_of_load hload
  have hunit := Store.resolve_eq_ok_iff.mp hlive
  have htypes : ((manifest.load .empty).store.unit ⟨0, 0⟩).toOption.map TranslationUnit.types =
      some [.builtin (.integer .int true)] := by decide +kernel
  rw [hunit] at htypes
  exact ⟨by decide +kernel, by decide +kernel, unit, hload, hunit, Option.some.inj htypes⟩

end Manifest

end CppIntrospect
