import CppIntrospect.Proofs.ArgumentPayload

/-! Argument cursors in a store that they were not made from. The cursor carries the kind of an
argument and the store has an argument of its own at the same place, so the two may disagree.
Five of the six readers have no answer then; the one for packs takes any other argument for a
pack without elements. -/

namespace CppIntrospect

namespace TemplateArgument

variable {arg : TemplateArgument}

theorem type?_eq_some_iff {id : TypeId} : arg.type? = some id ↔ arg = .type id := by
  cases arg <;> simp [type?]

theorem integral?_eq_some_iff {value : Int} :
    arg.integral? = some value ↔ ∃ type, arg = .integral value type := by
  cases arg <;> simp [integral?]

theorem declaration?_eq_some_iff {id : DeclId} :
    arg.declaration? = some id ↔ arg = .declaration id := by
  cases arg <;> simp [declaration?]

theorem template?_eq_some_iff {id : DeclId} :
    arg.template? = some id ↔ arg = .template id ∨ arg = .templateExpansion id := by
  cases arg <;> simp [template?]

theorem expression?_eq_some_iff {id : ExprId} :
    arg.expression? = some id ↔ arg = .expression id := by
  cases arg <;> simp [expression?]

theorem packElements_length_eq_iff {size : UInt32} :
    UInt32.ofNat arg.packElements.length = size ↔
      (∃ elements, arg = .pack elements ∧ size = .ofNat elements.length) ∨
        arg.kind ≠ .pack ∧ size = 0 := by
  cases arg <;> simp [packElements, kind, eq_comm]

end TemplateArgument

namespace Cursor

/-- The argument that a store has at the place of a cursor, whatever the cursor says of its
kind. -/
inductive Decodes (store : Store) : Cursor → TranslationUnit → TemplateArgument → Prop
  | intro {id : UnitId} {owner : DeclId} {position : Nat} {kind : ArgumentKind}
    {unit : TranslationUnit} {decl : Decl} {args : List TemplateArgument} {arg : TemplateArgument}
    (hu : store.unit id = .ok unit) (hd : unit.decl? owner = some decl)
    (hs : decl.StoresArguments args) (ha : args[position]? = some arg) :
    Decodes store (argument id owner position kind) unit arg

/-- A reader looks at the recorded kind first, and then reads what the store has. -/
def read {α : Type} (fits : ArgumentKind → Prop) [DecidablePred fits]
    (payload : TranslationUnit → TemplateArgument → Option α) (cursor : Cursor) (store : Store) :
    Except CursorError (Option α) :=
  match cursor with
  | argument id owner position kind =>
    if fits kind then
      (store.resolve id).map fun unit => (unit.argument? owner position).bind (payload unit)
    else .ok none
  | _ => .ok none

variable {store : Store} {cursor : Cursor} {unit other : TranslationUnit}
  {arg found : TemplateArgument}

theorem decodes_argument_iff {id : UnitId} {owner : DeclId} {position : Nat}
    {kind : ArgumentKind} :
    Decodes store (argument id owner position kind) unit arg ↔
      store.unit id = .ok unit ∧ unit.argument? owner position = some arg := by
  constructor
  · rintro ⟨hu, hd, hs, ha⟩
    refine ⟨hu, ?_⟩
    simp only [TranslationUnit.argument?, hd, Option.bind_some, Decl.args?_eq_some_iff.mpr hs, ha]
  · rintro ⟨hu, ha⟩
    unfold TranslationUnit.argument? at ha
    split at ha
    · next args hargs =>
      obtain ⟨decl, hd, hs⟩ := Option.bind_eq_some_iff.mp hargs
      exact .intro hu hd (Decl.args?_eq_some_iff.mp hs) ha
    · cases ha

theorem Decodes.unique (h : Decodes store cursor unit arg) (h' : Decodes store cursor other found) :
    other = unit ∧ found = arg := by
  cases cursor with
  | argument id owner position kind =>
    obtain ⟨hu, ha⟩ := decodes_argument_iff.mp h
    obtain ⟨hu', ha'⟩ := decodes_argument_iff.mp h'
    obtain rfl := Except.ok.inj (hu.symm.trans hu')
    exact ⟨rfl, Option.some.inj (ha'.symm.trans ha)⟩
  | _ => nomatch h

section Read

variable {α : Type} {fits : ArgumentKind → Prop} [DecidablePred fits]
  {payload : TranslationUnit → TemplateArgument → Option α} {answer : α}

/-- A reader answers for the argument of the store, and only if the recorded kind is right. -/
theorem read_eq_some_iff : read fits payload cursor store = .ok (some answer) ↔
    (∃ kind, cursor.argumentKind? = some kind ∧ fits kind) ∧
      ∃ unit arg, Decodes store cursor unit arg ∧ payload unit arg = some answer := by
  cases cursor with
  | argument id owner position kind =>
    have hkind : (∃ other, argumentKind? (argument id owner position kind) = some other ∧
        fits other) ↔ fits kind := by simp [argumentKind?]
    rw [hkind]
    by_cases hf : fits kind
    · simp only [read, hf, if_true, true_and]
      constructor
      · intro h
        obtain ⟨unit, hu, ha⟩ := Store.resolve_map_eq_ok h
        obtain ⟨arg, harg, hp⟩ := Option.bind_eq_some_iff.mp ha
        exact ⟨unit, arg, decodes_argument_iff.mpr ⟨hu, harg⟩, hp⟩
      · rintro ⟨unit, arg, hd, hp⟩
        obtain ⟨hu, ha⟩ := decodes_argument_iff.mp hd
        simp [Store.resolve_eq_ok_iff.mpr hu, Except.map, ha, hp]
    · simp [read, hf]
  | _ => simp [read, argumentKind?]

end Read

theorem asType_eq_read (cursor : Cursor) (store : Store) :
    cursor.asType store = cursor.read (· = .type)
      (fun unit arg => arg.type?.map (TypeHandle.valid unit.id)) store := by
  cases cursor with
  | argument id owner position kind =>
    cases kind with
    | type => simp [asType, read, Option.map_bind]
    | _ => rfl
  | _ => rfl

theorem asIntegral_eq_read (cursor : Cursor) (store : Store) :
    cursor.asIntegral store = cursor.read (· = .integral)
      (fun _ arg => arg.integral?.map Int64.ofInt) store := by
  cases cursor with
  | argument id owner position kind =>
    cases kind with
    | integral => simp [asIntegral, read, Option.map_bind]
    | _ => rfl
  | _ => rfl

theorem asDeclaration_eq_read (cursor : Cursor) (store : Store) :
    cursor.asDeclaration store = cursor.read (· = .declaration)
      (fun unit arg => arg.declaration?.bind (ofDecl? unit)) store := by
  cases cursor with
  | argument id owner position kind =>
    cases kind with
    | declaration => simp [asDeclaration, read, Option.bind_assoc]
    | _ => rfl
  | _ => rfl

theorem asTemplate_eq_read (cursor : Cursor) (store : Store) :
    cursor.asTemplate store =
      cursor.read (fun kind => kind = .template ∨ kind = .templateExpansion)
        (fun unit arg => arg.template?.bind (ofDecl? unit)) store := by
  cases cursor with
  | argument id owner position kind => simp [asTemplate, read, Option.bind_assoc]
  | _ => rfl

theorem asExpression_eq_read (cursor : Cursor) (store : Store) :
    cursor.asExpression store = cursor.read (· = .expression)
      (fun unit arg => arg.expression?.bind (ofExpr? unit · .unknown)) store := by
  cases cursor with
  | argument id owner position kind =>
    cases kind with
    | expression => simp [asExpression, read, Option.bind_assoc]
    | _ => rfl
  | _ => rfl

-- The payload of a pack is there for every argument, and this is where the readers differ.
theorem packSize_eq_read (cursor : Cursor) (store : Store) :
    cursor.packSize store = cursor.read (· = .pack)
      (fun _ arg => some (.ofNat arg.packElements.length)) store := by
  cases cursor with
  | argument id owner position kind =>
    cases kind with
    | pack => simp [packSize, read, Option.map_eq_bind]
    | _ => rfl
  | _ => rfl

theorem asType_eq_some_iff {handle : TypeHandle} : cursor.asType store = .ok (some handle) ↔
    cursor.argumentKind? = some .type ∧
      ∃ unit id, Decodes store cursor unit (.type id) ∧ handle = .valid unit.id id := by
  rw [asType_eq_read, read_eq_some_iff, exists_eq_right]
  refine and_congr_right fun _ => exists_congr fun unit => ?_
  simp only [Option.map_eq_some_iff, TemplateArgument.type?_eq_some_iff]
  constructor
  · rintro ⟨_, hd, id, rfl, rfl⟩
    exact ⟨id, hd, rfl⟩
  · rintro ⟨id, hd, rfl⟩
    exact ⟨_, hd, id, rfl, rfl⟩

theorem asIntegral_eq_some_iff {reduced : Int64} :
    cursor.asIntegral store = .ok (some reduced) ↔ cursor.argumentKind? = some .integral ∧
      ∃ unit value type, Decodes store cursor unit (.integral value type) ∧
        reduced.toInt ≡ value [ZMOD 2 ^ 64] := by
  rw [asIntegral_eq_read, read_eq_some_iff, exists_eq_right]
  refine and_congr_right fun _ => exists_congr fun unit => ?_
  simp only [Option.map_eq_some_iff, TemplateArgument.integral?_eq_some_iff, int64_ofInt_eq_iff]
  constructor
  · rintro ⟨_, hd, value, ⟨type, rfl⟩, hr⟩
    exact ⟨value, type, hd, hr⟩
  · rintro ⟨value, type, hd, hr⟩
    exact ⟨_, hd, value, ⟨type, rfl⟩, hr⟩

/-- The cursor of a declaration that exists. -/
theorem ofDecl?_eq_some_iff {id : DeclId} {shown : Cursor} : ofDecl? unit id = some shown ↔
    ∃ entity, unit.decl? id = some entity ∧ shown = decl (.ofDecl entity) unit.id id := by
  simp [ofDecl?, eq_comm]

theorem asDeclaration_eq_some_iff {shown : Cursor} :
    cursor.asDeclaration store = .ok (some shown) ↔ cursor.argumentKind? = some .declaration ∧
      ∃ unit id entity, Decodes store cursor unit (.declaration id) ∧
        unit.decl? id = some entity ∧ shown = decl (.ofDecl entity) unit.id id := by
  rw [asDeclaration_eq_read, read_eq_some_iff, exists_eq_right]
  refine and_congr_right fun _ => exists_congr fun unit => ?_
  simp only [Option.bind_eq_some_iff, TemplateArgument.declaration?_eq_some_iff,
    ofDecl?_eq_some_iff]
  constructor
  · rintro ⟨_, hd, id, rfl, entity, he, rfl⟩
    exact ⟨id, entity, hd, he, rfl⟩
  · rintro ⟨id, entity, hd, he, rfl⟩
    exact ⟨_, hd, id, rfl, entity, he, rfl⟩

theorem asTemplate_eq_some_iff {shown : Cursor} : cursor.asTemplate store = .ok (some shown) ↔
    (cursor.argumentKind? = some .template ∨ cursor.argumentKind? = some .templateExpansion) ∧
      ∃ unit id entity,
        (Decodes store cursor unit (.template id) ∨
          Decodes store cursor unit (.templateExpansion id)) ∧
        unit.decl? id = some entity ∧ shown = decl (.ofDecl entity) unit.id id := by
  rw [asTemplate_eq_read, read_eq_some_iff]
  simp only [Option.bind_eq_some_iff, TemplateArgument.template?_eq_some_iff,
    ofDecl?_eq_some_iff]
  refine and_congr (by simp [and_or_left, exists_or]) (exists_congr fun unit => ?_)
  constructor
  · rintro ⟨_, hd, id, rfl | rfl, entity, he, rfl⟩
    · exact ⟨id, entity, .inl hd, he, rfl⟩
    · exact ⟨id, entity, .inr hd, he, rfl⟩
  · rintro ⟨id, entity, hd | hd, he, rfl⟩
    · exact ⟨_, hd, id, .inl rfl, entity, he, rfl⟩
    · exact ⟨_, hd, id, .inr rfl, entity, he, rfl⟩

theorem asExpression_eq_some_iff {shown : Cursor} :
    cursor.asExpression store = .ok (some shown) ↔ cursor.argumentKind? = some .expression ∧
      ∃ unit id entity, Decodes store cursor unit (.expression id) ∧
        unit.expr? id = some entity ∧ shown = expr (.ofExpr entity) unit.id id .unknown := by
  rw [asExpression_eq_read, read_eq_some_iff, exists_eq_right]
  refine and_congr_right fun _ => exists_congr fun unit => ?_
  simp only [Option.bind_eq_some_iff, TemplateArgument.expression?_eq_some_iff, ofExpr?,
    Option.map_eq_some_iff]
  constructor
  · rintro ⟨_, hd, id, rfl, entity, he, rfl⟩
    exact ⟨id, entity, hd, he, rfl⟩
  · rintro ⟨id, entity, hd, he, rfl⟩
    exact ⟨_, hd, id, rfl, entity, he, rfl⟩

theorem packSize_eq_some_iff {size : UInt32} : cursor.packSize store = .ok (some size) ↔
    cursor.argumentKind? = some .pack ∧ ∃ unit arg, Decodes store cursor unit arg ∧
      ((∃ elements, arg = .pack elements ∧ size = .ofNat elements.length) ∨
        arg.kind ≠ .pack ∧ size = 0) := by
  rw [packSize_eq_read, read_eq_some_iff, exists_eq_right]
  simp only [Option.some.injEq, TemplateArgument.packElements_length_eq_iff]

/-- A cursor recorded as a pack, at whose place a store has something else. -/
def MistakenPack (store : Store) (cursor : Cursor) : Prop :=
  cursor.argumentKind? = some .pack ∧
    ∃ unit arg, Decodes store cursor unit arg ∧ arg.kind ≠ .pack

/-- A pack that has more elements than a word of 32 bits can count. -/
def OversizedPack (store : Store) (cursor : Cursor) : Prop :=
  cursor.argumentKind? = some .pack ∧
    ∃ unit elements, Decodes store cursor unit (.pack elements) ∧ 2 ^ 32 ≤ elements.length

theorem MistakenPack.packSize_eq (h : MistakenPack store cursor) :
    cursor.packSize store = .ok (some 0) := by
  obtain ⟨hk, unit, arg, hd, hn⟩ := h
  exact packSize_eq_some_iff.mpr ⟨hk, unit, arg, hd, .inr ⟨hn, rfl⟩⟩

theorem packSize_faithful_iff :
    (∀ size, cursor.packSize store = .ok (some size) → ∃ unit elements,
      Decodes store cursor unit (.pack elements) ∧ size.toNat = elements.length) ↔
      ¬ MistakenPack store cursor ∧ ¬ OversizedPack store cursor := by
  constructor
  · intro h
    refine ⟨fun hm => ?_, fun ⟨hk, unit, elements, hd, hlen⟩ => ?_⟩
    · obtain ⟨unit, elements, hp, -⟩ := h 0 hm.packSize_eq
      obtain ⟨-, other, arg, hd, hn⟩ := hm
      obtain ⟨-, rfl⟩ := hp.unique hd
      exact hn rfl
    · have hs := packSize_eq_some_iff.mpr ⟨hk, unit, _, hd, .inl ⟨elements, rfl, rfl⟩⟩
      obtain ⟨other, found, hp, hsize⟩ := h _ hs
      obtain ⟨-, he⟩ := hd.unique hp
      obtain rfl := TemplateArgument.pack.inj he
      have hlt := (UInt32.ofNat found.length).toNat_lt
      omega
  · rintro ⟨hm, ho⟩ size hs
    obtain ⟨hk, unit, arg, hd, ⟨elements, rfl, rfl⟩ | ⟨hn, -⟩⟩ := packSize_eq_some_iff.mp hs
    · refine ⟨unit, elements, hd, UInt32.toNat_ofNat_of_lt' (Nat.lt_of_not_le fun hlen => ?_)⟩
      exact ho ⟨hk, unit, elements, hd, hlen⟩
    · exact absurd ⟨hk, unit, arg, hd, hn⟩ hm

/-- Whatever store an argument cursor meets, five readers answer exactly where the argument
that the store has at its place is of the recorded kind, and then with what is stored there. The
size of a pack is right exactly if no other argument is recorded as a pack, for which it is zero,
and the length fits into 32 bits. -/
theorem only_packSize_misreads (store : Store) (cursor : Cursor) :
    (∀ handle, cursor.asType store = .ok (some handle) ↔ cursor.argumentKind? = some .type ∧
      ∃ unit id, Decodes store cursor unit (.type id) ∧ handle = .valid unit.id id) ∧
    (∀ reduced, cursor.asIntegral store = .ok (some reduced) ↔
      cursor.argumentKind? = some .integral ∧
      ∃ unit value type, Decodes store cursor unit (.integral value type) ∧
        reduced.toInt ≡ value [ZMOD 2 ^ 64]) ∧
    (∀ shown, cursor.asDeclaration store = .ok (some shown) ↔
      cursor.argumentKind? = some .declaration ∧
      ∃ unit id entity, Decodes store cursor unit (.declaration id) ∧
        unit.decl? id = some entity ∧ shown = decl (.ofDecl entity) unit.id id) ∧
    (∀ shown, cursor.asTemplate store = .ok (some shown) ↔
      (cursor.argumentKind? = some .template ∨ cursor.argumentKind? = some .templateExpansion) ∧
      ∃ unit id entity,
        (Decodes store cursor unit (.template id) ∨
          Decodes store cursor unit (.templateExpansion id)) ∧
        unit.decl? id = some entity ∧ shown = decl (.ofDecl entity) unit.id id) ∧
    (∀ shown, cursor.asExpression store = .ok (some shown) ↔
      cursor.argumentKind? = some .expression ∧
      ∃ unit id entity, Decodes store cursor unit (.expression id) ∧
        unit.expr? id = some entity ∧ shown = expr (.ofExpr entity) unit.id id .unknown) ∧
    (∀ size, cursor.packSize store = .ok (some size) ↔ cursor.argumentKind? = some .pack ∧
      ∃ unit arg, Decodes store cursor unit arg ∧
        ((∃ elements, arg = .pack elements ∧ size = .ofNat elements.length) ∨
          arg.kind ≠ .pack ∧ size = 0)) ∧
    ((∀ size, cursor.packSize store = .ok (some size) → ∃ unit elements,
      Decodes store cursor unit (.pack elements) ∧ size.toNat = elements.length) ↔
      ¬ MistakenPack store cursor ∧ ¬ OversizedPack store cursor) :=
  ⟨fun _ => asType_eq_some_iff, fun _ => asIntegral_eq_some_iff,
    fun _ => asDeclaration_eq_some_iff, fun _ => asTemplate_eq_some_iff,
    fun _ => asExpression_eq_some_iff, fun _ => packSize_eq_some_iff, packSize_faithful_iff⟩

/-- Two stores with one unit each, under the same id: a specialization over a pack in one and
over a type in the other. -/
theorem packSize_of_type :
    let special (arg : TemplateArgument) : Decl :=
      { name := "Box",
        kind := .record
          { tag := .structTag, specialization := some (.full (.primary ⟨0⟩) [arg]) } }
    let made := (Store.empty.add
      { name := "a.cpp", decls := [special (.pack [.null])] }).2
    let met := (Store.empty.add
      { name := "b.cpp", decls := [special (.type ⟨0⟩)], types := [.builtin .bool] }).2
    let cursor := argument ⟨0, 0⟩ ⟨0⟩ 0 .pack
    made.declCursor ⟨0, 0⟩ ⟨0⟩ = .ok (decl .structDecl ⟨0, 0⟩ ⟨0⟩) ∧
      (decl .structDecl ⟨0, 0⟩ ⟨0⟩).templateArgument made 0 = .ok (some cursor) ∧
      (∃ unit, Decodes met cursor unit (.type ⟨0⟩)) ∧ cursor.asType met = .ok none ∧
      cursor.packSize met = .ok (some 0) := by
  intro special made met cursor
  exact ⟨rfl, rfl, ⟨_, decodes_argument_iff.mpr ⟨rfl, rfl⟩⟩, rfl, rfl⟩

end Cursor

end CppIntrospect
