import CppIntrospect.Cursor.Accessor
import CppIntrospect.Proofs.StoreView

/-! Base specifiers are recorded twice: in the list of their record, and by the owner that each
of them stores. Adding a base specifier keeps the two in step, and the check of a builder looks
at the owners only. -/

namespace CppIntrospect

/-- The base specifiers that a declaration lists; none unless it is a record. -/
def Decl.baseIds (decl : Decl) : List BaseId := (decl.record?.map RecordDecl.bases).getD []

namespace Builder

/-- Every base specifier that the declaration lists exists and is one of `owner`. -/
def Owns (builder : Builder) (owner : DeclId) (decl : Decl) : Prop :=
  ∀ base ∈ decl.baseIds, (builder.bases[base.index]?).map BaseSpecifier.owner = some owner

def Linked (builder : Builder) : Prop :=
  ∀ owner decl, builder.decls[owner.index]? = some decl → builder.Owns owner decl

end Builder

inductive BuilderCall where
  | addType (type : CppType)
  | addExpr (expr : Expr)
  | addDecl (decl : Decl)
  | setDecl (id : DeclId) (decl : Decl)
  | addBase (owner : DeclId) (type : TypeId) (access : Access) (isVirtual : Bool)

namespace BuilderCall

/-- The builder after a call, whatever the call answers. -/
def perform (builder : Builder) : BuilderCall → Builder
  | addType type => (builder.addType type).2
  | addExpr expr => (builder.addExpr expr).2
  | addDecl decl => (builder.addDecl decl).2
  | setDecl id decl => builder.setDecl id decl
  | addBase owner type access isVirtual => (builder.addBase owner type access isVirtual).2

/-- A declaration that the call puts in place lists only base specifiers of its own. -/
def ListsOwn (builder : Builder) : BuilderCall → Prop
  | addDecl decl => builder.Owns builder.nextDecl decl
  | setDecl id decl => id.index < builder.decls.length → builder.Owns id decl
  | _ => True

end BuilderCall

namespace Builder

def run (builder : Builder) (calls : List BuilderCall) : Builder :=
  calls.foldl BuilderCall.perform builder

/-- Every call of a run lists only base specifiers of its own. -/
def Careful : Builder → List BuilderCall → Prop
  | _, [] => True
  | builder, call :: calls => call.ListsOwn builder ∧ Careful (call.perform builder) calls

variable {builder after : Builder} {owner : DeclId} {decl : Decl}

theorem Owns.mono (h : builder.Owns owner decl) (hb : builder.bases <+: after.bases) :
    after.Owns owner decl := by
  intro base hm
  obtain ⟨made, hmade, ho⟩ := Option.map_eq_some_iff.mp (h base hm)
  obtain ⟨later, hl⟩ := hb
  rw [← hl, List.getElem?_append_left (List.getElem?_eq_some_iff.mp hmade).1, hmade]
  exact congrArg some ho

theorem linked_congr (hd : after.decls = builder.decls) (hb : after.bases = builder.bases) :
    after.Linked ↔ builder.Linked := by
  unfold Linked Owns
  rw [hd, hb]

theorem addType_fields (builder : Builder) (type : CppType) :
    (builder.addType type).2.decls = builder.decls ∧
      (builder.addType type).2.bases = builder.bases := by
  rcases builder.addType_cases type with ⟨id, _, ha⟩ | ⟨_, typeIds, inverts, ha⟩
  · rw [ha]
    exact ⟨rfl, rfl⟩
  · rw [ha]
    exact ⟨rfl, rfl⟩

theorem linked_addDecl_iff : (builder.addDecl decl).2.Linked ↔
    builder.Linked ∧ builder.Owns builder.nextDecl decl := by
  constructor
  · intro h
    refine ⟨fun owner made hm => h owner made ?_, h builder.nextDecl decl ?_⟩
    · exact List.getElem?_append_left (List.getElem?_eq_some_iff.mp hm).1 ▸ hm
    · simp [addDecl, nextDecl]
  · rintro ⟨h, hd⟩ owner made hm
    by_cases hi : owner.index < builder.decls.length
    · exact h owner made (List.getElem?_append_left hi ▸ hm)
    · have hl : owner.index < builder.decls.length + 1 := by
        simpa [addDecl] using (List.getElem?_eq_some_iff.mp hm).1
      have hn : owner.index = builder.decls.length := by omega
      obtain rfl : owner = builder.nextDecl := congrArg DeclId.mk hn
      obtain rfl : decl = made := by simpa [addDecl, nextDecl] using hm
      exact hd

/-- A replaced declaration matters by its own list only. -/
theorem Linked.setDecl_iff (h : builder.Linked) : (builder.setDecl owner decl).Linked ↔
    (owner.index < builder.decls.length → builder.Owns owner decl) := by
  constructor
  · intro hs hi
    exact hs owner decl (List.getElem?_set_self hi)
  · intro hd other made hm
    by_cases ho : owner.index = other.index
    · obtain rfl : owner = other := congrArg DeclId.mk ho
      have hi : owner.index < builder.decls.length := by
        simpa [setDecl] using (List.getElem?_eq_some_iff.mp hm).1
      obtain rfl : decl = made := Option.some.inj ((List.getElem?_set_self hi).symm.trans hm)
      exact hd hi
    · exact h other made ((List.getElem?_set_ne ho).symm.trans hm)

theorem addBase_cases (builder : Builder) (owner : DeclId) (type : TypeId) (access : Access)
    (isVirtual : Bool) :
    builder.addBase owner type access isVirtual = (.error (.notARecord owner), builder) ∨
    ∃ old new, builder.decls[owner.index]? = some old ∧
      new.baseIds = old.baseIds ++ [⟨builder.bases.length⟩] ∧
      builder.addBase owner type access isVirtual = (.ok ⟨builder.bases.length⟩,
        { builder.setDecl owner new with
          bases := builder.bases ++ [⟨type, access, isVirtual, owner⟩] }) := by
  unfold addBase
  split
  · next name declAccess parent record hd => exact .inr ⟨_, _, hd, rfl, rfl⟩
  · exact .inl rfl

theorem Linked.addBase (h : builder.Linked) (owner : DeclId) (type : TypeId) (access : Access)
    (isVirtual : Bool) : (builder.addBase owner type access isVirtual).2.Linked := by
  rcases builder.addBase_cases owner type access isVirtual with hf | ⟨old, new, ho, hn, hs⟩
  · rw [hf]
    exact h
  rw [hs]
  -- the base specifier is there before the list that mentions it
  let grown : Builder :=
    { builder with bases := builder.bases ++ [⟨type, access, isVirtual, owner⟩] }
  have hgrown : grown.Linked :=
    fun other made hm => (h other made hm).mono (List.prefix_append _ _)
  refine hgrown.setDecl_iff.mpr fun _ base hm => ?_
  rw [hn, List.mem_append, List.mem_singleton] at hm
  rcases hm with hm | rfl
  · exact hgrown owner old ho base hm
  · simp [grown]

/-- One call keeps a linked builder linked exactly when it lists only base specifiers of the
declaration it puts in place. -/
theorem Linked.perform_iff (h : builder.Linked) (call : BuilderCall) :
    (call.perform builder).Linked ↔ call.ListsOwn builder := by
  cases call with
  | addType type =>
    obtain ⟨hd, hb⟩ := builder.addType_fields type
    exact iff_of_true ((linked_congr hd hb).mpr h) trivial
  | addExpr expr => exact iff_of_true ((linked_congr rfl rfl).mpr h) trivial
  | addDecl decl => exact linked_addDecl_iff.trans (and_iff_right h)
  | setDecl id decl => exact h.setDecl_iff
  | addBase owner type access isVirtual =>
    exact iff_of_true (h.addBase owner type access isVirtual) trivial

theorem Linked.careful_iff (h : builder.Linked) (calls : List BuilderCall) :
    builder.Careful calls ↔ ∀ before, before <+: calls → (builder.run before).Linked := by
  induction calls generalizing builder with
  | nil =>
    refine iff_of_true trivial fun before hb => ?_
    rw [List.prefix_nil.mp hb]
    exact h
  | cons call calls ih =>
    constructor
    · rintro ⟨hl, hc⟩ before hb
      have hn := (h.perform_iff call).mpr hl
      cases before with
      | nil => exact h
      | cons first before =>
        obtain ⟨rfl, hr⟩ := List.cons_prefix_cons.mp hb
        exact (ih hn).mp hc before hr
    · intro hp
      have hn : (call.perform builder).Linked := hp [call] (by simp)
      refine ⟨(h.perform_iff call).mp hn, (ih hn).mpr fun before hb => ?_⟩
      exact hp (call :: before) (List.cons_prefix_cons.mpr ⟨rfl, hb⟩)

theorem linked_empty (name : String) : ({ name } : Builder).Linked := by
  intro owner decl h
  cases h

end Builder

theorem TranslationUnit.basesOf_eq {unit : TranslationUnit} {id : DeclId} {decl : Decl}
    (h : unit.decl? id = some decl) : unit.basesOf id = decl.baseIds := by
  unfold basesOf Decl.baseIds
  rw [h, Option.bind_some]
  cases decl.record? <;> rfl

namespace Cursor

variable {unit : TranslationUnit} {store : Store}

theorem baseCursors_ofDecl (h : store.resolve unit.id = .ok unit) (id : DeclId) :
    (ofDecl unit id).baseCursors store = .ok ((unit.basesOf id).map (ofBase unit)) := by
  cases hd : unit.decl? id with
  | none => simp [ofDecl, ofDecl?, hd, baseCursors, TranslationUnit.basesOf]
  | some decl => simp [ofDecl, ofDecl?, hd, baseCursors, h, Except.map]

/-- The parent of a base specifier tells its owner. -/
theorem semanticParent_ofBase_iff (h : store.resolve unit.id = .ok unit) {owner : DeclId}
    {decl : Decl} (hd : unit.decl? owner = some decl) (id : BaseId) :
    (ofBase unit id).semanticParent store = .ok (some (ofDecl unit owner)) ↔
      (unit.base? id).map BaseSpecifier.owner = some owner := by
  cases hb : unit.base? id with
  | none => simp [ofBase, ofBase?, hb, semanticParent]
  | some base =>
    have hp : (ofBase unit id).semanticParent store = .ok (ofDecl? unit base.owner) := by
      simp [ofBase, ofBase?, hb, semanticParent, h, Except.map]
    rw [hp]
    constructor
    · intro he
      obtain ⟨parent, _, hc⟩ := Option.map_eq_some_iff.mp (Except.ok.inj he)
      simp only [ofDecl, ofDecl?, hd, Option.map_some, Option.getD_some,
        Cursor.decl.injEq] at hc
      exact congrArg some hc.2.2
    · intro he
      obtain rfl : base.owner = owner := Option.some.inj he
      simp [ofDecl, ofDecl?, hd]

end Cursor

namespace Builder

variable {builder : Builder}

/-- What the base cursors of a registered unit show of the builder. -/
theorem linked_iff_baseCursors {store : Store} {id : UnitId} {unit : TranslationUnit}
    (hb : builder.build id = .ok unit) (hu : store.resolve id = .ok unit) :
    builder.Linked ↔ ∀ owner cursor, store.declCursor id owner = .ok cursor →
      ∃ members, cursor.baseCursors store = .ok members ∧ ∀ member ∈ members,
        member ≠ .null ∧ member.semanticParent store = .ok (some cursor) := by
  obtain rfl := build_id hb
  obtain ⟨hdecls, hbases, _, _⟩ := build_fields hb
  have hcursor (owner : DeclId) : store.declCursor unit.id owner = .ok (.ofDecl unit owner) := by
    rw [Store.declCursor, hu]
    rfl
  constructor
  · intro hl owner cursor hc
    obtain rfl := Except.ok.inj ((hcursor owner).symm.trans hc)
    refine ⟨_, Cursor.baseCursors_ofDecl hu owner, fun member hm => ?_⟩
    obtain ⟨base, hbase, rfl⟩ := List.mem_map.mp hm
    cases hd : unit.decl? owner with
    | none => simp [TranslationUnit.basesOf, hd] at hbase
    | some decl =>
      rw [TranslationUnit.basesOf_eq hd] at hbase
      have ho := hl owner decl (hdecls ▸ hd) base hbase
      rw [← hbases] at ho
      have hp := (Cursor.semanticParent_ofBase_iff hu hd base).mpr ho
      refine ⟨fun hn => ?_, hp⟩
      rw [hn] at hp
      cases hp
  · intro h owner decl hd base hbase
    rw [← hdecls] at hd
    obtain ⟨members, hm, hall⟩ := h owner _ (hcursor owner)
    rw [Cursor.baseCursors_ofDecl hu, TranslationUnit.basesOf_eq hd] at hm
    obtain rfl := Except.ok.inj hm
    rw [← hbases]
    exact (Cursor.semanticParent_ofBase_iff hu hd base).mp
      (hall _ (List.mem_map_of_mem hbase)).2

/-- The base lists of an accepted builder are right, and with them the base cursors of its unit
for as long as it lives, exactly when each of its records lists base specifiers of its own. The
calls that make a builder keep it so as long as no declaration is put in place with a base
specifier of another, and any other call breaks it. -/
theorem base_lists_right (name : String) (calls : List BuilderCall) (builder : Builder)
    (store later : Store) (id : UnitId) :
    (({ name } : Builder).Careful calls ↔
      ∀ before, before <+: calls → (({ name } : Builder).run before).Linked) ∧
    ((store.add builder).1 = .ok id → later.unit id = (store.add builder).2.unit id →
      (builder.Linked ↔ ∀ owner cursor, later.declCursor id owner = .ok cursor →
        ∃ members, cursor.baseCursors later = .ok members ∧ ∀ member ∈ members,
          member ≠ .null ∧ member.semanticParent later = .ok (some cursor))) := by
  refine ⟨(linked_empty name).careful_iff calls, fun ha hs => ?_⟩
  obtain ⟨_, ⟨unit, hb, hu, _⟩, _⟩ := Store.add_ok_lookup ha
  rw [hu, Store.unit_eq_ok_iff] at hs
  exact linked_iff_baseCursors hb (by rw [Store.resolve, hs])

/-- A record with one base specifier, replaced by one that still lists it. -/
theorem base_lists_right_replaced :
    let shape (name : String) (bases : List BaseId) : Decl :=
      { name, kind := .record { tag := .structTag, bases } }
    let calls : List BuilderCall :=
      [.addType (.builtin .bool), .addDecl (shape "Base" []), .addDecl (shape "Derived" []),
        .addBase ⟨1⟩ ⟨0⟩ .pub false, .setDecl ⟨1⟩ (shape "Renamed" [⟨0⟩])]
    let builder := ({ name := "a.cpp" } : Builder).run calls
    let store := (Store.empty.add builder).2
    let cursor : Cursor := .decl .structDecl ⟨0, 0⟩ ⟨1⟩
    ({ name := "a.cpp" } : Builder).Careful calls ∧ builder.Linked ∧
      (Store.empty.add builder).1 = .ok ⟨0, 0⟩ ∧ store.declCursor ⟨0, 0⟩ ⟨1⟩ = .ok cursor ∧
      cursor.baseCursors store = .ok [.base ⟨0, 0⟩ ⟨0⟩] ∧
      (Cursor.base ⟨0, 0⟩ ⟨0⟩).semanticParent store = .ok (some cursor) := by
  intro shape calls builder store cursor
  have hc : ({ name := "a.cpp" } : Builder).Careful calls := by
    refine ⟨trivial, ?_, ?_, trivial, fun _ base hm => ?_, trivial⟩
    · intro base hm
      cases hm
    · intro base hm
      cases hm
    · obtain rfl : base = ⟨0⟩ := List.mem_singleton.mp hm
      rfl
  have hright := base_lists_right "a.cpp" calls builder Store.empty store ⟨0, 0⟩
  have hl : builder.Linked := hright.1.mp hc calls (List.prefix_refl calls)
  have ha : (Store.empty.add builder).1 = .ok ⟨0, 0⟩ := rfl
  obtain ⟨members, hm, hall⟩ := (hright.2 ha rfl).mp hl ⟨1⟩ cursor rfl
  have hone : cursor.baseCursors store = .ok [.base ⟨0, 0⟩ ⟨0⟩] := rfl
  obtain rfl := Except.ok.inj (hone.symm.trans hm)
  exact ⟨hc, hl, ha, rfl, hone, (hall _ (List.mem_singleton_self _)).2⟩

/-- A record that lists the base specifier of another and one that does not exist. -/
theorem base_list_accepted :
    let shape (name : String) (bases : List BaseId) : Decl :=
      { name, kind := .record { tag := .structTag, bases } }
    let builder := ({ name := "a.cpp" } : Builder).run
      [.addType (.builtin .bool), .addDecl (shape "First" []),
        .addBase ⟨0⟩ ⟨0⟩ .pub false, .addDecl (shape "Second" [⟨0⟩, ⟨4⟩])]
    let store := (Store.empty.add builder).2
    (Store.empty.add builder).1 = .ok ⟨0, 0⟩ ∧
      store.declCursor ⟨0, 0⟩ ⟨1⟩ = .ok (.decl .structDecl ⟨0, 0⟩ ⟨1⟩) ∧
      (Cursor.decl .structDecl ⟨0, 0⟩ ⟨1⟩).baseCursors store =
        .ok [.base ⟨0, 0⟩ ⟨0⟩, .null] ∧
      (Cursor.base ⟨0, 0⟩ ⟨0⟩).semanticParent store =
        .ok (some (.decl .structDecl ⟨0, 0⟩ ⟨0⟩)) := by
  exact ⟨rfl, rfl, rfl, rfl⟩

end Builder

end CppIntrospect
