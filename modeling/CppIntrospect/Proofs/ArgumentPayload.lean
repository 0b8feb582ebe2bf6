import CppIntrospect.Proofs.TemplateLists
import Mathlib.Data.Int.ModEq

/-! What can be read off a template argument through its cursor. Of the six readers the one for
the kind of the stored argument answers, with what is stored; the others have no answer. The
cursor carries the kind and the unit the argument, so the two have to fit together; and the
entity that an argument names exists because its unit was checked. -/

namespace CppIntrospect

/-- The answers of the readers of template arguments. -/
structure ArgumentAnswers where
  type : Option TypeHandle := none
  integral : Option Int64 := none
  declaration : Option Cursor := none
  template : Option Cursor := none
  expression : Option Cursor := none
  packSize : Option UInt32 := none

/-- The number of readers that have an answer. -/
def ArgumentAnswers.given (answers : ArgumentAnswers) : Nat :=
  [answers.type.isSome, answers.integral.isSome, answers.declaration.isSome,
    answers.template.isSome, answers.expression.isSome, answers.packSize.isSome].count true

structure Cursor.Reads (cursor : Cursor) (store : Store) (answers : ArgumentAnswers) : Prop where
  type : cursor.asType store = .ok answers.type
  integral : cursor.asIntegral store = .ok answers.integral
  declaration : cursor.asDeclaration store = .ok answers.declaration
  template : cursor.asTemplate store = .ok answers.template
  expression : cursor.asExpression store = .ok answers.expression
  packSize : cursor.packSize store = .ok answers.packSize

/-- The answers that an argument of a unit stands for. -/
inductive TemplateArgument.Carries (unit : TranslationUnit) :
    TemplateArgument → ArgumentAnswers → Prop
  | null : Carries unit .null {}
  | type {id : TypeId} {type : CppType} : unit.type? id = some type →
    Carries unit (.type id) { type := some (.valid unit.id id) }
  | integral {value : Int} {id : TypeId} {reduced : Int64} :
    reduced.toInt ≡ value [ZMOD 2 ^ 64] →
    Carries unit (.integral value id) { integral := some reduced }
  | declaration {id : DeclId} {decl : Decl} : unit.decl? id = some decl →
    Carries unit (.declaration id) { declaration := some (.decl (.ofDecl decl) unit.id id) }
  | template {id : DeclId} {decl : Decl} : unit.decl? id = some decl →
    Carries unit (.template id) { template := some (.decl (.ofDecl decl) unit.id id) }
  | templateExpansion {id : DeclId} {decl : Decl} : unit.decl? id = some decl →
    Carries unit (.templateExpansion id) { template := some (.decl (.ofDecl decl) unit.id id) }
  | expression {id : ExprId} {expr : Expr} : unit.expr? id = some expr →
    Carries unit (.expression id)
      { expression := some (.expr (.ofExpr expr) unit.id id .unknown) }
  | pack {elements : List TemplateArgument} :
    Carries unit (.pack elements) { packSize := some (.ofNat elements.length) }

theorem int64_ofInt_eq_iff {value : Int} {reduced : Int64} :
    Int64.ofInt value = reduced ↔ reduced.toInt ≡ value [ZMOD 2 ^ 64] := by
  rw [Int64.ofInt_eq_iff_bmod_eq_toInt]
  constructor
  · intro h
    rw [← h]
    exact Int.bmod_emod
  · intro h
    have hself : reduced.toInt.bmod (2 ^ 64) = reduced.toInt :=
      (Int64.ofInt_eq_iff_bmod_eq_toInt _ _).mp (Int64.ofInt_toInt reduced)
    have hmod : value % (2 ^ 64 : Nat) = reduced.toInt % (2 ^ 64 : Nat) := h.symm
    calc
      value.bmod (2 ^ 64) = (value % (2 ^ 64 : Nat)).bmod (2 ^ 64) := (Int.emod_bmod _ _).symm
      _ = (reduced.toInt % (2 ^ 64 : Nat)).bmod (2 ^ 64) := by rw [hmod]
      _ = reduced.toInt.bmod (2 ^ 64) := Int.emod_bmod _ _
      _ = reduced.toInt := hself

namespace TemplateArgument

variable {unit : TranslationUnit} {store : Store} {arg : TemplateArgument}
  {answers others : ArgumentAnswers}

theorem exists_carries (hheld : ∀ ref, arg.Mentions ref → unit.Holds ref) :
    ∃ answers, arg.Carries unit answers := by
  cases arg with
  | null => exact ⟨_, .null⟩
  | type id =>
    obtain ⟨type, ht⟩ := hheld _ .type
    exact ⟨_, .type ht⟩
  | declaration id =>
    obtain ⟨decl, hd⟩ := hheld _ .declaration
    exact ⟨_, .declaration hd⟩
  | integral value id => exact ⟨_, .integral (int64_ofInt_eq_iff.mp rfl)⟩
  | template id =>
    obtain ⟨decl, hd⟩ := hheld _ .template
    exact ⟨_, .template hd⟩
  | templateExpansion id =>
    obtain ⟨decl, hd⟩ := hheld _ .templateExpansion
    exact ⟨_, .templateExpansion hd⟩
  | expression id =>
    obtain ⟨expr, he⟩ := hheld _ .expression
    exact ⟨_, .expression he⟩
  | pack elements => exact ⟨_, .pack⟩

namespace Carries

theorem unique (h : arg.Carries unit answers) (h' : arg.Carries unit others) :
    others = answers := by
  cases h with
  | null =>
    cases h'
    rfl
  | pack =>
    cases h'
    rfl
  | type _ =>
    cases h'
    rfl
  | integral hr =>
    cases h' with
    | integral hr' =>
      rw [← int64_ofInt_eq_iff] at hr hr'
      rw [← hr, ← hr']
  | declaration hd =>
    cases h' with
    | declaration hd' => rw [Option.some.inj (hd.symm.trans hd')]
  | template hd =>
    cases h' with
    | template hd' => rw [Option.some.inj (hd.symm.trans hd')]
  | templateExpansion hd =>
    cases h' with
    | templateExpansion hd' => rw [Option.some.inj (hd.symm.trans hd')]
  | expression he =>
    cases h' with
    | expression he' => rw [Option.some.inj (he.symm.trans he')]

theorem given_of_null (h : arg.Carries unit answers) (hn : arg = .null) : answers.given = 0 := by
  subst hn
  cases h
  rfl

theorem given_of_ne_null (h : arg.Carries unit answers) (hn : arg ≠ .null) :
    answers.given = 1 := by
  cases h with
  | null => exact absurd rfl hn
  | _ => rfl

theorem reads {owner : DeclId} {position : Nat} (hlive : store.resolve unit.id = .ok unit)
    (ha : unit.argument? owner position = some arg) (h : arg.Carries unit answers) :
    (Cursor.argument unit.id owner position arg.kind).Reads store answers := by
  -- five readers look at the kind of the cursor alone
  cases h with
  | null => exact ⟨rfl, rfl, rfl, rfl, rfl, rfl⟩
  | type _ =>
    refine ⟨?_, rfl, rfl, rfl, rfl, rfl⟩
    simp only [kind, Cursor.asType, hlive, Except.map, ha, Option.bind_some, type?, Option.map_some]
  | integral hr =>
    refine ⟨rfl, ?_, rfl, rfl, rfl, rfl⟩
    simp only [kind, Cursor.asIntegral, hlive, Except.map, ha, Option.bind_some, integral?,
      Option.map_some, int64_ofInt_eq_iff.mpr hr]
  | declaration hd =>
    refine ⟨rfl, rfl, ?_, rfl, rfl, rfl⟩
    simp only [kind, Cursor.asDeclaration, hlive, Except.map, ha, Option.bind_some, declaration?,
      Cursor.ofDecl?, hd, Option.map_some]
  | template hd =>
    refine ⟨rfl, rfl, rfl, ?_, rfl, rfl⟩
    simp [kind, Cursor.asTemplate, hlive, Except.map, ha, template?, Cursor.ofDecl?, hd]
  | templateExpansion hd =>
    refine ⟨rfl, rfl, rfl, ?_, rfl, rfl⟩
    simp [kind, Cursor.asTemplate, hlive, Except.map, ha, template?, Cursor.ofDecl?, hd]
  | expression he =>
    refine ⟨rfl, rfl, rfl, rfl, ?_, rfl⟩
    simp only [kind, Cursor.asExpression, hlive, Except.map, ha, Option.bind_some, expression?,
      Cursor.ofExpr?, he, Option.map_some]
  | pack =>
    refine ⟨rfl, rfl, rfl, rfl, rfl, ?_⟩
    simp only [kind, Cursor.packSize, hlive, Except.map, ha, Option.map_some, packElements]

theorem type_spelled (h : arg.Carries unit answers) (hlive : store.resolve unit.id = .ok unit)
    {handle : TypeHandle} (ht : answers.type = some handle) :
    ∃ text, handle.spelling store = .ok (some text) := by
  cases h with
  | @type id type hheld =>
    obtain rfl := Option.some.inj ht
    exact ⟨type.spelling, by simp [TypeHandle.spelling, hlive, Except.map, hheld]⟩
  | _ => cases ht

/-- Lengths from `2 ^ 32` on lose their upper bits. -/
theorem size_counted (h : arg.Carries unit answers) {elements : List TemplateArgument}
    (ha : arg = .pack elements) (hlen : elements.length < 2 ^ 32) :
    answers.packSize.map UInt32.toNat = some elements.length := by
  subst ha
  cases h with
  | pack => rw [Option.map_some, UInt32.toNat_ofNat_of_lt' hlen]

theorem expression_parentless (h : arg.Carries unit answers)
    (hlive : store.resolve unit.id = .ok unit) {shown : Cursor}
    (he : answers.expression = some shown) :
    shown.parentLink? = some .unknown ∧ shown.semanticParent store = .ok none := by
  cases h with
  | expression _ =>
    obtain rfl := Option.some.inj he
    exact ⟨rfl, by simp [Cursor.semanticParent, hlive, Except.map]⟩
  | _ => cases he

end Carries

end TemplateArgument

theorem Accessor.entry_eq_some_iff {α : Type} {items : Option (List α)} {position : Nat}
    {found : α → Option Cursor} {overrun : Nat → CursorError} {cursor : Cursor} :
    entry items position found overrun = .ok (some cursor) ↔
      ∃ stored item, items = some stored ∧ stored[position]? = some item ∧
        found item = some cursor := by
  cases items with
  | none => simp [entry]
  | some stored => cases hi : stored[position]? <;> simp [entry, hi]

/-- A cursor that shows a template argument shows one that a declaration stores. -/
theorem Cursor.templateArgument_cases {source cursor : Cursor} {store : Store} {position : Nat}
    (h : source.templateArgument store position = .ok (some cursor)) :
    ∃ id owner unit decl args arg, source.unit? = some id ∧ source.decl? = some owner ∧
      store.unit id = .ok unit ∧ unit.decl? owner = some decl ∧ decl.StoresArguments args ∧
      args[position]? = some arg ∧ cursor = .argument unit.id owner position arg.kind := by
  cases source with
  | decl kind id owner =>
    have hk : kind.isDeclaration = true := by
      by_contra hk
      simp [templateArgument, Cursor.kind, hk] at h
    rw [Accessor.templateArgument_eq_entry hk] at h
    obtain ⟨unit, hu, he⟩ := Store.resolve_bind_eq_ok h
    obtain ⟨args, arg, hargs, ha, hc⟩ := Accessor.entry_eq_some_iff.mp he
    obtain ⟨decl, hd, hs⟩ := Option.bind_eq_some_iff.mp hargs
    exact ⟨id, owner, unit, decl, args, arg, rfl, rfl, hu, hd, Decl.args?_eq_some_iff.mp hs, ha,
      (Option.some.inj hc).symm⟩
  | _ => simp [templateArgument] at h

namespace StoreRun

/-- A cursor that a declaration of a live unit gave for one of its template arguments answers
with what is stored at its place. The reader for the kind of the argument answers, and no
other one; none does where nothing has been deduced. The size of a pack is the number of its
elements in a word of 32 bits. -/
theorem argument_read_back (calls : List StoreCall) {source cursor : Cursor} {position : Nat}
    (h : source.templateArgument (of calls).store position = .ok (some cursor)) :
    let store := (of calls).store
    ∃ id owner unit decl args arg answers,
      (source.unit? = some id ∧ store.unit id = .ok unit) ∧
      (source.decl? = some owner ∧ unit.decl? owner = some decl) ∧
      (decl.StoresArguments args ∧ args[position]? = some arg) ∧
      cursor.Reads store answers ∧ arg.Carries unit answers ∧
      (∀ others, arg.Carries unit others → others = answers) ∧
      (arg = .null → answers.given = 0) ∧ (arg ≠ .null → answers.given = 1) ∧
      (∀ handle, answers.type = some handle → ∃ text, handle.spelling store = .ok (some text)) ∧
      (∀ elements, arg = .pack elements → elements.length < 2 ^ 32 →
        answers.packSize.map UInt32.toNat = some elements.length) ∧
      ∀ shown, answers.expression = some shown →
        shown.parentLink? = some .unknown ∧ shown.semanticParent store = .ok none := by
  intro store
  obtain ⟨id, owner, unit, decl, args, arg, hid, ho, hu, hd, hs, ha, rfl⟩ :=
    Cursor.templateArgument_cases h
  have htracks := tracks_of calls
  obtain rfl := htracks.id_of_unit hu
  have hlive : store.resolve unit.id = .ok unit := Store.resolve_eq_ok_iff.mpr hu
  have hat : unit.argument? owner position = some arg := by
    simp only [TranslationUnit.argument?, hd, Option.bind_some, Decl.args?_eq_some_iff.mpr hs, ha]
  obtain ⟨answers, hc⟩ := TemplateArgument.exists_carries fun ref hm =>
    htracks.holds hu hd (hs.mentions (List.mem_of_getElem? ha) hm)
  exact ⟨unit.id, owner, unit, decl, args, arg, answers, ⟨hid, hu⟩, ⟨ho, hd⟩, ⟨hs, ha⟩,
    hc.reads hlive hat, hc, fun _ => hc.unique, hc.given_of_null, hc.given_of_ne_null,
    fun _ => hc.type_spelled hlive, fun _ => hc.size_counted,
    fun _ => hc.expression_parentless hlive⟩

/-- A value beyond the signed words of 64 bits, in the second place of a specialization. -/
theorem argument_read_back_wide :
    let link : ClassSpecialization := .full (.primary ⟨0⟩) [.null, .integral (2 ^ 64 - 1) ⟨0⟩]
    let builder : Builder :=
      { name := "a.cpp"
        decls := [{ name := "Box",
                    kind := .record { tag := .structTag, specialization := some link } }]
        types := [.builtin .bool] }
    let store := (of [.add builder]).store
    let cursor : Cursor := .argument ⟨0, 0⟩ ⟨0⟩ 1 .integral
    (Cursor.decl .structDecl ⟨0, 0⟩ ⟨0⟩).templateArgument store 1 = .ok (some cursor) ∧
      (-1 : Int64).toInt ≡ 2 ^ 64 - 1 [ZMOD 2 ^ 64] ∧
      cursor.Reads store { integral := some (-1) } := by
  intro link builder store cursor
  have hc : (Cursor.decl .structDecl ⟨0, 0⟩ ⟨0⟩).templateArgument store 1 = .ok (some cursor) :=
    rfl
  have hmod : (-1 : Int64).toInt ≡ 2 ^ 64 - 1 [ZMOD 2 ^ 64] := by decide
  obtain ⟨id, owner, unit, decl, args, arg, answers, ⟨hid, hu⟩, ⟨ho, hd⟩, ⟨hs, ha⟩, hr, _, huniq,
    _⟩ := argument_read_back [.add builder] hc
  obtain rfl := Option.some.inj hid
  obtain rfl := Option.some.inj ho
  obtain rfl := Except.ok.inj hu
  obtain rfl := Option.some.inj hd
  obtain rfl := Option.some.inj (Decl.args?_eq_some_iff.mpr hs)
  obtain rfl := Option.some.inj ha
  obtain rfl := huniq _ (.integral hmod)
  exact ⟨hc, hmod, hr⟩

end StoreRun

end CppIntrospect
