import CppIntrospect.Cursor.Accessor
import CppIntrospect.Proofs.CursorSession
import CppIntrospect.Proofs.ReferenceCheck
import Mathlib.Data.Finset.Card
import Mathlib.Logic.Relation

/-! Operators name their operands by id, and the check of a builder asks no more than that the
operands exist. The text of an expression goes down through the operands. It ends exactly when
no expression on the way is an operand of itself, directly or not, and that is never so where
operators come after their operands. -/

namespace CppIntrospect

def IsOperand (exprs : List Expr) (operand parent : ExprId) : Prop :=
  ∃ op lhs rhs type, exprs[parent.index]? = some ⟨.binary op lhs rhs, type⟩ ∧
    (operand = lhs ∨ operand = rhs)

def Acyclic (exprs : List Expr) : Prop := ∀ id, ¬ Relation.TransGen (IsOperand exprs) id id

/-- No expression below is an operand of itself, directly or not. -/
def Grounded (exprs : List Expr) (id : ExprId) : Prop :=
  ∀ inner, Relation.ReflTransGen (IsOperand exprs) inner id →
    ¬ Relation.TransGen (IsOperand exprs) inner inner

def OperandsFirst (exprs : List Expr) : Prop :=
  ∀ operand parent, IsOperand exprs operand parent → operand.index < parent.index

/-- The recursion through the operands ends, with a text. -/
inductive TranslationUnit.Spells (unit : TranslationUnit) : ExprId → String → Prop
  | missing {id : ExprId} : unit.expr? id = none → Spells unit id ""
  | integer {id : ExprId} {value : Int} {type : TypeId} :
    unit.expr? id = some ⟨.integerLiteral value, type⟩ → Spells unit id value.repr
  | mention {id : ExprId} {decl : DeclId} {type : TypeId} :
    unit.expr? id = some ⟨.declRef decl, type⟩ → Spells unit id (unit.declName decl)
  | plain {id : ExprId} {text : String} {type : TypeId} :
    unit.expr? id = some ⟨.unexposed text, type⟩ → Spells unit id text
  | binary {id lhs rhs : ExprId} {op : BinaryOp} {type : TypeId} {left right : String} :
    unit.expr? id = some ⟨.binary op lhs rhs, type⟩ → Spells unit lhs left →
    Spells unit rhs right → Spells unit id (left ++ " " ++ op.spelling ++ " " ++ right)

theorem OperandsFirst.acyclic {exprs : List Expr} (h : OperandsFirst exprs) : Acyclic exprs := by
  have hlt : ∀ inner outer, Relation.TransGen (IsOperand exprs) inner outer →
      inner.index < outer.index := by
    intro inner outer hpath
    induction hpath with
    | single hop => exact h _ _ hop
    | tail _ hop ih => exact Nat.lt_trans ih (h _ _ hop)
  exact fun id hid => Nat.lt_irrefl _ (hlt id id hid)

theorem grounded_iff_acyclic {exprs : List Expr} :
    (∀ id, Grounded exprs id) ↔ Acyclic exprs :=
  ⟨fun h id => h id id .refl, fun h _ inner _ => h inner⟩

theorem Grounded.operand {exprs : List Expr} {operand parent : ExprId}
    (h : Grounded exprs parent) (hop : IsOperand exprs operand parent) :
    Grounded exprs operand :=
  fun inner hin => h inner (hin.tail hop)

namespace TranslationUnit

variable {unit : TranslationUnit} {id inner operand parent : ExprId} {text other : String}

theorem isOperand_binary_iff {op : BinaryOp} {lhs rhs : ExprId} {type : TypeId}
    (he : unit.expr? parent = some ⟨.binary op lhs rhs, type⟩) :
    IsOperand unit.exprs operand parent ↔ operand = lhs ∨ operand = rhs := by
  constructor
  · rintro ⟨_, _, _, _, hother, ho⟩
    cases he.symm.trans hother
    exact ho
  · exact fun ho => ⟨op, lhs, rhs, type, he, ho⟩

theorem Spells.unique (h : unit.Spells id text) (h' : unit.Spells id other) : other = text := by
  induction h generalizing other with
  | missing he => cases h' <;> simp_all
  | integer he => cases h' <;> simp_all
  | mention he => cases h' <;> simp_all
  | plain he => cases h' <;> simp_all
  | binary he _ _ ihl ihr =>
    cases h' with
    | binary he' hl hr =>
      cases he.symm.trans he'
      rw [ihl hl, ihr hr]
    | _ he' => cases he.symm.trans he'

theorem Spells.exists_operand (h : unit.Spells parent text)
    (hop : IsOperand unit.exprs operand parent) : ∃ inner, unit.Spells operand inner := by
  obtain ⟨op, lhs, rhs, type, he, ho⟩ := hop
  cases h with
  | binary he' hl hr =>
    cases (show unit.expr? parent = _ from he).symm.trans he'
    rcases ho with rfl | rfl
    · exact ⟨_, hl⟩
    · exact ⟨_, hr⟩
  | _ he' => cases (show unit.expr? parent = _ from he).symm.trans he'

theorem Spells.exists_inner (h : unit.Spells id text)
    (hin : Relation.ReflTransGen (IsOperand unit.exprs) inner id) :
    ∃ text, unit.Spells inner text := by
  induction hin generalizing text with
  | refl => exact ⟨text, h⟩
  | tail _ hop ih =>
    obtain ⟨_, hs⟩ := h.exists_operand hop
    exact ih hs

/-- A cycle through an operator is a cycle through one of its operands, which is spelled in
fewer steps. -/
theorem Spells.not_cyclic (h : unit.Spells id text) :
    ¬ Relation.TransGen (IsOperand unit.exprs) id id := by
  induction h with
  | binary he _ _ ihl ihr =>
    intro hcycle
    obtain ⟨operand, hpath, hop⟩ := Relation.TransGen.tail'_iff.mp hcycle
    have hback := Relation.TransGen.head' hop hpath
    rcases (isOperand_binary_iff he).mp hop with rfl | rfl
    · exact ihl hback
    · exact ihr hback
  | _ he =>
    intro hcycle
    obtain ⟨_, _, op, lhs, rhs, type, he', _⟩ := Relation.TransGen.tail'_iff.mp hcycle
    cases he.symm.trans he'

theorem Spells.grounded (h : unit.Spells id text) : Grounded unit.exprs id := by
  intro inner hin
  obtain ⟨_, hs⟩ := h.exists_inner hin
  exact hs.not_cyclic

theorem spells_of_exprTextWithin {depth : Nat} (h : unit.exprTextWithin depth id = some text) :
    unit.Spells id text := by
  induction depth generalizing id text with
  | zero => cases h
  | succ depth ih =>
    rw [exprTextWithin] at h
    cases he : unit.expr? id with
    | none =>
      rw [he] at h
      cases h
      exact .missing he
    | some expr =>
      obtain ⟨kind, type⟩ := expr
      rw [he] at h
      cases kind with
      | integerLiteral value =>
        cases h
        exact .integer he
      | declRef decl =>
        cases h
        exact .mention he
      | unexposed text =>
        cases h
        exact .plain he
      | binary op lhs rhs =>
        cases hl : unit.exprTextWithin depth lhs with
        | none => simp [hl] at h
        | some left =>
          cases hr : unit.exprTextWithin depth rhs with
          | none => simp [hl, hr] at h
          | some right =>
            simp only [hl, hr] at h
            cases h
            exact .binary he (ih hl) (ih hr)

/-- The operators passed on the way down are all different, so there are no more of them than
expressions, and the depth suffices for what is left. -/
theorem exists_exprTextWithin {depth : Nat} (above : Finset Nat) (hg : Grounded unit.exprs id)
    (habove : ∀ i ∈ above, i < unit.exprs.length ∧
      Relation.TransGen (IsOperand unit.exprs) id ⟨i⟩)
    (hdepth : unit.exprs.length < depth + above.card) :
    ∃ text, unit.exprTextWithin depth id = some text := by
  induction depth generalizing id above with
  | zero =>
    have hsub : above ⊆ Finset.range unit.exprs.length :=
      fun i hi => Finset.mem_range.mpr (habove i hi).1
    have hcard := Finset.card_le_card hsub
    rw [Finset.card_range] at hcard
    omega
  | succ depth ih =>
    rw [exprTextWithin]
    cases he : unit.expr? id with
    | none => exact ⟨"", rfl⟩
    | some expr =>
      obtain ⟨kind, type⟩ := expr
      cases kind with
      | integerLiteral value => exact ⟨_, rfl⟩
      | declRef decl => exact ⟨_, rfl⟩
      | unexposed text => exact ⟨_, rfl⟩
      | binary op lhs rhs =>
        have hlt : id.index < unit.exprs.length := (List.getElem?_eq_some_iff.mp he).1
        have hnew : id.index ∉ above := fun hm => hg id .refl (habove _ hm).2
        have hbelow : ∀ operand, IsOperand unit.exprs operand id →
            ∃ text, unit.exprTextWithin depth operand = some text := by
          intro operand hop
          refine ih (insert id.index above) (hg.operand hop) (fun i hi => ?_) ?_
          · rcases Finset.mem_insert.mp hi with rfl | hi
            · exact ⟨hlt, .single hop⟩
            · exact ⟨(habove i hi).1, .head hop (habove i hi).2⟩
          · rw [Finset.card_insert_of_notMem hnew]
            omega
        obtain ⟨left, hl⟩ := hbelow lhs ((isOperand_binary_iff he).mpr (.inl rfl))
        obtain ⟨right, hr⟩ := hbelow rhs ((isOperand_binary_iff he).mpr (.inr rfl))
        exact ⟨left ++ " " ++ op.spelling ++ " " ++ right, by simp only [hl, hr]⟩

theorem exists_exprText_iff : (∃ text, unit.exprText id = some text) ↔ Grounded unit.exprs id := by
  constructor
  · rintro ⟨text, h⟩
    exact (spells_of_exprTextWithin h).grounded
  · intro hg
    exact exists_exprTextWithin ∅ hg (by simp) (by simp)

theorem exprText_eq_none_iff : unit.exprText id = none ↔ ¬ Grounded unit.exprs id := by
  rw [← exists_exprText_iff, ← Option.isSome_iff_exists, Bool.not_eq_true,
    Option.isSome_eq_false_iff, Option.isNone_iff_eq_none]

theorem exprText_eq_some_iff : unit.exprText id = some text ↔ unit.Spells id text := by
  constructor
  · exact spells_of_exprTextWithin
  · intro h
    obtain ⟨found, hf⟩ := exists_exprText_iff.mpr h.grounded
    rw [hf, (spells_of_exprTextWithin hf).unique h]

theorem exists_spells_iff : (∃ text, unit.Spells id text) ↔ Grounded unit.exprs id := by
  simp only [← exprText_eq_some_iff, exists_exprText_iff]

-- Packs nest, so an argument and a list of arguments go together.
mutual

theorem exists_argumentText_iff : ∀ arg : TemplateArgument,
    (∃ text, unit.argumentText arg = some text) ↔
      ∀ expr, .expr expr ∈ arg.refs → Grounded unit.exprs expr
  | .null => by simp [argumentText, TemplateArgument.refs]
  | .type _ => by simp [argumentText, TemplateArgument.refs]
  | .declaration _ => by simp [argumentText, TemplateArgument.refs]
  | .integral _ _ => by simp [argumentText, TemplateArgument.refs]
  | .template _ => by simp [argumentText, TemplateArgument.refs]
  | .templateExpansion _ => by simp [argumentText, TemplateArgument.refs]
  | .expression id => by
    simp [argumentText, TemplateArgument.refs, exists_exprText_iff]
  | .pack elements => by
    rw [argumentText, TemplateArgument.refs, ← exists_argumentTexts_iff elements]
    simp [Option.map_eq_some_iff]

theorem exists_argumentTexts_iff : ∀ args : List TemplateArgument,
    (∃ texts, unit.argumentTexts args = some texts) ↔
      ∀ expr, .expr expr ∈ TemplateArgument.refsOfList args → Grounded unit.exprs expr
  | [] => by simp [argumentTexts, TemplateArgument.refsOfList]
  | arg :: args => by
    have harg := exists_argumentText_iff arg
    have hargs := exists_argumentTexts_iff args
    simp only [TemplateArgument.refsOfList, List.mem_append, or_imp, forall_and, ← harg, ← hargs,
      argumentTexts]
    cases unit.argumentText arg <;> cases unit.argumentTexts args <;> simp

end

theorem argumentText_eq_none_iff {arg : TemplateArgument} : unit.argumentText arg = none ↔
    ∃ expr, arg.Mentions (.expr expr) ∧ ¬ Grounded unit.exprs expr := by
  have hends := unit.exists_argumentText_iff arg
  rw [← Option.isNone_iff_eq_none, ← Option.isSome_eq_false_iff, ← Bool.not_eq_true,
    Option.isSome_iff_exists, hends]
  simp [TemplateArgument.mem_refs_iff]

end TranslationUnit

namespace Cursor

/-- The text of a cursor goes through an expression that is an operand of itself. -/
inductive Endless (unit : TranslationUnit) : Cursor → Prop
  | expr {kind : CursorKind} {owner : UnitId} {id : ExprId} {parent : ParentLink} :
    ¬ Grounded unit.exprs id → Endless unit (.expr kind owner id parent)
  | argument {owner : UnitId} {decl : DeclId} {position : Nat} {kind : ArgumentKind}
    {arg : TemplateArgument} {id : ExprId} : unit.argument? decl position = some arg →
    arg.Mentions (.expr id) → ¬ Grounded unit.exprs id →
    Endless unit (.argument owner decl position kind)

variable {store : Store} {unit : TranslationUnit} {cursor : Cursor} {id : UnitId}
  {fault : CursorError}

theorem endless_expr_iff {kind : CursorKind} {expr : ExprId} {parent : ParentLink} :
    Endless unit (.expr kind id expr parent) ↔ unit.exprText expr = none := by
  rw [TranslationUnit.exprText_eq_none_iff]
  constructor
  · rintro (hg | _)
    exact hg
  · exact .expr

theorem endless_argument_iff {decl : DeclId} {position : Nat} {kind : ArgumentKind} :
    Endless unit (.argument id decl position kind) ↔
      ∃ arg, unit.argument? decl position = some arg ∧ unit.argumentText arg = none := by
  constructor
  · rintro (_ | ⟨ha, hm, hg⟩)
    exact ⟨_, ha, TranslationUnit.argumentText_eq_none_iff.mpr ⟨_, hm, hg⟩⟩
  · rintro ⟨arg, ha, ht⟩
    obtain ⟨expr, hm, hg⟩ := TranslationUnit.argumentText_eq_none_iff.mp ht
    exact .argument ha hm hg

/-- With a live unit the text of a cursor is missing only if it never ends. -/
theorem spelling_eq_error_iff (hc : cursor.unit? = some id) (hlive : store.resolve id = .ok unit) :
    cursor.spelling store = .error fault ↔ fault = .endlessText ∧ cursor.Endless unit := by
  have hended : ∀ text, ended text = .error fault ↔ fault = .endlessText ∧ text = none := by
    intro text
    cases text <;> simp [ended, eq_comm]
  cases cursor with
  | null => cases hc
  | decl kind owner decl =>
    obtain rfl := Option.some.inj hc
    simp only [spelling, hlive]
    exact ⟨nofun, nofun⟩
  | base owner base =>
    obtain rfl := Option.some.inj hc
    simp only [spelling, hlive]
    exact ⟨nofun, nofun⟩
  | argument owner decl position kind =>
    obtain rfl := Option.some.inj hc
    rw [endless_argument_iff]
    simp only [spelling, hlive, Except.bind]
    cases unit.argument? decl position with
    | none => simp
    | some arg => simp [hended]
  | expr kind owner expr parent =>
    obtain rfl := Option.some.inj hc
    rw [endless_expr_iff, ← hended]
    simp only [spelling, hlive, Except.bind]

end Cursor

namespace Builder

/-- The texts of the expressions of a registered unit. The recursion ends from an expression exactly
if none below it is an operand of itself, so from all of them exactly if there is no cycle, and
operators that come after their operands make none. The same goes for the text of a cursor, and
for an argument it goes by the expressions that the argument mentions. -/
theorem expression_texts_end_iff (builder : Builder) (store later : Store) (id : UnitId)
    (unit : TranslationUnit) (ha : (store.add builder).1 = .ok id)
    (hu : (store.add builder).2.unit id = .ok unit) (hs : later.unit id = .ok unit) :
    (∀ expr, (∃ text, unit.Spells expr text) ↔ Grounded builder.exprs expr) ∧
    ((∀ expr, ∃ text, unit.Spells expr text) ↔ Acyclic builder.exprs) ∧
    (OperandsFirst builder.exprs → Acyclic builder.exprs) ∧
    (∀ kind expr parent text,
      (Cursor.expr kind id expr parent).spelling later = .ok (some text) ↔
        unit.Spells expr text) ∧
    ∀ owner position kind arg, unit.argument? owner position = some arg →
      ((∃ text, (Cursor.argument id owner position kind).spelling later = .ok (some text)) ↔
        ∀ expr, arg.Mentions (.expr expr) → Grounded builder.exprs expr) := by
  obtain ⟨_, ⟨made, hb, hmade, _⟩, _⟩ := Store.add_ok_lookup ha
  obtain rfl : made = unit := Except.ok.inj (hmade.symm.trans hu)
  have hexprs : made.exprs = builder.exprs := (build_fields hb).2.2.2
  have hr : later.resolve id = .ok made := Store.resolve_eq_ok_iff.mpr hs
  rw [← hexprs]
  refine ⟨fun expr => TranslationUnit.exists_spells_iff, ?_, OperandsFirst.acyclic, ?_, ?_⟩
  · simp only [TranslationUnit.exists_spells_iff, grounded_iff_acyclic]
  · intro kind expr parent text
    simp only [Cursor.spelling, hr, Except.bind, ← TranslationUnit.exprText_eq_some_iff]
    cases made.exprText expr <;> simp [Cursor.ended]
  · intro owner position kind arg harg
    simp only [← TemplateArgument.mem_refs_iff, ← TranslationUnit.exists_argumentText_iff]
    simp only [Cursor.spelling, hr, Except.bind, harg]
    cases made.argumentText arg <;> simp [Cursor.ended]

/-- An operator that comes before its operands, one of them an operator too. -/
theorem expression_texts_end_iff_forward :
    let exprs : List Expr :=
      [⟨.binary .add ⟨2⟩ ⟨1⟩, ⟨0⟩⟩, ⟨.unexposed "n", ⟨0⟩⟩, ⟨.binary .mul ⟨3⟩ ⟨1⟩, ⟨0⟩⟩,
        ⟨.integerLiteral 3, ⟨0⟩⟩]
    let builder : Builder := { name := "a.cpp", types := [.builtin .bool], exprs }
    let store := (Store.empty.add builder).2
    (Store.empty.add builder).1 = .ok ⟨0, 0⟩ ∧ ¬ OperandsFirst exprs ∧ Grounded exprs ⟨0⟩ ∧
      (Cursor.expr .binaryOperator ⟨0, 0⟩ ⟨0⟩ .unknown).spelling store =
        .ok (some "3 * n + n") := by
  intro exprs builder store
  have ha : (Store.empty.add builder).1 = .ok ⟨0, 0⟩ := rfl
  obtain ⟨_, ⟨unit, hb, hu, _⟩, _⟩ := Store.add_ok_lookup ha
  have hexprs : unit.exprs = exprs := (build_fields hb).2.2.2
  have hex : ∀ expr : ExprId, unit.expr? expr = exprs[expr.index]? := fun expr => by
    rw [TranslationUnit.expr?, hexprs]
  have hn : unit.Spells ⟨1⟩ "n" := .plain (hex ⟨1⟩)
  have hthree : unit.Spells ⟨3⟩ "3" := .integer (hex ⟨3⟩)
  have hroot : unit.Spells ⟨0⟩ "3 * n + n" := .binary (hex ⟨0⟩) (.binary (hex ⟨2⟩) hthree hn) hn
  obtain ⟨hends, _, _, hcursor, _⟩ :=
    expression_texts_end_iff builder Store.empty store ⟨0, 0⟩ unit ha hu hu
  refine ⟨ha, fun hfirst => ?_, (hends ⟨0⟩).mp ⟨_, hroot⟩, (hcursor _ _ _ _).mpr hroot⟩
  exact absurd (hfirst ⟨2⟩ ⟨0⟩ ⟨_, _, _, _, rfl, .inl rfl⟩) (by decide)

/-- An operator that is both of its own operands. -/
theorem self_operand_accepted :
    let exprs : List Expr := [⟨.binary .add ⟨0⟩ ⟨0⟩, ⟨0⟩⟩]
    let builder : Builder := { name := "a.cpp", types := [.builtin .bool], exprs }
    let store := (Store.empty.add builder).2
    (Store.empty.add builder).1 = .ok ⟨0, 0⟩ ∧ ¬ Acyclic exprs ∧
      ∀ unit, store.unit ⟨0, 0⟩ = .ok unit → ¬ ∃ text, unit.Spells ⟨0⟩ text := by
  intro exprs builder store
  have hcycle : Relation.TransGen (IsOperand exprs) ⟨0⟩ ⟨0⟩ :=
    .single ⟨_, _, _, _, rfl, .inl rfl⟩
  refine ⟨rfl, fun h => h ⟨0⟩ hcycle, ?_⟩
  rintro unit hu ⟨text, hs⟩
  obtain rfl : _ = unit := Except.ok.inj hu
  exact hs.not_cyclic hcycle

end Builder

end CppIntrospect
