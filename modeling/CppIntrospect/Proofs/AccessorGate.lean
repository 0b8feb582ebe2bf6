import CppIntrospect.Log.Event
import CppIntrospect.Proofs.OperandCycles

/-! Which cursors an accessor is for. A cursor that it is not for never reaches the store; any
other is answered by its unit alone, and a disposed unit is an error of its own. The proof goes
by the sort of cursor, and within one sort by the accessor. Some accessors also look at the kind
that a cursor of a declaration records, which turns away none that a unit or a store gives. -/

namespace CppIntrospect

namespace Accessor

abbrev Answer : Accessor → Type
  | isVirtualBase => Bool
  | accessSpecifier => Access
  | templateCursorKind => CursorKind
  | classify => TemplateClass
  | spelling => Option String
  | numTemplateArguments | numTemplateParameters => Option Nat
  | packSize => Option UInt32
  | asType => Option TypeHandle
  | asIntegral => Option Int64
  | baseCursors => List Cursor
  | specializedTemplate | semanticParent | templateArgument | templateParameter
  | asDeclaration | asTemplate | asExpression => Option Cursor

/-- The answer for a cursor that an accessor is not for. -/
def noResult : (accessor : Accessor) → accessor.Answer
  | isVirtualBase => false
  | accessSpecifier => Access.unspecified
  | templateCursorKind => CursorKind.noDeclFound
  | classify => TemplateClass.ordinary
  | spelling => (none : Option String)
  | numTemplateArguments | numTemplateParameters => (none : Option Nat)
  | packSize => (none : Option UInt32)
  | asType => (none : Option TypeHandle)
  | asIntegral => (none : Option Int64)
  | baseCursors => ([] : List Cursor)
  | specializedTemplate | semanticParent | templateArgument | templateParameter
  | asDeclaration | asTemplate | asExpression => (none : Option Cursor)

/-- Asks the question of an accessor. Only two accessors look at the position. -/
def ask (position : Nat) (cursor : Cursor) (store : Store) :
    (accessor : Accessor) → Except CursorError accessor.Answer
  | isVirtualBase => cursor.isVirtualBase store
  | accessSpecifier => cursor.accessSpecifier store
  | templateCursorKind => cursor.templateCursorKind store
  | specializedTemplate => cursor.specializedTemplate store
  | semanticParent => cursor.semanticParent store
  | spelling => cursor.spelling store
  | classify => cursor.classify store
  | numTemplateArguments => cursor.numTemplateArguments store
  | templateArgument => cursor.templateArgument store position
  | numTemplateParameters => cursor.numTemplateParameters store
  | templateParameter => cursor.templateParameter store position
  | asType => cursor.asType store
  | asIntegral => cursor.asIntegral store
  | asDeclaration => cursor.asDeclaration store
  | asTemplate => cursor.asTemplate store
  | asExpression => cursor.asExpression store
  | packSize => cursor.packSize store
  | baseCursors => cursor.baseCursors store

/-- Whether an accessor is for a cursor. -/
def legal (cursor : Cursor) : Accessor → Bool
  | isVirtualBase => cursor.base?.isSome
  | accessSpecifier => cursor.base?.isSome || cursor.decl?.isSome && cursor.kind.carriesAccess
  | templateCursorKind => cursor.decl?.isSome &&
    cursor.kind ∈ [.classTemplate, .functionTemplate, .classTemplatePartialSpecialization]
  | numTemplateParameters | templateParameter => cursor.decl?.isSome &&
    cursor.kind ∈ [.classTemplate, .functionTemplate, .typeAliasTemplateDecl,
      .classTemplatePartialSpecialization]
  | specializedTemplate | classify | numTemplateArguments | templateArgument
  | baseCursors => cursor.decl?.isSome
  | asType => cursor.argumentKind? = some .type
  | asIntegral => cursor.argumentKind? = some .integral
  | asDeclaration => cursor.argumentKind? = some .declaration
  | asTemplate =>
    cursor.argumentKind? = some .template ∨ cursor.argumentKind? = some .templateExpansion
  | asExpression => cursor.argumentKind? = some .expression
  | packSize => cursor.argumentKind? = some .pack
  | semanticParent | spelling => !cursor.isNull

/-- Whether an accessor checks the recorded kind of a declaration before it looks at it. -/
def checksKind : Accessor → Bool
  | specializedTemplate | numTemplateArguments | templateArgument => true
  | _ => false

/-- Whether a cursor gets past the checks of an accessor. -/
def admits (cursor : Cursor) (accessor : Accessor) : Bool :=
  accessor.legal cursor && (!accessor.checksKind || cursor.kind.isDeclaration)

/-- The position is beyond the end of the list that an accessor looks at. -/
inductive BeyondList (position : Nat) (cursor : Cursor) (store : Store) :
    Accessor → CursorError → Prop
  | argument {count : Nat} : cursor.numTemplateArguments store = .ok (some count) →
    count ≤ position →
    BeyondList position cursor store templateArgument (.argumentOutOfRange position count)
  | parameter {count : Nat} : cursor.numTemplateParameters store = .ok (some count) →
    count ≤ position →
    BeyondList position cursor store templateParameter (.parameterOutOfRange position count)

/-- What goes wrong though the unit is alive. -/
inductive Fails (position : Nat) (cursor : Cursor) (store : Store) :
    Accessor → CursorError → Prop
  | beyond {accessor : Accessor} {fault : CursorError} :
    BeyondList position cursor store accessor fault → Fails position cursor store accessor fault
  | endless {id : UnitId} {unit : TranslationUnit} : cursor.unit? = some id →
    store.resolve id = .ok unit → cursor.Endless unit →
    Fails position cursor store spelling .endlessText

/-- The sorts of cursors on which an accessor may fail. -/
def mayFail (cursor : Cursor) : Accessor → Bool
  | templateArgument | templateParameter => true
  | spelling => cursor.argument?.isSome || cursor.expr?.isSome
  | _ => false

/-- The cursor decides whether the store is looked at, and then its unit decides the answer. -/
inductive Gated (position : Nat) (cursor : Cursor) (accessor : Accessor) : Prop
  | closed : accessor.admits cursor = false →
    (∀ store, accessor.ask position cursor store = .ok accessor.noResult) →
    Gated position cursor accessor
  | opened (id : UnitId) (answer : TranslationUnit → Except CursorError accessor.Answer) :
    accessor.admits cursor = true → cursor.unit? = some id →
    (∀ store, accessor.ask position cursor store = (store.resolve id).bind answer) →
    (∀ store unit fault, store.resolve id = .ok unit →
      (answer unit = .error fault ↔ Fails position cursor store accessor fault)) →
    Gated position cursor accessor

variable {position : Nat} {cursor : Cursor} {store : Store} {accessor : Accessor}
  {fault : CursorError}

theorem Fails.mayFail (h : Fails position cursor store accessor fault) :
    accessor.mayFail cursor = true := by
  cases h with
  | beyond h => cases h <;> rfl
  | endless _ _ h => cases h <;> rfl

theorem Gated.ofMap (id : UnitId) (answer : TranslationUnit → accessor.Answer)
    (hl : accessor.admits cursor = true) (hc : cursor.unit? = some id)
    (hp : accessor.mayFail cursor = false)
    (ha : ∀ store, accessor.ask position cursor store = (store.resolve id).map answer) :
    Gated position cursor accessor := by
  refine .opened id (fun unit => .ok (answer unit)) hl hc (fun store => ?_) ?_
  · rw [ha]
    cases store.resolve id <;> rfl
  · intro store unit fault _
    refine ⟨nofun, fun hf => ?_⟩
    rw [hf.mayFail] at hp
    cases hp

theorem fails_spelling_iff {id : UnitId} {unit : TranslationUnit} (hc : cursor.unit? = some id)
    (hlive : store.resolve id = .ok unit) :
    Fails position cursor store spelling fault ↔ cursor.spelling store = .error fault := by
  rw [Cursor.spelling_eq_error_iff hc hlive]
  constructor
  · rintro (⟨⟨⟩⟩ | ⟨hc', hlive', he⟩)
    obtain rfl := Option.some.inj (hc.symm.trans hc')
    obtain rfl := Except.ok.inj (hlive.symm.trans hlive')
    exact ⟨rfl, he⟩
  · rintro ⟨rfl, he⟩
    exact .endless hc hlive he

/-- The texts of arguments and of expressions may be endless. -/
theorem Gated.ofText (id : UnitId) (answer : TranslationUnit → Except CursorError (Option String))
    (hl : spelling.admits cursor = true) (hc : cursor.unit? = some id)
    (ha : ∀ store, cursor.spelling store = (store.resolve id).bind answer) :
    Gated position cursor spelling := by
  refine .opened id answer hl hc ha fun store unit fault hlive => ?_
  rw [fails_spelling_iff hc hlive, ha, hlive]
  rfl

theorem gated_null (position : Nat) (accessor : Accessor) : Gated position .null accessor := by
  cases accessor <;> exact .closed rfl fun _ => rfl

theorem gated_base (position : Nat) (unit : UnitId) (id : BaseId) (accessor : Accessor) :
    Gated position (.base unit id) accessor := by
  cases accessor with
  | isVirtualBase | accessSpecifier | semanticParent | spelling =>
    exact .ofMap unit _ rfl rfl rfl fun _ => rfl
  | _ => exact .closed rfl fun _ => rfl

theorem gated_expr (position : Nat) (kind : CursorKind) (unit : UnitId) (id : ExprId)
    (parent : ParentLink) (accessor : Accessor) :
    Gated position (.expr kind unit id parent) accessor := by
  cases accessor with
  | semanticParent => exact .ofMap unit _ rfl rfl rfl fun _ => rfl
  | spelling => exact .ofText unit _ rfl rfl fun _ => rfl
  | specializedTemplate | numTemplateArguments | templateArgument =>
    -- whatever the recorded kind is, only a declaration has an answer
    exact .closed rfl fun _ => ite_self _
  | _ => exact .closed rfl fun _ => rfl

theorem gated_argument (position : Nat) (unit : UnitId) (owner : DeclId) (index : Nat)
    (kind : ArgumentKind) (accessor : Accessor) :
    Gated position (.argument unit owner index kind) accessor := by
  cases accessor with
  | semanticParent => exact .ofMap unit _ rfl rfl rfl fun _ => rfl
  | spelling => exact .ofText unit _ rfl rfl fun _ => rfl
  | asType | asIntegral | asDeclaration | asTemplate | asExpression | packSize =>
    -- each of these takes one kind of argument, but for templates, of which there are two
    cases kind <;> first
      | exact .closed rfl fun _ => rfl
      | exact .ofMap unit _ rfl rfl rfl fun _ => rfl
  | _ => exact .closed rfl fun _ => rfl

theorem fails_argument_iff : Fails position cursor store templateArgument fault ↔
    ∃ count, cursor.numTemplateArguments store = .ok (some count) ∧ count ≤ position ∧
      fault = .argumentOutOfRange position count := by
  constructor
  · rintro ⟨⟨hn, hp⟩ | _⟩
    exact ⟨_, hn, hp, rfl⟩
  · rintro ⟨count, hn, hp, rfl⟩
    exact .beyond (.argument hn hp)

theorem fails_parameter_iff : Fails position cursor store templateParameter fault ↔
    ∃ count, cursor.numTemplateParameters store = .ok (some count) ∧ count ≤ position ∧
      fault = .parameterOutOfRange position count := by
  constructor
  · rintro ⟨_ | ⟨hn, hp⟩⟩
    exact ⟨_, hn, hp, rfl⟩
  · rintro ⟨count, hn, hp, rfl⟩
    exact .beyond (.parameter hn hp)

/-- The lookup that the accessors of template arguments and of template parameters share. -/
def entry {α : Type} (items : Option (List α)) (position : Nat) (found : α → Option Cursor)
    (overrun : Nat → CursorError) : Except CursorError (Option Cursor) :=
  match items with
  | none => .ok none
  | some items =>
    match items[position]? with
    | some item => .ok (found item)
    | none => .error (overrun items.length)

theorem entry_eq_error_iff {α : Type} {items : Option (List α)} {found : α → Option Cursor}
    {overrun : Nat → CursorError} : entry items position found overrun = .error fault ↔
      ∃ count, items.map List.length = some count ∧ count ≤ position ∧ fault = overrun count := by
  cases items with
  | none => simp [entry]
  | some items =>
    by_cases hp : position < items.length
    · simp [entry, hp, Nat.not_le.mpr hp]
    · have hl : items.length ≤ position := Nat.le_of_not_lt hp
      simp [entry, hl, eq_comm]

theorem templateArgument_eq_entry {kind : CursorKind} (hk : kind.isDeclaration = true)
    (unit : UnitId) (id : DeclId) (position : Nat) (store : Store) :
    (Cursor.decl kind unit id).templateArgument store position =
      (store.resolve unit).bind fun u => entry ((u.decl? id).bind Decl.args?) position
        (fun arg => some (.argument u.id id position arg.kind)) (.argumentOutOfRange position) := by
  rw [Cursor.templateArgument, Cursor.kind, if_pos hk]
  congr 1
  funext u
  cases (u.decl? id).bind Decl.args? with
  | none => rfl
  | some args =>
    simp only [entry]
    cases args[position]? <;> rfl

theorem templateParameter_eq_entry {kind : CursorKind} (hk : kind.ownsParameters = true)
    (unit : UnitId) (id : DeclId) (position : Nat) (store : Store) :
    (Cursor.decl kind unit id).templateParameter store position =
      (store.resolve unit).bind fun u => entry ((u.decl? id).bind Decl.params?) position
        (Cursor.ofDecl? u) (.parameterOutOfRange position) := by
  rw [Cursor.templateParameter, if_pos hk]
  congr 1
  funext u
  cases (u.decl? id).bind Decl.params? with
  | none => rfl
  | some params =>
    simp only [entry]
    cases params[position]? <;> rfl

theorem gated_templateArgument (position : Nat) {kind : CursorKind} (unit : UnitId)
    (id : DeclId) (hk : kind.isDeclaration = true) :
    Gated position (.decl kind unit id) templateArgument := by
  refine .opened unit _ (by rw [admits, Cursor.kind, hk]; rfl) rfl
    (templateArgument_eq_entry hk unit id position) fun store u fault hu => ?_
  rw [fails_argument_iff, entry_eq_error_iff]
  simp only [Cursor.numTemplateArguments, Cursor.kind, hk, if_true, hu, Except.map,
    Except.ok.injEq]

theorem gated_templateParameter (position : Nat) {kind : CursorKind} (unit : UnitId)
    (id : DeclId) (hk : kind.ownsParameters = true)
    (hl : templateParameter.admits (.decl kind unit id) = true) :
    Gated position (.decl kind unit id) templateParameter := by
  refine .opened unit _ hl rfl (templateParameter_eq_entry hk unit id position)
    fun store u fault hu => ?_
  rw [fails_parameter_iff, entry_eq_error_iff]
  simp only [Cursor.numTemplateParameters, hk, if_true, hu, Except.map, Except.ok.injEq]

theorem gated_decl (position : Nat) (kind : CursorKind) (unit : UnitId) (id : DeclId)
    (accessor : Accessor) : Gated position (.decl kind unit id) accessor := by
  cases accessor with
  | semanticParent | spelling | classify | baseCursors =>
    exact .ofMap unit _ rfl rfl rfl fun _ => rfl
  | templateArgument =>
    cases kind <;> first
      | exact .closed rfl fun _ => rfl
      | exact gated_templateArgument position unit id rfl
  | specializedTemplate | numTemplateArguments | accessSpecifier | templateCursorKind
  | numTemplateParameters =>
    cases kind <;> first
      | exact .closed rfl fun _ => rfl
      | exact .ofMap unit _ rfl rfl rfl fun _ => rfl
  | templateParameter =>
    cases kind <;> first
      | exact .closed rfl fun _ => rfl
      | exact gated_templateParameter position unit id rfl rfl
  | _ => exact .closed rfl fun _ => rfl

theorem gated (position : Nat) (cursor : Cursor) (accessor : Accessor) :
    Gated position cursor accessor := by
  cases cursor with
  | null => exact gated_null position accessor
  | decl kind unit id => exact gated_decl position kind unit id accessor
  | base unit id => exact gated_base position unit id accessor
  | argument unit owner index kind => exact gated_argument position unit owner index kind accessor
  | expr kind unit id parent => exact gated_expr position kind unit id parent accessor

end Accessor

/-- A cursor that a unit or a store gives. -/
def Cursor.Obtained (cursor : Cursor) : Prop :=
  ∃ (store : Store) (question : Question), cursor ∈ question.answer store

theorem Cursor.Obtained.isDeclaration {cursor : Cursor} (h : cursor.Obtained)
    (hd : cursor.decl?.isSome = true) : cursor.kind.isDeclaration = true := by
  obtain ⟨store, question, hm⟩ := h
  cases cursor with
  | decl kind id decl =>
    have hinto : ∃ unit, (Cursor.decl kind id decl).Into unit := by
      rcases Question.answer_cases hm nofun with ⟨_, unit, _, hi, _⟩ | ⟨unit, _, hi, _⟩
      · exact ⟨unit, hi⟩
      · exact ⟨unit, hi⟩
    obtain ⟨unit, _, made, _, rfl⟩ := hinto
    exact CursorKind.isDeclaration_ofDecl made
  | _ => cases hd

namespace Accessor

theorem admits_eq_legal {cursor : Cursor} (h : cursor.Obtained) (accessor : Accessor) :
    accessor.admits cursor = accessor.legal cursor := by
  unfold admits
  cases hc : accessor.checksKind with
  | false => simp
  | true =>
    have hl : accessor.legal cursor = cursor.decl?.isSome := by
      cases accessor <;> first | rfl | cases hc
    rw [hl]
    cases hd : cursor.decl?.isSome with
    | false => rfl
    | true => rw [h.isDeclaration hd]; rfl

/-- On a cursor that it is not for an accessor has its fixed answer, whatever the store. On any
other, a disposed unit is an error, and with a live unit the only errors are of positions
beyond the end of a list and of texts that go through an expression that is an operand of
itself. -/
theorem ask_answers (position : Nat) (cursor : Cursor) (accessor : Accessor)
    (hobtained : cursor.Obtained) :
    (accessor.legal cursor = false →
      ∀ store, accessor.ask position cursor store = .ok accessor.noResult) ∧
    (accessor.legal cursor = true → ∃ id, cursor.unit? = some id ∧ ∀ store : Store,
      (store.isAlive id = false →
        accessor.ask position cursor store = .error (.staleUnit id)) ∧
      (store.isAlive id = true → ∀ fault, accessor.ask position cursor store = .error fault ↔
        Fails position cursor store accessor fault)) := by
  rw [← admits_eq_legal hobtained]
  cases gated position cursor accessor with
  | closed hl ha => exact ⟨fun _ => ha, fun h => absurd (hl.symm.trans h) nofun⟩
  | opened id answer hl hc ha hf =>
    refine ⟨fun h => absurd (h.symm.trans hl) nofun, fun _ => ⟨id, hc, fun store => ?_⟩⟩
    rw [ha]
    cases hu : store.find? id with
    | none =>
      have hr : store.resolve id = .error (.staleUnit id) := by rw [Store.resolve, hu]
      simp [Store.isAlive, hu, hr, Except.bind]
    | some unit =>
      have hr : store.resolve id = .ok unit := by rw [Store.resolve, hu]
      simp [Store.isAlive, hu, hr, Except.bind, hf store unit _ hr]

/-- The second argument of a specialization with one, before and after its unit is disposed. -/
theorem ask_answers_argument :
    let link : ClassSpecialization := .full (.primary ⟨0⟩) [.null]
    let builder : Builder :=
      { name := "a.cpp"
        decls := [{ name := "Box",
                    kind := .record { tag := .structTag, specialization := some link } }] }
    let store := (Store.empty.add builder).2
    let disposed := (store.dispose ⟨0, 0⟩).2
    let cursor : Cursor := .decl .structDecl ⟨0, 0⟩ ⟨0⟩
    store.isAlive ⟨0, 0⟩ = true ∧ disposed.isAlive ⟨0, 0⟩ = false ∧
      legal cursor templateArgument = true ∧ legal cursor packSize = false ∧
      cursor.templateArgument store 1 = .error (.argumentOutOfRange 1 1) ∧
      cursor.templateArgument disposed 1 = .error (.staleUnit ⟨0, 0⟩) ∧
      cursor.packSize disposed = .ok none := by
  intro link builder store disposed cursor
  have halive : store.isAlive ⟨0, 0⟩ = true := by decide
  have hdead : disposed.isAlive ⟨0, 0⟩ = false := by decide
  have hobtained : cursor.Obtained := ⟨store, .declCursor ⟨0, 0⟩ ⟨0⟩, by decide⟩
  obtain ⟨id, hid, h⟩ := (ask_answers 1 cursor templateArgument hobtained).2 rfl
  obtain rfl : ⟨0, 0⟩ = id := Option.some.inj hid
  refine ⟨halive, hdead, rfl, rfl, ((h store).2 halive _).2 ?_, (h disposed).1 hdead,
    (ask_answers 1 cursor packSize hobtained).1 rfl disposed⟩
  exact .beyond (.argument rfl (Nat.le_refl 1))

end Accessor

end CppIntrospect
