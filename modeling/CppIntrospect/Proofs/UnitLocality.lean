import CppIntrospect.Cursor.Flat
import CppIntrospect.Proofs.AccessorGate

/-! The answers about a cursor hang on its own unit alone. Stores that agree on one unit answer
alike about all cursors into it, whatever else they hold. A unit that stays alive is the same
unit throughout, so nothing that happens to others changes what is said about it. -/

namespace CppIntrospect

/-- The questions of the flat surface. -/
inductive FlatAccessor where
  | isVirtualBase
  | accessSpecifier
  | templateCursorKind
  | specializedTemplate
  | semanticParent
  | numTemplateArguments
  | templateArgument
  | numTemplateParameters
  | templateParameter
  | argumentKind
  | argumentType
  | argumentValue
  | argumentDeclaration
  | argumentTemplate
  | argumentExpression
  deriving DecidableEq, Repr

namespace FlatAccessor

abbrev Answer : FlatAccessor → Type
  | isVirtualBase => Bool
  | accessSpecifier => Access
  | templateCursorKind => CursorKind
  | numTemplateArguments | numTemplateParameters => Nat
  | templateArgument | templateParameter => Except CursorError Cursor
  | argumentKind => ArgumentKind
  | argumentType => TypeHandle
  | argumentValue => Int64
  | specializedTemplate | semanticParent | argumentDeclaration | argumentTemplate
  | argumentExpression => Cursor

def ask (position : Nat) (cursor : Cursor) (store : Store) :
    (accessor : FlatAccessor) → Recorded accessor.Answer
  | isVirtualBase => Cursor.Flat.isVirtualBase cursor store
  | accessSpecifier => Cursor.Flat.accessSpecifier cursor store
  | templateCursorKind => Cursor.Flat.templateCursorKind cursor store
  | specializedTemplate => Cursor.Flat.specializedTemplate cursor store
  | semanticParent => Cursor.Flat.semanticParent cursor store
  | numTemplateArguments => Cursor.Flat.numTemplateArguments cursor store
  | templateArgument => Cursor.Flat.templateArgument cursor store position
  | numTemplateParameters => Cursor.Flat.numTemplateParameters cursor store
  | templateParameter => Cursor.Flat.templateParameter cursor store position
  | argumentKind => Cursor.Flat.argumentKind cursor
  | argumentType => Cursor.Flat.argumentType cursor store
  | argumentValue => Cursor.Flat.argumentValue cursor store
  | argumentDeclaration => Cursor.Flat.argumentDeclaration cursor store
  | argumentTemplate => Cursor.Flat.argumentTemplate cursor store
  | argumentExpression => Cursor.Flat.argumentExpression cursor store

end FlatAccessor

/-- Nothing that can be asked about a cursor, or about its unit by id, tells two stores apart. -/
structure Cursor.SameAnswers (cursor : Cursor) (store other : Store) : Prop where
  typed : ∀ position accessor,
    Accessor.ask position cursor store accessor = Accessor.ask position cursor other accessor
  flat : ∀ position accessor,
    FlatAccessor.ask position cursor store accessor =
      FlatAccessor.ask position cursor other accessor
  spelling : ∀ id type, cursor.unit? = some id →
    (TypeHandle.valid id type).spelling store = (TypeHandle.valid id type).spelling other
  declCursor : ∀ id decl, cursor.unit? = some id →
    store.declCursor id decl = other.declCursor id decl
  baseCursor : ∀ id base, cursor.unit? = some id →
    store.baseCursor id base = other.baseCursor id base

theorem Store.resolve_congr {store other : Store} {id : UnitId}
    (h : store.unit id = other.unit id) : store.resolve id = other.resolve id := by
  have hfind : store.find? id = other.find? id := by
    unfold Store.unit at h
    cases hs : store.find? id <;> cases ho : other.find? id <;> simp_all
  rw [resolve, resolve, hfind]

section Congr

open Cursor.Flat (flatten flattenSome flattenAt)

variable {cursor : Cursor} {store other : Store}
  (h : ∀ id, cursor.unit? = some id → store.resolve id = other.resolve id)
include h

theorem Accessor.ask_congr (position : Nat) (accessor : Accessor) :
    accessor.ask position cursor store = accessor.ask position cursor other := by
  cases accessor.gated position cursor with
  | closed _ ha => rw [ha, ha]
  | opened id answer _ hc ha _ => rw [ha, ha, h id hc]

-- A flat answer is made from the answer of one typed accessor.
theorem FlatAccessor.ask_congr (position : Nat) (accessor : FlatAccessor) :
    accessor.ask position cursor store = accessor.ask position cursor other := by
  have ht := Accessor.ask_congr h position
  cases accessor with
  | isVirtualBase => exact congrArg (flatten _ _ _) (ht .isVirtualBase)
  | accessSpecifier => exact congrArg (flatten _ _ _) (ht .accessSpecifier)
  | templateCursorKind => exact congrArg (flatten _ _ _) (ht .templateCursorKind)
  | specializedTemplate => exact congrArg (flattenSome _ _ _) (ht .specializedTemplate)
  | semanticParent => exact congrArg (flattenSome _ _ _) (ht .semanticParent)
  | numTemplateArguments => exact congrArg (flattenSome _ _ _) (ht .numTemplateArguments)
  | templateArgument => exact congrArg (flattenAt _ _) (ht .templateArgument)
  | numTemplateParameters => exact congrArg (flattenSome _ _ _) (ht .numTemplateParameters)
  | templateParameter => exact congrArg (flattenAt _ _) (ht .templateParameter)
  | argumentKind => rfl
  | argumentType => exact congrArg (flattenSome _ _ _) (ht .asType)
  | argumentValue => exact congrArg (flattenSome _ _ _) (ht .asIntegral)
  | argumentDeclaration => exact congrArg (flattenSome _ _ _) (ht .asDeclaration)
  | argumentTemplate => exact congrArg (flattenSome _ _ _) (ht .asTemplate)
  | argumentExpression => exact congrArg (flattenSome _ _ _) (ht .asExpression)

theorem Cursor.sameAnswers_of_resolve : cursor.SameAnswers store other where
  typed := Accessor.ask_congr h
  flat := FlatAccessor.ask_congr h
  spelling id type hc := by rw [TypeHandle.spelling, TypeHandle.spelling, h id hc]
  declCursor id decl hc := by rw [Store.declCursor, Store.declCursor, h id hc]
  baseCursor id base hc := by rw [Store.baseCursor, Store.baseCursor, h id hc]

end Congr

theorem StoreCall.eq_dispose_of_removed {call : StoreCall} {store : Store} {id : UnitId}
    (h : (call.perform store).1 = .removed id) : call = .dispose id := by
  cases call with
  | add builder =>
    simp only [perform] at h
    split at h <;> cases h
  | dispose gone =>
    simp only [perform] at h
    split at h <;> cases h
    rfl

/-- One call: a live unit is lost only when it is disposed itself. -/
theorem StoreCall.find?_perform {call : StoreCall} {store : Store} {id : UnitId}
    {unit : TranslationUnit} (hu : store.find? id = some unit) (hne : call ≠ .dispose id) :
    (call.perform store).2.find? id = some unit := by
  obtain ⟨hg, hs⟩ := Store.find?_eq_some_iff.mp hu
  have hslot : (call.perform store).2.slotAt id.slot = store.slotAt id.slot := by
    rcases call.perform_cases store with ⟨_, hall⟩ | ⟨builder, made, _, _, hall⟩ |
      ⟨gone, held, he, hf, hall⟩
    · exact hall id.slot
    · rw [hall, if_neg]
      intro heq
      rw [heq, Store.slotAt_nextId_unit] at hs
      cases hs
    · rw [hall, if_neg]
      intro heq
      have hgone := (Store.find?_eq_some_iff.mp hf).1
      rw [← heq, hg] at hgone
      have hid : gone = id := by
        cases gone
        cases id
        simp_all
      exact hne (hid ▸ eq_dispose_of_removed he)
  rw [Store.find?_eq_some_iff, hslot]
  exact ⟨hg, hs⟩

namespace StoreRun

variable {run : StoreRun} {id : UnitId} {unit : TranslationUnit}

theorem find?_foldl_next {calls : List StoreCall} (hu : run.store.find? id = some unit)
    (hne : .dispose id ∉ calls) : (calls.foldl next run).store.find? id = some unit := by
  induction calls generalizing run with
  | nil => exact hu
  | cons call calls ih =>
    have hfirst : call ≠ .dispose id := fun he => hne (he ▸ List.mem_cons_self)
    have hstep : (run.next call).store.find? id = some unit := call.find?_perform hu hfirst
    exact ih hstep fun hm => hne (List.mem_cons_of_mem _ hm)

theorem Issued.foldl_next (h : run.Issued unit) (calls : List StoreCall) :
    (calls.foldl StoreRun.next run).Issued unit := by
  induction calls generalizing run with
  | nil => exact h
  | cons call calls ih => exact ih (h.next call)

/-- As long as no id comes round again, an id that is alive at two moments names one unit. -/
theorem unit_eq_of_alive {calls more : List StoreCall}
    (hb : ∀ slot, removals slot (of (calls ++ more)).history < 2 ^ 32)
    (hs : (of calls).store.isAlive id = true) (he : (of (calls ++ more)).store.isAlive id = true) :
    (of calls).store.unit id = (of (calls ++ more)).store.unit id := by
  obtain ⟨first, hfirst⟩ := Option.isSome_iff_exists.mp hs
  obtain ⟨last, hlast⟩ := Option.isSome_iff_exists.mp he
  rw [← Store.unit_eq_ok_iff] at hfirst hlast
  have hissued : (of (calls ++ more)).Issued first := by
    rw [of_append]
    exact ((tracks_of calls).issued_of_unit hfirst).foldl_next more
  have hids : first.id = last.id := by
    rw [(tracks_of calls).id_of_unit hfirst, (tracks_of (calls ++ more)).id_of_unit hlast]
  have heq := issued_unique hb hissued ((tracks_of (calls ++ more)).issued_of_unit hlast) hids
  rw [hfirst, hlast, heq]

/-- What can be asked about a cursor hangs on its unit alone. So while ids are not used again,
no registrations and no disposals of other units, however many, change an answer about a cursor
whose unit is alive before and after them; and it is, unless it is disposed itself. -/
theorem answers_follow_unit (cursor : Cursor) :
    (∀ store other : Store,
      (∀ id, cursor.unit? = some id → store.unit id = other.unit id) →
      cursor.SameAnswers store other) ∧
    ∀ (calls more : List StoreCall) (id : UnitId),
      (∀ slot, removals slot (of (calls ++ more)).history < 2 ^ 32) →
      cursor.unit? = some id → (of calls).store.isAlive id = true →
      (.dispose id ∉ more → (of (calls ++ more)).store.isAlive id = true) ∧
      ((of (calls ++ more)).store.isAlive id = true →
        cursor.SameAnswers (of calls).store (of (calls ++ more)).store) := by
  have hlocal : ∀ store other : Store,
      (∀ id, cursor.unit? = some id → store.unit id = other.unit id) →
      cursor.SameAnswers store other :=
    fun store other h => Cursor.sameAnswers_of_resolve fun id hc => Store.resolve_congr (h id hc)
  refine ⟨hlocal, fun calls more id hb hc halive => ⟨fun hne => ?_, fun hend => ?_⟩⟩
  · obtain ⟨unit, hu⟩ := Option.isSome_iff_exists.mp halive
    rw [Store.isAlive, of_append, find?_foldl_next hu hne, Option.isSome_some]
  · apply hlocal
    intro id' hc'
    obtain rfl : id = id' := Option.some.inj (hc.symm.trans hc')
    exact unit_eq_of_alive hb halive hend

/-- A rejected builder, two others and the disposal of one of them, around a unit that stays. -/
theorem answers_follow_unit_beside :
    let point : Builder := { name := "a.cpp", decls := [{ name := "Point", kind := .enumeration }] }
    let other : Builder := { name := "b.cpp" }
    let bad : Builder := { name := "bad.cpp", exprs := [⟨.integerLiteral 1, ⟨7⟩⟩] }
    let calls : List StoreCall := [.add other, .add point]
    let more : List StoreCall := [.add bad, .dispose ⟨0, 0⟩, .add other, .dispose ⟨0, 1⟩]
    let cursor : Cursor := .decl .enumDecl ⟨1, 0⟩ ⟨0⟩
    (∀ slot, removals slot (of (calls ++ more)).history < 2 ^ 32) ∧
      (of calls).store.isAlive ⟨1, 0⟩ = true ∧ .dispose ⟨1, 0⟩ ∉ more ∧
      (of (calls ++ more)).store ≠ (of calls).store ∧
      cursor.SameAnswers (of calls).store (of (calls ++ more)).store := by
  intro point other bad calls more cursor
  have hb : ∀ slot, removals slot (of (calls ++ more)).history < 2 ^ 32 :=
    fun slot => Nat.lt_of_le_of_lt List.countP_le_length (by decide)
  have halive : (of calls).store.isAlive ⟨1, 0⟩ = true := by decide
  have hne : .dispose ⟨1, 0⟩ ∉ more := by decide
  have h := (answers_follow_unit cursor).2 calls more ⟨1, 0⟩ hb rfl halive
  exact ⟨hb, halive, hne, by decide, h.2 (h.1 hne)⟩

end StoreRun

end CppIntrospect
