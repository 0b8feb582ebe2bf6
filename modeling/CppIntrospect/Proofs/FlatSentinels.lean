import CppIntrospect.Proofs.ArgumentPayload
import CppIntrospect.Proofs.UnitLocality

/-! What the flat surface loses. A sentinel stands for no answer and for a disposed unit alike,
and it is never the answer itself: no typed accessor answers with the null cursor or the
invalid type. Only the value of an argument has no sentinel of its own. What a sentinel does not
tell the record does: there is a warning exactly where the typed accessor fails. -/

namespace CppIntrospect

/-- A plain answer that tells all but why there is none. -/
structure Flattens {α : Type} (sentinel : α) (typed : Except CursorError (Option α)) (flat : α) :
    Prop where
  proper : typed ≠ .ok (some sentinel)
  sentinel_iff : flat = sentinel ↔ typed = .ok none ∨ ∃ fault, typed = .error fault
  value : ∀ answer, typed = .ok (some answer) → flat = answer

/-- The typed accessor that a flat one is made from. The kind of an argument is read off its
cursor, so nothing stands behind it. -/
def FlatAccessor.typed? : FlatAccessor → Option Accessor
  | isVirtualBase => some .isVirtualBase
  | accessSpecifier => some .accessSpecifier
  | templateCursorKind => some .templateCursorKind
  | specializedTemplate => some .specializedTemplate
  | semanticParent => some .semanticParent
  | numTemplateArguments => some .numTemplateArguments
  | templateArgument => some .templateArgument
  | numTemplateParameters => some .numTemplateParameters
  | templateParameter => some .templateParameter
  | argumentKind => none
  | argumentType => some .asType
  | argumentValue => some .asIntegral
  | argumentDeclaration => some .asDeclaration
  | argumentTemplate => some .asTemplate
  | argumentExpression => some .asExpression

/-- The warnings about a disposed unit. -/
def staleWarnings {α : Type} (accessor : Accessor) : Except CursorError α → List Event
  | .error (.staleUnit id) => [.staleQuery accessor (.staleUnit id)]
  | _ => []

/-- The position is not beyond the end of the list, or there is no list. -/
def InRange (accessor : Accessor) (position : Nat) (cursor : Cursor) (store : Store) : Prop :=
  ∀ fault, ¬ accessor.BeyondList position cursor store fault

/-- The stored value of an argument that an integral argument cursor is at. -/
def StoredValue (cursor : Cursor) (store : Store) (value : Int) : Prop :=
  ∃ id owner position unit type, cursor = .argument id owner position .integral ∧
    store.unit id = .ok unit ∧ unit.argument? owner position = some (.integral value type)

open Cursor.Flat

variable {position : Nat} {cursor : Cursor} {store : Store} {accessor : Accessor}

section Flatten

variable {α : Type} {sentinel : α}

theorem flattens_flattenSome {typed : Except CursorError (Option α)}
    (h : typed ≠ .ok (some sentinel)) :
    Flattens sentinel typed (flattenSome accessor cursor sentinel typed).answer := by
  refine ⟨h, ?_, ?_⟩
  · match typed with
    | .error fault => simp [flattenSome, flatten, Recorded.map]
    | .ok none => simp [flattenSome, flatten, Recorded.map]
    | .ok (some answer) =>
      have hne : answer ≠ sentinel := fun heq => h (by rw [heq])
      simp [flattenSome, flatten, Recorded.map, hne]
  · rintro answer rfl
    rfl

theorem warnings_ofQuery (accessor : Accessor) (cursor : Cursor) :
    (Log.ofQuery accessor cursor).filter (·.level = .warn) = [] := by
  cases accessor <;> simp only [Log.ofQuery, List.filter_nil] <;> split <;> rfl

theorem warnings_flatten {typed : Except CursorError α}
    (hs : ∀ fault, typed = .error fault → ∃ id, fault = .staleUnit id) :
    (flatten accessor cursor sentinel typed).warnings = staleWarnings accessor typed := by
  match typed with
  | .ok answer => exact warnings_ofQuery accessor cursor
  | .error fault =>
    obtain ⟨id, rfl⟩ := hs fault rfl
    rw [Recorded.warnings, flatten, List.filter_append, warnings_ofQuery]
    rfl

-- The sentinel for no answer is put in after the question has been recorded.
theorem warnings_flattenSome {typed : Except CursorError (Option α)}
    (hs : ∀ fault, typed = .error fault → ∃ id, fault = .staleUnit id) :
    (flattenSome accessor cursor sentinel typed).warnings = staleWarnings accessor typed :=
  warnings_flatten hs

theorem warnings_flattenAt (typed : Except CursorError (Option Cursor)) :
    (flattenAt accessor cursor typed).warnings = staleWarnings accessor typed := by
  match typed with
  | .ok answer => exact warnings_ofQuery accessor cursor
  | .error (.staleUnit id) =>
    exact @warnings_flattenSome cursor accessor _ Cursor.null (.error (.staleUnit id))
      fun _ h => ⟨id, (Except.error.inj h).symm⟩
  | .error (.argumentOutOfRange _ _) => exact warnings_ofQuery accessor cursor
  | .error (.parameterOutOfRange _ _) => exact warnings_ofQuery accessor cursor
  | .error .endlessText => exact warnings_ofQuery accessor cursor

end Flatten

theorem Cursor.Derived.ne_null {answer : Cursor} (h : Cursor.Derived store cursor answer) :
    answer ≠ .null := by
  rintro rfl
  obtain ⟨_, _, _, _, hi⟩ := h
  cases hi.unit?

theorem ne_some_null {typed : Except CursorError (Option Cursor)}
    (h : ∀ answer, typed = .ok (some answer) → Cursor.Derived store cursor answer) :
    typed ≠ .ok (some .null) :=
  fun heq => (h _ heq).ne_null rfl

theorem asType_ne_invalid (cursor : Cursor) (store : Store) :
    cursor.asType store ≠ .ok (some .invalid) := by
  intro h
  unfold Cursor.asType at h
  split at h
  · obtain ⟨unit, _, hf⟩ := Store.resolve_map_eq_ok h
    obtain ⟨type, _, hv⟩ := Option.map_eq_some_iff.mp hf
    cases hv
  · cases h

/-- But for endless texts, an error is of a disposed unit or of a position beyond the end of a
list. -/
theorem Accessor.stale_of_error {fault : CursorError} (ht : accessor ≠ .spelling)
    (h : accessor.ask position cursor store = .error fault)
    (hb : ¬ accessor.BeyondList position cursor store fault) :
    ∃ id, fault = .staleUnit id := by
  cases accessor.gated position cursor with
  | closed _ ha =>
    rw [ha] at h
    cases h
  | opened id answer _ _ ha hf =>
    rw [ha] at h
    cases hr : store.resolve id with
    | ok unit =>
      rw [hr] at h
      cases (hf store unit fault hr).mp h with
      | beyond hbeyond => exact absurd hbeyond hb
      | endless => exact absurd rfl ht
    | error other =>
      rw [hr] at h
      cases h
      unfold Store.resolve at hr
      split at hr
      · cases hr
      · cases hr
        exact ⟨id, rfl⟩

theorem flattens_flattenAt {typed : Except CursorError (Option Cursor)}
    (h : ∀ answer, typed = .ok (some answer) → Cursor.Derived store cursor answer)
    (hs : ∀ fault, typed = .error fault → ∃ id, fault = .staleUnit id) :
    ∃ shown, (flattenAt accessor cursor typed).answer = .ok shown ∧
      Flattens .null typed shown := by
  have hf := @flattens_flattenSome cursor accessor _ _ _ (ne_some_null h)
  refine ⟨_, ?_, hf⟩
  match typed with
  | .ok answer => rfl
  | .error fault =>
    obtain ⟨id, rfl⟩ := hs fault rfl
    rfl

namespace FlatAccessor

variable {flat : FlatAccessor}

theorem typed?_ne_spelling (ht : flat.typed? = some accessor) : accessor ≠ .spelling := by
  rintro rfl
  cases flat <;> cases ht

/-- What every flat accessor records of a disposed unit. -/
theorem warnings_ask (ht : flat.typed? = some accessor) :
    (flat.ask position cursor store).warnings =
      staleWarnings accessor (accessor.ask position cursor store) := by
  have hs (fault : CursorError) (hf : accessor.ask position cursor store = .error fault) :=
    Accessor.stale_of_error (typed?_ne_spelling ht) hf
  cases flat with
  | isVirtualBase | accessSpecifier | templateCursorKind =>
    cases ht
    exact warnings_flatten fun fault hf => hs fault hf nofun
  | templateArgument | templateParameter =>
    cases ht
    exact warnings_flattenAt _
  | argumentKind => cases ht
  | _ =>
    cases ht
    exact warnings_flattenSome fun fault hf => hs fault hf nofun

theorem warnings_of_stale (ht : flat.typed? = some accessor) {fault : CursorError}
    (h : accessor.ask position cursor store = .error fault)
    (hb : ¬ accessor.BeyondList position cursor store fault) :
    (flat.ask position cursor store).warnings = [.staleQuery accessor fault] := by
  obtain ⟨id, rfl⟩ := Accessor.stale_of_error (typed?_ne_spelling ht) h hb
  rw [warnings_ask ht, h, staleWarnings]

theorem warnings_of_answer (h : ∀ accessor fault, flat.typed? = some accessor →
    accessor.ask position cursor store = .error fault →
    accessor.BeyondList position cursor store fault) :
    (flat.ask position cursor store).warnings = [] := by
  cases ht : flat.typed? with
  | none =>
    cases flat <;> cases ht
    rfl
  | some accessor =>
    rw [warnings_ask ht]
    match ha : accessor.ask position cursor store with
    | .ok answer => rfl
    | .error fault => cases h accessor fault ht ha <;> rfl

end FlatAccessor

theorem exists_storedValue_iff (value : Int64) :
    cursor.asIntegral store = .ok (some value) ↔
      ∃ stored, StoredValue cursor store stored ∧ Int64.ofInt stored = value := by
  constructor
  · intro h
    unfold Cursor.asIntegral at h
    split at h
    · next id owner index =>
      obtain ⟨unit, hu, hf⟩ := Store.resolve_map_eq_ok h
      obtain ⟨stored, hs, hv⟩ := Option.map_eq_some_iff.mp hf
      obtain ⟨arg, ha, hi⟩ := Option.bind_eq_some_iff.mp hs
      cases arg with
      | integral found type =>
        cases hi
        exact ⟨stored, ⟨id, owner, index, unit, type, rfl, hu, ha⟩, hv⟩
      | _ => cases hi
    · cases h
  · rintro ⟨stored, ⟨id, owner, index, unit, type, rfl, hu, ha⟩, hv⟩
    have hr := Store.resolve_eq_ok_iff.mpr hu
    simp [Cursor.asIntegral, hr, Except.map, ha, TemplateArgument.integral?, hv]

theorem argumentValue_eq_minValue_iff (cursor : Cursor) (store : Store) :
    (argumentValue cursor store).answer = Int64.minValue ↔
      cursor.asIntegral store = .ok none ∨ (∃ fault, cursor.asIntegral store = .error fault) ∨
        ∃ stored, StoredValue cursor store stored ∧ stored ≡ -2 ^ 63 [ZMOD 2 ^ 64] := by
  have hstored : cursor.asIntegral store = .ok (some Int64.minValue) ↔
      ∃ stored, StoredValue cursor store stored ∧ stored ≡ -2 ^ 63 [ZMOD 2 ^ 64] := by
    have hmin : Int64.minValue.toInt = -2 ^ 63 := by decide
    simp only [exists_storedValue_iff, int64_ofInt_eq_iff, hmin, Int.modEq_comm]
  rw [← hstored, argumentValue]
  match cursor.asIntegral store with
  | .error fault => simp [flattenSome, flatten, Recorded.map, notIntegral]
  | .ok none => simp [flattenSome, flatten, Recorded.map, notIntegral]
  | .ok (some value) => simp [flattenSome, flatten, Recorded.map]

/-- A plain answer is the answer of the typed accessor, and the sentinel exactly where there is
none or the accessor fails; only the value of an argument may be its sentinel. A flat accessor
warns exactly where its typed accessor fails, and once. A position beyond the end of a list is
not answered at all. -/
theorem flat_answers_faithful (position : Nat) (cursor : Cursor) (store : Store) :
    Flattens .null (cursor.specializedTemplate store) (specializedTemplate cursor store).answer ∧
    Flattens .null (cursor.semanticParent store) (semanticParent cursor store).answer ∧
    Flattens .null (cursor.asDeclaration store) (argumentDeclaration cursor store).answer ∧
    Flattens .null (cursor.asTemplate store) (argumentTemplate cursor store).answer ∧
    Flattens .null (cursor.asExpression store) (argumentExpression cursor store).answer ∧
    Flattens .invalid (cursor.asType store) (argumentType cursor store).answer ∧
    (InRange .templateArgument position cursor store →
      ∃ shown, (templateArgument cursor store position).answer = .ok shown ∧
        Flattens .null (cursor.templateArgument store position) shown) ∧
    (InRange .templateParameter position cursor store →
      ∃ shown, (templateParameter cursor store position).answer = .ok shown ∧
        Flattens .null (cursor.templateParameter store position) shown) ∧
    ((∀ count, cursor.numTemplateArguments store = .ok (some count) → count < 2 ^ 32 - 1) →
      Flattens (2 ^ 32 - 1) (cursor.numTemplateArguments store)
        (numTemplateArguments cursor store).answer) ∧
    ((∀ count, cursor.numTemplateParameters store = .ok (some count) → count < 2 ^ 32 - 1) →
      Flattens (2 ^ 32 - 1) (cursor.numTemplateParameters store)
        (numTemplateParameters cursor store).answer) ∧
    ((argumentValue cursor store).answer = Int64.minValue ↔
      cursor.asIntegral store = .ok none ∨ (∃ fault, cursor.asIntegral store = .error fault) ∨
        ∃ stored, StoredValue cursor store stored ∧ stored ≡ -2 ^ 63 [ZMOD 2 ^ 64]) ∧
    (∀ value, cursor.asIntegral store = .ok (some value) →
      (argumentValue cursor store).answer = value) ∧
    (∀ (flat : FlatAccessor) accessor fault, flat.typed? = some accessor →
      accessor.ask position cursor store = .error fault →
      ¬ accessor.BeyondList position cursor store fault →
      (flat.ask position cursor store).warnings = [.staleQuery accessor fault]) ∧
    ∀ flat : FlatAccessor, (∀ accessor fault, flat.typed? = some accessor →
        accessor.ask position cursor store = .error fault →
        accessor.BeyondList position cursor store fault) →
      (flat.ask position cursor store).warnings = [] := by
  have hcount : ∀ typed : Except CursorError (Option Nat),
      (∀ count, typed = .ok (some count) → count < 2 ^ 32 - 1) →
      typed ≠ .ok (some (2 ^ 32 - 1)) :=
    fun typed h heq => Nat.lt_irrefl _ (h _ heq)
  refine ⟨?_, ?_, ?_, ?_, ?_, ?_, ?_, ?_, ?_, ?_, ?_, ?_, ?_, ?_⟩
  · exact flattens_flattenSome (ne_some_null fun _ => Cursor.specializedTemplate_derived)
  · exact flattens_flattenSome (ne_some_null fun _ => Cursor.semanticParent_derived)
  · exact flattens_flattenSome (ne_some_null fun _ => Cursor.asDeclaration_derived)
  · exact flattens_flattenSome (ne_some_null fun _ => Cursor.asTemplate_derived)
  · exact flattens_flattenSome (ne_some_null fun _ => Cursor.asExpression_derived)
  · exact flattens_flattenSome (asType_ne_invalid cursor store)
  · intro hr
    refine flattens_flattenAt (fun _ => Cursor.templateArgument_derived) fun fault hf => ?_
    exact @Accessor.stale_of_error position cursor store .templateArgument fault nofun hf
      (hr fault)
  · intro hr
    refine flattens_flattenAt (fun _ => Cursor.templateParameter_derived) fun fault hf => ?_
    exact @Accessor.stale_of_error position cursor store .templateParameter fault nofun hf
      (hr fault)
  · exact fun h => flattens_flattenSome (hcount _ h)
  · exact fun h => flattens_flattenSome (hcount _ h)
  · exact argumentValue_eq_minValue_iff cursor store
  · intro value h
    rw [argumentValue, h]
    rfl
  · exact fun flat accessor fault ht h hb => FlatAccessor.warnings_of_stale ht h hb
  · exact fun flat h => FlatAccessor.warnings_of_answer h

/-- The stored value is beyond 64 bits, and reads as the sentinel although there is a value. Once
the unit is disposed there is none, which the warning tells. -/
theorem flat_answers_faithful_wide :
    let link : ClassSpecialization := .full (.primary ⟨0⟩) [.integral (2 ^ 63) ⟨0⟩]
    let builder : Builder :=
      { name := "a.cpp", types := [.builtin .bool]
        decls := [{ name := "Box",
                    kind := .record { tag := .structTag, specialization := some link } }] }
    let store := (Store.empty.add builder).2
    let disposed := (store.dispose ⟨0, 0⟩).2
    let cursor : Cursor := .argument ⟨0, 0⟩ ⟨0⟩ 0 .integral
    let owner : Cursor := .decl .structDecl ⟨0, 0⟩ ⟨0⟩
    (templateArgument owner store 0).answer = .ok cursor ∧
      cursor.asIntegral store = .ok (some Int64.minValue) ∧
      (argumentValue cursor store).answer = Int64.minValue ∧
      (argumentValue cursor disposed).answer = Int64.minValue ∧
      (argumentValue cursor store).warnings = [] ∧
      (argumentValue cursor disposed).warnings =
        [.staleQuery .asIntegral (.staleUnit ⟨0, 0⟩)] := by
  intro link builder store disposed cursor owner
  obtain ⟨-, -, -, -, -, -, hargument, -⟩ := flat_answers_faithful 0 owner store
  obtain ⟨-, -, -, -, -, -, -, -, -, -, hmin, hvalue, -, hsilent⟩ :=
    flat_answers_faithful 0 cursor store
  obtain ⟨-, -, -, -, -, -, -, -, -, -, hgone, -, hwarned, -⟩ :=
    flat_answers_faithful 0 cursor disposed
  have hstale : cursor.asIntegral disposed = .error (.staleUnit ⟨0, 0⟩) := rfl
  have hread : cursor.asIntegral store = .ok (some Int64.minValue) := rfl
  have hin : InRange .templateArgument 0 owner store := by
    rintro fault hb
    obtain ⟨count, hn, hle, -⟩ := Accessor.fails_argument_iff.mp (.beyond hb)
    have hone : owner.numTemplateArguments store = .ok (some 1) := rfl
    cases hone.symm.trans hn
    cases hle
  obtain ⟨shown, hshown, hflat⟩ := hargument hin
  obtain rfl : shown = cursor := hflat.value cursor rfl
  refine ⟨hshown, hread, hvalue _ hread, hgone.mpr (.inr (.inl ⟨_, hstale⟩)), ?_, ?_⟩
  · refine hsilent .argumentValue fun accessor fault ht hf => ?_
    obtain rfl := Option.some.inj ht
    cases hread.symm.trans hf
  · exact hwarned .argumentValue _ _ rfl hstale nofun

end CppIntrospect
