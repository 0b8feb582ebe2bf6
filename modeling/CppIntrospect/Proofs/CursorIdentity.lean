import CppIntrospect.Proofs.CursorSession

/-! When two cursors are equal. A cursor is compared by what it stores: a unit id, the ids of an
entity, and a kind that was read off the unit when the cursor was made. Since a registered unit
never changes and no unit id is given out twice, this is the same as naming one entity of one
registration, whenever and however the two cursors were made. -/

namespace CppIntrospect

/-- What a cursor names inside its unit. -/
inductive Entity where
  | decl (id : DeclId)
  | base (id : BaseId)
  | argument (owner : DeclId) (position : Nat)
  | expr (id : ExprId) (parent : ParentLink)
  deriving DecidableEq, Repr

namespace Cursor

def entity? : Cursor → Option Entity
  | null => none
  | decl _ _ id => some (.decl id)
  | base _ id => some (.base id)
  | argument _ owner position _ => some (.argument owner position)
  | expr _ _ id parent => some (.expr id parent)

variable {unit : TranslationUnit} {first second : Cursor}

/-- Inside one unit the entity decides the recorded kinds, and so the cursor. -/
theorem Into.eq_of_entity (h : first.Into unit) (h' : second.Into unit)
    (he : first.entity? = second.entity?) : first = second := by
  obtain ⟨hu, hw⟩ := h
  obtain ⟨hu', hw'⟩ := h'
  have hunit : first.unit? = second.unit? := hu.trans hu'.symm
  cases first with
  | null => cases hu
  | decl kind id entity =>
    cases second with
    | decl kind' id' entity' =>
      obtain rfl : id = id' := Option.some.inj hunit
      obtain rfl : entity = entity' := by simpa [entity?] using he
      -- both kinds were read off the one declaration with this id
      obtain ⟨node, hn, rfl⟩ := hw
      obtain ⟨node', hn', rfl⟩ := hw'
      obtain rfl : node = node' := Option.some.inj (hn.symm.trans hn')
      rfl
    | _ => cases he
  | base id entity =>
    cases second with
    | base id' entity' =>
      obtain rfl : id = id' := Option.some.inj hunit
      obtain rfl : entity = entity' := by simpa [entity?] using he
      rfl
    | _ => cases he
  | argument id owner position kind =>
    cases second with
    | argument id' owner' position' kind' =>
      obtain rfl : id = id' := Option.some.inj hunit
      obtain ⟨rfl, rfl⟩ : owner = owner' ∧ position = position' := by simpa [entity?] using he
      obtain ⟨node, args, arg, hn, ha, -, hp, rfl⟩ := hw
      obtain ⟨node', args', arg', hn', ha', -, hp', rfl⟩ := hw'
      obtain rfl : node = node' := Option.some.inj (hn.symm.trans hn')
      obtain rfl : args = args' := Option.some.inj (ha.symm.trans ha')
      obtain rfl : arg = arg' := Option.some.inj (hp.symm.trans hp')
      rfl
    | _ => cases he
  | expr kind id entity parent =>
    cases second with
    | expr kind' id' entity' parent' =>
      obtain rfl : id = id' := Option.some.inj hunit
      obtain ⟨rfl, rfl⟩ : entity = entity' ∧ parent = parent' := by simpa [entity?] using he
      obtain ⟨node, hn, rfl⟩ := hw
      obtain ⟨node', hn', rfl⟩ := hw'
      obtain rfl : node = node' := Option.some.inj (hn.symm.trans hn')
      rfl
    | _ => cases he

end Cursor

namespace Question

def target? : Question → Option UnitId
  | declCursor unit _ => some unit
  | baseCursor unit _ => some unit
  | question => question.source?.bind Cursor.unit?

/-- The unit that a question is put to, wrapped in it or found in the store. -/
def unit? (store : Store) (question : Question) : Option TranslationUnit :=
  question.wrapped?.or (question.target?.bind store.find?)

variable {store : Store} {question : Question} {cursor : Cursor}

theorem unit?_of_source {source : Cursor} (hs : question.source? = some source) :
    question.unit? store = source.unit?.bind store.find? := by
  cases question with
  | declCursor unit id => cases hs
  | baseCursor unit id => cases hs
  | ofDecl unit id => cases hs
  | ofBase unit id => cases hs
  | ofExpr unit id parent => cases hs
  | _ =>
    cases hs
    rfl

/-- Every answer is a cursor into the unit that the question was put to. -/
theorem exists_unit_of_answer (hm : cursor ∈ question.answer store) (hn : cursor ≠ .null) :
    ∃ unit, question.unit? store = some unit ∧ cursor.Into unit := by
  have hsourced : ∀ source, question.source? = some source →
      ∃ unit, question.unit? store = some unit ∧ cursor.Into unit := by
    intro source hs
    rcases answer_cases hm hn with ⟨id, unit, hu, hi, hid⟩ | ⟨_, _, _, hnone⟩
    · refine ⟨unit, ?_, hi⟩
      rw [unit?_of_source hs, hid source hs]
      exact Store.unit_eq_ok_iff.mp hu
    · simp [hs] at hnone
  cases question with
  | declCursor id entity =>
    obtain ⟨unit, hu, rfl⟩ := Store.resolve_map_eq_ok (mem_toList_iff.mp hm)
    exact ⟨unit, Store.unit_eq_ok_iff.mp hu, Cursor.ofDecl_into hn⟩
  | baseCursor id entity =>
    obtain ⟨unit, hu, rfl⟩ := Store.resolve_map_eq_ok (mem_toList_iff.mp hm)
    exact ⟨unit, Store.unit_eq_ok_iff.mp hu, Cursor.ofBase_into hn⟩
  | ofDecl unit entity =>
    obtain rfl := List.mem_singleton.mp hm
    exact ⟨unit, rfl, Cursor.ofDecl_into hn⟩
  | ofBase unit entity =>
    obtain rfl := List.mem_singleton.mp hm
    exact ⟨unit, rfl, Cursor.ofBase_into hn⟩
  | ofExpr unit entity parent =>
    obtain rfl := List.mem_singleton.mp hm
    exact ⟨unit, rfl, Cursor.ofExpr_into hn⟩
  | _ => exact hsourced _ rfl

end Question

namespace StoreRun

/-- The successful add at a place of the record registered the unit. -/
def RegisteredAt (run : StoreRun) (place : Nat) (unit : TranslationUnit) : Prop :=
  ∃ id builder, run.history[place]? = some (.stored id builder) ∧ builder.build id = .ok unit

variable {run later : StoreRun} {place place' : Nat} {unit unit' : TranslationUnit}

theorem Issued.exists_registeredAt (h : run.Issued unit) :
    ∃ place, run.RegisteredAt place unit := by
  obtain ⟨id, builder, hm, hb⟩ := h
  obtain ⟨place, hp⟩ := List.mem_iff_getElem?.mp hm
  exact ⟨place, id, builder, hp, hb⟩

theorem RegisteredAt.mono (h : run.RegisteredAt place unit)
    (hp : run.history <+: later.history) : later.RegisteredAt place unit := by
  obtain ⟨id, builder, hh, hb⟩ := h
  obtain ⟨more, hm⟩ := hp
  refine ⟨id, builder, ?_, hb⟩
  rw [← hm, List.getElem?_append_left (List.getElem?_eq_some_iff.mp hh).1, hh]

theorem RegisteredAt.unit_eq (h : run.RegisteredAt place unit)
    (h' : run.RegisteredAt place unit') : unit = unit' := by
  obtain ⟨id, builder, hh, hb⟩ := h
  obtain ⟨id', builder', hh', hb'⟩ := h'
  obtain ⟨rfl, rfl⟩ := StoreEffect.stored.inj (Option.some.inj (hh.symm.trans hh'))
  exact Except.ok.inj (hb.symm.trans hb')

theorem RegisteredAt.place_eq {calls : List StoreCall}
    (hb : ∀ slot, removals slot (of calls).history < 2 ^ 32)
    (h : (of calls).RegisteredAt place unit) (h' : (of calls).RegisteredAt place' unit')
    (hid : unit.id = unit'.id) : place = place' := by
  obtain ⟨id, builder, hh, hu⟩ := h
  obtain ⟨id', builder', hh', hu'⟩ := h'
  obtain rfl : id = id' := by rw [← Builder.build_id hu, ← Builder.build_id hu', hid]
  obtain ⟨hlt, he⟩ := List.getElem?_eq_some_iff.mp hh
  obtain ⟨hlt', he'⟩ := List.getElem?_eq_some_iff.mp hh'
  -- at two different places the id would have been given out twice
  have hp := List.pairwise_iff_getElem.mp (stored_pairwise calls hb)
  rcases Nat.lt_trichotomy place place' with hl | hl | hl
  · exact absurd (by rw [he']; rfl) (hp place place' hlt hlt' hl id (by rw [he]; rfl))
  · exact hl
  · exact absurd (by rw [he]; rfl) (hp place' place hlt' hlt hl id (by rw [he']; rfl))

end StoreRun

namespace Session

variable {session moment next : Session} {cursor first second : Cursor} {place place' : Nat}

/-- The cursor answered a question that was put, at some moment of the session, to the unit
which the add at `place` registered. -/
inductive Made (session : Session) (place : Nat) (cursor : Cursor) : Prop
  | answered {moment : Session} {question : Question} {unit : TranslationUnit} :
    Reachable moment → Relation.ReflTransGen Step (moment.ask question) session →
    question.unit? moment.run.store = some unit → moment.run.RegisteredAt place unit →
    cursor ∈ question.answer moment.run.store → Made session place cursor

theorem Made.step (h : session.Made place cursor) (hs : Step session next) :
    next.Made place cursor := by
  obtain ⟨hr, hk, hq, hp, ha⟩ := h
  exact .answered hr (hk.tail hs) hq hp ha

theorem Step.history_prefix (h : Step session next) :
    session.run.history <+: next.run.history := by
  cases h with
  | call storeCall => exact List.prefix_append _ _
  | ask question hw => exact List.prefix_refl _

theorem history_prefix (h : Relation.ReflTransGen Step moment session) :
    moment.run.history <+: session.run.history := by
  induction h with
  | refl => exact List.prefix_refl _
  | tail _ hs ih => exact ih.trans hs.history_prefix

theorem produced_subset (h : Relation.ReflTransGen Step moment session) :
    moment.produced ⊆ session.produced := by
  induction h with
  | refl => exact List.Subset.refl _
  | tail _ hs ih =>
    cases hs with
    | call storeCall => exact ih
    | ask question hw => exact fun _ hm => List.mem_append_left _ (ih hm)

theorem Made.exists_produced (h : session.Made place cursor) :
    ∃ question, (question, cursor) ∈ session.produced := by
  obtain ⟨_, hk, _, _, ha⟩ := h
  exact ⟨_, produced_subset hk (List.mem_append_right _ (List.mem_map_of_mem ha))⟩

theorem issued_of_unit? {question : Question} {unit : TranslationUnit} (h : session.Sound)
    (hw : ∀ unit, question.wrapped? = some unit → session.run.Issued unit)
    (hq : question.unit? session.run.store = some unit) : session.run.Issued unit := by
  rcases Option.or_eq_some_iff.mp hq with hq | ⟨_, hq⟩
  · exact hw unit hq
  · obtain ⟨id, _, hf⟩ := Option.bind_eq_some_iff.mp hq
    exact h.tracks.issued_of_unit (Store.unit_eq_ok_iff.mpr hf)

theorem Reachable.exists_made (h : Reachable session) :
    ∀ question cursor, (question, cursor) ∈ session.produced → cursor ≠ .null →
      ∃ place, session.Made place cursor := by
  induction h with
  | refl => simp
  | tail hr hs ih =>
    intro question cursor hm hn
    cases hs with
    | call storeCall =>
      obtain ⟨place, hp⟩ := ih question cursor hm hn
      exact ⟨place, hp.step (.call storeCall)⟩
    | ask asked hw =>
      rcases mem_ask hm with hm | ⟨rfl, ha⟩
      · obtain ⟨place, hp⟩ := ih question cursor hm hn
        exact ⟨place, hp.step (.ask asked hw)⟩
      · obtain ⟨unit, hu, _⟩ := Question.exists_unit_of_answer ha hn
        obtain ⟨place, hp⟩ := (issued_of_unit? (Reachable.sound hr) hw hu).exists_registeredAt
        exact ⟨place, .answered hr .refl hu hp ha⟩

theorem Made.exists_into (h : session.Made place cursor) (hn : cursor ≠ .null) :
    ∃ unit, session.run.RegisteredAt place unit ∧ cursor.Into unit := by
  obtain ⟨_, hk, hq, hp, ha⟩ := h
  obtain ⟨unit, hu, hi⟩ := Question.exists_unit_of_answer ha hn
  obtain rfl := Option.some.inj (hu.symm.trans hq)
  have hh := history_prefix hk
  exact ⟨_, hp.mono hh, hi⟩

/-- Cursors made at any two moments of a session are equal exactly when they name one entity of
one registration. The kinds recorded in them never tell such cursors apart, and cursors of two
registrations, in one slot or not, differ already in the id of the unit. -/
theorem cursors_equal_iff (h : Reachable session)
    (hb : ∀ slot, removals slot session.run.history < 2 ^ 32) :
    (∀ cursor, cursor ≠ .null → ((∃ question, (question, cursor) ∈ session.produced) ↔
      ∃ place, session.Made place cursor)) ∧
    ∀ first second place place', first ≠ .null → second ≠ .null →
      session.Made place first → session.Made place' second →
      (first = second ↔ place = place' ∧ first.entity? = second.entity?) ∧
      (place = place' → first.entity? = second.entity? →
        first.kind = second.kind ∧ first.argumentKind? = second.argumentKind?) ∧
      (first.unit? = second.unit? ↔ place = place') := by
  obtain ⟨calls, hrun⟩ := h.sound.run
  refine ⟨fun cursor hn => ⟨?_, fun ⟨_, hp⟩ => hp.exists_produced⟩, ?_⟩
  · rintro ⟨question, hm⟩
    exact h.exists_made question cursor hm hn
  intro first second place place' hn hn' hm hm'
  obtain ⟨unit, hp, hi⟩ := hm.exists_into hn
  obtain ⟨unit', hp', hi'⟩ := hm'.exists_into hn'
  have hplace : first.unit? = second.unit? → place = place' := by
    intro hu
    have hid : unit.id = unit'.id := by
      rw [hi.unit?, hi'.unit?] at hu
      exact Option.some.inj hu
    rw [hrun] at hb hp hp'
    exact hp.place_eq hb hp' hid
  have hsame : place = place' → unit = unit' := by
    rintro rfl
    exact hp.unit_eq hp'
  have heq : place = place' → first.entity? = second.entity? → first = second := by
    intro hpl he
    obtain rfl := hsame hpl
    exact hi.eq_of_entity hi' he
  refine ⟨⟨?_, fun ⟨hpl, he⟩ => heq hpl he⟩, fun hpl he => ?_, hplace, fun hpl => ?_⟩
  · intro hfs
    exact ⟨hplace (congrArg Cursor.unit? hfs), congrArg Cursor.entity? hfs⟩
  · rw [heq hpl he]
    exact ⟨rfl, rfl⟩
  · rw [hi.unit?, hi'.unit?, hsame hpl]

/-- One declaration of a unit that is disposed and registered again. Both cursors of the new unit
come by different ways and are equal; the old one names the same entity and differs. -/
theorem cursors_equal_iff_reused :
    let link : ClassSpecialization := .full (.primary ⟨0⟩) [.integral 3 ⟨0⟩]
    let builder : Builder :=
      { name := "a.cpp"
        decls := [{ name := "Box",
                    kind := .record { tag := .structTag, specialization := some link } }]
        types := [.builtin .bool] }
    let old : Cursor := .decl .structDecl ⟨0, 0⟩ ⟨0⟩
    let new : Cursor := .decl .structDecl ⟨0, 1⟩ ⟨0⟩
    let parent : Question := .semanticParent (.argument ⟨0, 1⟩ ⟨0⟩ 0 .integral)
    let session := (((((({} : Session).call (.add builder)).ask (.declCursor ⟨0, 0⟩ ⟨0⟩)).call
      (.dispose ⟨0, 0⟩)).call (.add builder)).ask (.declCursor ⟨0, 1⟩ ⟨0⟩)).ask parent
    Reachable session ∧ (∀ slot, removals slot session.run.history < 2 ^ 32) ∧
      session.Made 0 old ∧ session.Made 2 new ∧
      (.declCursor ⟨0, 1⟩ ⟨0⟩, new) ∈ session.produced ∧ (parent, new) ∈ session.produced ∧
      old.entity? = new.entity? ∧ old ≠ new := by
  intro link builder old new parent session
  have hfirst : Reachable (({} : Session).call (.add builder)) := .single (.call _)
  have hask : Step (({} : Session).call (.add builder))
      ((({} : Session).call (.add builder)).ask (.declCursor ⟨0, 0⟩ ⟨0⟩)) :=
    .ask (.declCursor ⟨0, 0⟩ ⟨0⟩) nofun
  have hlater : Relation.ReflTransGen Step
      ((({} : Session).call (.add builder)).ask (.declCursor ⟨0, 0⟩ ⟨0⟩)) session :=
    .tail (.tail (.tail (.tail .refl (.call _)) (.call _)) (.ask (.declCursor ⟨0, 1⟩ ⟨0⟩) nofun))
      (.ask parent nofun)
  have hr : Reachable session := (hfirst.tail hask).trans hlater
  have hb : ∀ slot, removals slot session.run.history < 2 ^ 32 :=
    fun slot => Nat.lt_of_le_of_lt List.countP_le_length (by decide)
  have hold : session.Made 0 old :=
    .answered hfirst hlater rfl ⟨_, _, rfl, rfl⟩ (by decide)
  have hmid : Reachable (((({} : Session).call (.add builder)).ask (.declCursor ⟨0, 0⟩ ⟨0⟩)).call
      (.dispose ⟨0, 0⟩) |>.call (.add builder)) :=
    ((hfirst.tail hask).tail (.call _)).tail (.call _)
  have hnew : session.Made 2 new :=
    .answered hmid (.tail .refl (.ask parent nofun)) rfl ⟨_, _, rfl, rfl⟩ (by decide)
  have heq := ((cursors_equal_iff hr hb).2 old new 0 2 nofun nofun hold hnew).1
  exact ⟨hr, hb, hold, hnew, by decide, by decide, rfl, fun he => absurd (heq.mp he).1 (by decide)⟩

end Session

end CppIntrospect
