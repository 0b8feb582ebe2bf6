import CppIntrospect.Cursor.Accessor
import CppIntrospect.Proofs.StoreHistory
import Mathlib.Logic.Relation

/-! Sessions: calls that change a store, mixed with calls that produce cursors from it. A
cursor is made for one unit that the store has held, and says of its entity what the unit
says. Since ids are not given out twice, it says the same as long as the unit is alive. -/

namespace CppIntrospect

/-- The entity of a cursor exists in a unit, and the recorded kind is the kind of the entity. -/
def Cursor.WellFormed (unit : TranslationUnit) : Cursor → Prop
  | .null => True
  | .decl kind _ id => ∃ decl, unit.decl? id = some decl ∧ kind = .ofDecl decl
  | .base _ id => ∃ base, unit.base? id = some base
  | .argument _ owner position kind => ∃ decl args arg, unit.decl? owner = some decl ∧
    decl.args? = some args ∧ position < args.length ∧ args[position]? = some arg ∧ kind = arg.kind
  | .expr kind _ id _ => ∃ expr, unit.expr? id = some expr ∧ kind = .ofExpr expr

structure Cursor.Into (cursor : Cursor) (unit : TranslationUnit) : Prop where
  unit? : cursor.unit? = some unit.id
  wellFormed : cursor.WellFormed unit

/-- A call that produces cursors. -/
inductive Question where
  | declCursor (unit : UnitId) (id : DeclId)
  | baseCursor (unit : UnitId) (id : BaseId)
  | ofDecl (unit : TranslationUnit) (id : DeclId)
  | ofBase (unit : TranslationUnit) (id : BaseId)
  | ofExpr (unit : TranslationUnit) (id : ExprId) (parent : ParentLink)
  | baseCursors (source : Cursor)
  | specializedTemplate (source : Cursor)
  | semanticParent (source : Cursor)
  | templateArgument (source : Cursor) (position : Nat)
  | templateParameter (source : Cursor) (position : Nat)
  | asDeclaration (source : Cursor)
  | asTemplate (source : Cursor)
  | asExpression (source : Cursor)
  deriving DecidableEq, Repr

namespace Question

/-- The cursor that the answers are derived from. -/
def source? : Question → Option Cursor
  | baseCursors source => some source
  | specializedTemplate source => some source
  | semanticParent source => some source
  | templateArgument source _ => some source
  | templateParameter source _ => some source
  | asDeclaration source => some source
  | asTemplate source => some source
  | asExpression source => some source
  | _ => none

/-- The unit whose entity is wrapped without asking the store. -/
def wrapped? : Question → Option TranslationUnit
  | ofDecl unit _ => some unit
  | ofBase unit _ => some unit
  | ofExpr unit _ _ => some unit
  | _ => none

def cursors : Except CursorError (Option Cursor) → List Cursor
  | .ok cursor => cursor.toList
  | .error _ => []

def answer (store : Store) : Question → List Cursor
  | declCursor unit id => (store.declCursor unit id).toOption.toList
  | baseCursor unit id => (store.baseCursor unit id).toOption.toList
  | ofDecl unit id => [Cursor.ofDecl unit id]
  | ofBase unit id => [Cursor.ofBase unit id]
  | ofExpr unit id parent => [Cursor.ofExpr unit id parent]
  | baseCursors source => (source.baseCursors store).toOption.getD []
  | specializedTemplate source => cursors (source.specializedTemplate store)
  | semanticParent source => cursors (source.semanticParent store)
  | templateArgument source position => cursors (source.templateArgument store position)
  | templateParameter source position => cursors (source.templateParameter store position)
  | asDeclaration source => cursors (source.asDeclaration store)
  | asTemplate source => cursors (source.asTemplate store)
  | asExpression source => cursors (source.asExpression store)

end Question

/-- A unit that has been in the store, disposed or not. -/
def StoreRun.Issued (run : StoreRun) (unit : TranslationUnit) : Prop :=
  ∃ id builder, .stored id builder ∈ run.history ∧ builder.build id = .ok unit

structure Session where
  run : StoreRun := {}
  produced : List (Question × Cursor) := []

namespace Session

def call (session : Session) (call : StoreCall) : Session :=
  { session with run := session.run.next call }

def ask (session : Session) (question : Question) : Session :=
  { session with
    produced := session.produced ++
      (question.answer session.run.store).map fun cursor => (question, cursor) }

/-- Any call may come next. What is wrapped without asking the store belongs to a unit that
the store has handed out. -/
inductive Step : Session → Session → Prop
  | call {session : Session} (storeCall : StoreCall) : Step session (session.call storeCall)
  | ask {session : Session} (question : Question) :
    (∀ unit, question.wrapped? = some unit → session.run.Issued unit) →
    Step session (session.ask question)

abbrev Reachable : Session → Prop := Relation.ReflTransGen Step {}

end Session

theorem Store.resolve_eq_ok_iff {store : Store} {id : UnitId} {unit : TranslationUnit} :
    store.resolve id = .ok unit ↔ store.unit id = .ok unit := by
  unfold resolve Store.unit
  cases store.find? id <;> simp

theorem Store.resolve_bind_eq_ok {α : Type} {store : Store} {id : UnitId} {answer : α}
    {f : TranslationUnit → Except CursorError α} (h : (store.resolve id).bind f = .ok answer) :
    ∃ unit, store.unit id = .ok unit ∧ f unit = .ok answer := by
  cases hr : store.resolve id with
  | error fault => simp [hr, Except.bind] at h
  | ok unit => exact ⟨unit, resolve_eq_ok_iff.mp hr, by simpa [hr, Except.bind] using h⟩

theorem Store.resolve_map_eq_ok {α : Type} {store : Store} {id : UnitId} {answer : α}
    {f : TranslationUnit → α} (h : (store.resolve id).map f = .ok answer) :
    ∃ unit, store.unit id = .ok unit ∧ f unit = answer := by
  have hbind : (store.resolve id).bind (fun unit => .ok (f unit)) = .ok answer := by
    rw [← h]
    cases store.resolve id <;> rfl
  obtain ⟨unit, hu, hf⟩ := resolve_bind_eq_ok hbind
  exact ⟨unit, hu, Except.ok.inj hf⟩

namespace Cursor

variable {store : Store} {unit : TranslationUnit} {source cursor : Cursor}

theorem ofDecl?_into {id : DeclId} (h : ofDecl? unit id = some cursor) : cursor.Into unit := by
  obtain ⟨decl, hd, rfl⟩ := Option.map_eq_some_iff.mp h
  exact ⟨rfl, decl, hd, rfl⟩

theorem ofBase?_into {id : BaseId} (h : ofBase? unit id = some cursor) : cursor.Into unit := by
  obtain ⟨base, hb, rfl⟩ := Option.map_eq_some_iff.mp h
  exact ⟨rfl, base, hb⟩

theorem ofExpr?_into {id : ExprId} {parent : ParentLink}
    (h : ofExpr? unit id parent = some cursor) : cursor.Into unit := by
  obtain ⟨expr, he, rfl⟩ := Option.map_eq_some_iff.mp h
  exact ⟨rfl, expr, he, rfl⟩

theorem argument_into {owner : DeclId} {position : Nat} {args : List TemplateArgument}
    {arg : TemplateArgument} (hd : (unit.decl? owner).bind Decl.args? = some args)
    (ha : args[position]? = some arg) :
    (argument unit.id owner position arg.kind).Into unit := by
  obtain ⟨decl, hd, hargs⟩ := Option.bind_eq_some_iff.mp hd
  have hlt := (List.getElem?_eq_some_iff.mp ha).1
  exact ⟨rfl, decl, args, arg, hd, hargs, hlt, ha, rfl⟩

/-- The null cursor stands for an entity that does not exist; any other answer of a wrapper
is the cursor of the entity. -/
theorem getD_null_into {wrapped : Option Cursor} (h : ∀ c, wrapped = some c → c.Into unit)
    (hn : wrapped.getD null ≠ null) : (wrapped.getD null).Into unit := by
  cases wrapped with
  | none => exact absurd rfl hn
  | some c => exact h c rfl

theorem ofDecl_into {id : DeclId} (hn : ofDecl unit id ≠ null) : (ofDecl unit id).Into unit :=
  getD_null_into (fun _ h => ofDecl?_into h) hn

theorem ofBase_into {id : BaseId} (hn : ofBase unit id ≠ null) : (ofBase unit id).Into unit :=
  getD_null_into (fun _ h => ofBase?_into h) hn

theorem ofExpr_into {id : ExprId} {parent : ParentLink} (hn : ofExpr unit id parent ≠ null) :
    (ofExpr unit id parent).Into unit :=
  getD_null_into (fun _ h => ofExpr?_into h) hn

def Derived (store : Store) (source cursor : Cursor) : Prop :=
  ∃ id unit, source.unit? = some id ∧ store.unit id = .ok unit ∧ cursor.Into unit

theorem derived_of_bind {id : UnitId} {f : TranslationUnit → Except CursorError (Option Cursor)}
    (hs : source.unit? = some id) (h : (store.resolve id).bind f = .ok (some cursor))
    (hf : ∀ unit, f unit = .ok (some cursor) → cursor.Into unit) : Derived store source cursor := by
  obtain ⟨unit, hu, hfu⟩ := Store.resolve_bind_eq_ok h
  exact ⟨id, unit, hs, hu, hf unit hfu⟩

theorem derived_of_map {id : UnitId} {f : TranslationUnit → Option Cursor}
    (hs : source.unit? = some id) (h : (store.resolve id).map f = .ok (some cursor))
    (hf : ∀ unit, f unit = some cursor → cursor.Into unit) : Derived store source cursor := by
  obtain ⟨unit, hu, hfu⟩ := Store.resolve_map_eq_ok h
  exact ⟨id, unit, hs, hu, hf unit hfu⟩

theorem bind_ofDecl?_into {link : Option DeclId} (h : link.bind (ofDecl? unit) = some cursor) :
    cursor.Into unit := by
  obtain ⟨id, _, hd⟩ := Option.bind_eq_some_iff.mp h
  exact ofDecl?_into hd

theorem specializedTemplate_derived (h : source.specializedTemplate store = .ok (some cursor)) :
    Derived store source cursor := by
  unfold specializedTemplate at h
  split at h
  · split at h
    · exact derived_of_map rfl h fun _ => bind_ofDecl?_into
    · simp at h
  · simp at h

theorem semanticParent_derived (h : source.semanticParent store = .ok (some cursor)) :
    Derived store source cursor := by
  cases source with
  | null => simp [semanticParent] at h
  | decl kind id decl => exact derived_of_map rfl h fun _ => bind_ofDecl?_into
  | base id base => exact derived_of_map rfl h fun _ => bind_ofDecl?_into
  | argument id owner position kind => exact derived_of_map rfl h fun _ => ofDecl?_into
  | expr kind id expr parent =>
    refine derived_of_map rfl h fun unit hu => ?_
    cases parent with
    | decl owner => exact ofDecl?_into hu
    | unknown => simp at hu

theorem templateArgument_derived {position : Nat}
    (h : source.templateArgument store position = .ok (some cursor)) :
    Derived store source cursor := by
  unfold templateArgument at h
  split at h
  · split at h
    · next id decl _ =>
      refine derived_of_bind rfl h fun unit hu => ?_
      split at hu
      · simp at hu
      · next args hargs =>
        split at hu
        · next arg harg =>
          obtain rfl : argument unit.id decl position arg.kind = cursor := by simpa using hu
          exact argument_into hargs harg
        · simp at hu
    · simp at h
  · simp at h

theorem templateParameter_derived {position : Nat}
    (h : source.templateParameter store position = .ok (some cursor)) :
    Derived store source cursor := by
  cases source with
  | decl kind id decl =>
    simp only [templateParameter] at h
    split at h
    · refine derived_of_bind rfl h fun unit hu => ?_
      split at hu
      · simp at hu
      · split at hu
        · exact ofDecl?_into (Except.ok.inj hu)
        · simp at hu
    · simp at h
  | _ => simp [templateParameter] at h

theorem asDeclaration_derived (h : source.asDeclaration store = .ok (some cursor)) :
    Derived store source cursor := by
  unfold asDeclaration at h
  split at h
  · exact derived_of_map rfl h fun _ => bind_ofDecl?_into
  · simp at h

theorem asTemplate_derived (h : source.asTemplate store = .ok (some cursor)) :
    Derived store source cursor := by
  cases source with
  | argument id owner position kind =>
    simp only [asTemplate] at h
    split at h
    · exact derived_of_map rfl h fun _ => bind_ofDecl?_into
    · simp at h
  | _ => simp [asTemplate] at h

theorem asExpression_derived (h : source.asExpression store = .ok (some cursor)) :
    Derived store source cursor := by
  unfold asExpression at h
  split at h
  · refine derived_of_map rfl h fun _ hu => ?_
    obtain ⟨id, _, he⟩ := Option.bind_eq_some_iff.mp hu
    exact ofExpr?_into he
  · simp at h

theorem baseCursors_derived {cursors : List Cursor} (h : source.baseCursors store = .ok cursors)
    (hm : cursor ∈ cursors) (hn : cursor ≠ null) : Derived store source cursor := by
  cases source with
  | decl kind id decl =>
    obtain ⟨unit, hu, rfl⟩ := Store.resolve_map_eq_ok h
    obtain ⟨base, _, rfl⟩ := List.mem_map.mp hm
    exact ⟨id, unit, rfl, hu, ofBase_into hn⟩
  | _ =>
    obtain rfl := Except.ok.inj h
    simp at hm

end Cursor

theorem Question.mem_cursors_iff {answer : Except CursorError (Option Cursor)} {cursor : Cursor} :
    cursor ∈ Question.cursors answer ↔ answer = .ok (some cursor) := by
  cases answer with
  | error fault => simp [cursors]
  | ok found => cases found <;> simp [cursors, eq_comm]

theorem Question.mem_toList_iff {answer : Except CursorError Cursor} {cursor : Cursor} :
    cursor ∈ answer.toOption.toList ↔ answer = .ok cursor := by
  cases answer <;> simp [Except.toOption, eq_comm]

/-- Where the answers to a question come from: a live unit, or the unit that is wrapped. -/
theorem Question.answer_cases {store : Store} {question : Question} {cursor : Cursor}
    (hm : cursor ∈ question.answer store) (hn : cursor ≠ .null) :
    (∃ id unit, store.unit id = .ok unit ∧ cursor.Into unit ∧
      ∀ source, question.source? = some source → source.unit? = some id) ∨
    ∃ unit, question.wrapped? = some unit ∧ cursor.Into unit ∧ question.source? = none := by
  have hd : ∀ source, question.source? = some source → Cursor.Derived store source cursor →
      ∃ id unit, store.unit id = .ok unit ∧ cursor.Into unit ∧
        ∀ source, question.source? = some source → source.unit? = some id := by
    rintro source hq ⟨id, unit, hs, hu, hi⟩
    refine ⟨id, unit, hu, hi, fun source' hq' => ?_⟩
    obtain rfl : source = source' := by simpa [hq] using hq'
    exact hs
  cases question with
  | declCursor id decl =>
    obtain ⟨unit, hu, rfl⟩ := Store.resolve_map_eq_ok (mem_toList_iff.mp hm)
    exact .inl ⟨id, unit, hu, Cursor.ofDecl_into hn, by simp [source?]⟩
  | baseCursor id base =>
    obtain ⟨unit, hu, rfl⟩ := Store.resolve_map_eq_ok (mem_toList_iff.mp hm)
    exact .inl ⟨id, unit, hu, Cursor.ofBase_into hn, by simp [source?]⟩
  | ofDecl unit id =>
    obtain rfl := List.mem_singleton.mp hm
    exact .inr ⟨unit, rfl, Cursor.ofDecl_into hn, rfl⟩
  | ofBase unit id =>
    obtain rfl := List.mem_singleton.mp hm
    exact .inr ⟨unit, rfl, Cursor.ofBase_into hn, rfl⟩
  | ofExpr unit id parent =>
    obtain rfl := List.mem_singleton.mp hm
    exact .inr ⟨unit, rfl, Cursor.ofExpr_into hn, rfl⟩
  | baseCursors source =>
    refine .inl (hd source rfl ?_)
    simp only [answer] at hm
    cases hb : source.baseCursors store with
    | error fault => simp [hb, Except.toOption] at hm
    | ok cursors => exact Cursor.baseCursors_derived hb (by simpa [hb, Except.toOption] using hm) hn
  | specializedTemplate source =>
    exact .inl (hd source rfl (Cursor.specializedTemplate_derived (mem_cursors_iff.mp hm)))
  | semanticParent source =>
    exact .inl (hd source rfl (Cursor.semanticParent_derived (mem_cursors_iff.mp hm)))
  | templateArgument source position =>
    exact .inl (hd source rfl (Cursor.templateArgument_derived (mem_cursors_iff.mp hm)))
  | templateParameter source position =>
    exact .inl (hd source rfl (Cursor.templateParameter_derived (mem_cursors_iff.mp hm)))
  | asDeclaration source =>
    exact .inl (hd source rfl (Cursor.asDeclaration_derived (mem_cursors_iff.mp hm)))
  | asTemplate source =>
    exact .inl (hd source rfl (Cursor.asTemplate_derived (mem_cursors_iff.mp hm)))
  | asExpression source =>
    exact .inl (hd source rfl (Cursor.asExpression_derived (mem_cursors_iff.mp hm)))

namespace StoreRun

variable {run : StoreRun} {unit : TranslationUnit}

theorem Issued.next (h : run.Issued unit) (call : StoreCall) : (run.next call).Issued unit := by
  obtain ⟨id, builder, hm, hb⟩ := h
  exact ⟨id, builder, List.mem_append_left _ hm, hb⟩

theorem Tracks.issued_of_unit (h : run.Tracks) {id : UnitId} (hu : run.store.unit id = .ok unit) :
    run.Issued unit := by
  obtain ⟨count, ⟨past, later, stored, builder, hh, _, hb, _, _⟩, _⟩ := h.unit_eq_ok_iff.mp hu
  exact ⟨stored, builder, by simp [hh], hb⟩

theorem issued_unique {calls : List StoreCall}
    (hb : ∀ slot, removals slot (of calls).history < 2 ^ 32) {first second : TranslationUnit}
    (h : (of calls).Issued first) (h' : (of calls).Issued second) (hid : first.id = second.id) :
    first = second := by
  obtain ⟨id, builder, hm, hu⟩ := h
  obtain ⟨id', builder', hm', hu'⟩ := h'
  obtain rfl : id = id' := by rw [← Builder.build_id hu, ← Builder.build_id hu', hid]
  have : Std.Symm fun e e' : StoreEffect =>
      ∀ id, e.storedId? = some id → e'.storedId? ≠ some id :=
    ⟨fun _ _ hne id ho hl => hne id hl ho⟩
  have heq : StoreEffect.stored id builder = .stored id builder' := by
    by_contra hne
    exact (stored_pairwise calls hb).forall hm hm' hne id rfl rfl
  obtain ⟨_, rfl⟩ := StoreEffect.stored.inj heq
  exact Except.ok.inj (hu.symm.trans hu')

end StoreRun

namespace Session

variable {session next : Session}

/-- Every cursor was made for a unit that the store has held, in which it is well formed. -/
structure Sound (session : Session) : Prop where
  run : ∃ calls, session.run = StoreRun.of calls
  into : ∀ question cursor, (question, cursor) ∈ session.produced → cursor ≠ .null →
    ∃ unit, session.run.Issued unit ∧ cursor.Into unit
  source : ∀ question cursor source, (question, cursor) ∈ session.produced → cursor ≠ .null →
    question.source? = some source → cursor.unit? = source.unit?

theorem Sound.tracks (h : session.Sound) : session.run.Tracks := by
  obtain ⟨calls, hr⟩ := h.run
  exact hr ▸ StoreRun.tracks_of calls

theorem Sound.call (h : session.Sound) (storeCall : StoreCall) :
    (session.call storeCall).Sound where
  run := by
    obtain ⟨calls, hr⟩ := h.run
    exact ⟨calls ++ [storeCall], by rw [StoreRun.of_append, ← hr]; rfl⟩
  into question cursor hm hn := by
    obtain ⟨unit, hi, hu⟩ := h.into question cursor hm hn
    exact ⟨unit, hi.next storeCall, hu⟩
  source := h.source

theorem mem_ask {question asked : Question} {cursor : Cursor}
    (hm : (question, cursor) ∈ (session.ask asked).produced) :
    (question, cursor) ∈ session.produced ∨
      question = asked ∧ cursor ∈ question.answer session.run.store := by
  rcases List.mem_append.mp hm with hm | hm
  · exact .inl hm
  · obtain ⟨found, hf, he⟩ := List.mem_map.mp hm
    obtain ⟨rfl, rfl⟩ := Prod.mk.inj he
    exact .inr ⟨rfl, hf⟩

theorem Sound.ask (h : session.Sound) {asked : Question}
    (hw : ∀ unit, asked.wrapped? = some unit → session.run.Issued unit) :
    (session.ask asked).Sound where
  run := h.run
  into question cursor hm hn := by
    rcases mem_ask hm with hm | ⟨rfl, ha⟩
    · exact h.into question cursor hm hn
    · rcases Question.answer_cases ha hn with ⟨id, unit, hu, hi, _⟩ | ⟨unit, hq, hi, _⟩
      · exact ⟨unit, h.tracks.issued_of_unit hu, hi⟩
      · exact ⟨unit, hw unit hq, hi⟩
  source question cursor source hm hn hs := by
    rcases mem_ask hm with hm | ⟨rfl, ha⟩
    · exact h.source question cursor source hm hn hs
    · rcases Question.answer_cases ha hn with ⟨id, unit, hu, hi, hsrc⟩ | ⟨_, _, _, hnone⟩
      · rw [hi.unit?, hsrc source hs, h.tracks.id_of_unit hu]
      · simp [hs] at hnone

theorem Step.sound (hs : Step session next) (h : session.Sound) : next.Sound := by
  cases hs with
  | call storeCall => exact h.call storeCall
  | ask question hw => exact h.ask hw

theorem Reachable.sound (h : Reachable session) : session.Sound := by
  induction h with
  | refl => exact ⟨⟨[], rfl⟩, by simp, by simp⟩
  | tail _ hs ih => exact hs.sound ih

/-- A cursor stays well formed as long as its unit is alive, whatever is added, disposed or
asked in between, and a derived cursor points into the unit of the cursor it comes from. -/
theorem produced_wellFormed (h : Reachable session)
    (hb : ∀ slot, removals slot session.run.history < 2 ^ 32) :
    ∀ question cursor, (question, cursor) ∈ session.produced → cursor ≠ .null →
      (∀ id unit, cursor.unit? = some id → session.run.store.unit id = .ok unit →
        cursor.WellFormed unit) ∧
      ∀ source, question.source? = some source → cursor.unit? = source.unit? := by
  intro question cursor hm hn
  have hsound := h.sound
  refine ⟨fun id unit hc hu => ?_, fun source => hsound.source question cursor source hm hn⟩
  obtain ⟨made, hmade, hinto⟩ := hsound.into question cursor hm hn
  have hlive := hsound.tracks.issued_of_unit hu
  have hid : made.id = unit.id := by
    rw [hsound.tracks.id_of_unit hu]
    exact Option.some.inj (hinto.unit?.symm.trans hc)
  obtain ⟨calls, hr⟩ := hsound.run
  rw [hr] at hb hmade hlive
  rw [← StoreRun.issued_unique hb hmade hlive hid]
  exact hinto.wellFormed

/-- The argument of a specialization, asked for again after its unit was disposed and the
slot was used once more. -/
theorem argument_after_reuse :
    let link : ClassSpecialization := .full (.primary ⟨0⟩) [.null, .integral 3 ⟨0⟩]
    let builder : Builder :=
      { name := "a.cpp"
        decls := [{ name := "Box",
                    kind := .record { tag := .structTag, specialization := some link } }]
        types := [.builtin .bool] }
    let first : Cursor := .decl .structDecl ⟨0, 0⟩ ⟨0⟩
    let second : Cursor := .decl .structDecl ⟨0, 1⟩ ⟨0⟩
    let made : Cursor := .argument ⟨0, 1⟩ ⟨0⟩ 1 .integral
    let session := ((((({} : Session).call (.add builder)).ask (.templateArgument first 0)).call
      (.dispose ⟨0, 0⟩)).call (.add builder)).ask (.templateArgument second 1)
    Reachable session ∧ (∀ slot, removals slot session.run.history < 2 ^ 32) ∧
      (.templateArgument second 1, made) ∈ session.produced ∧
      (∃ unit, session.run.store.unit ⟨0, 1⟩ = .ok unit ∧ made.WellFormed unit) ∧
      made.unit? = second.unit? := by
  intro link builder first second made session
  have hr : Reachable session :=
    .tail (.tail (.tail (.tail (.tail .refl (.call _)) (.ask (.templateArgument first 0) nofun))
      (.call _)) (.call _)) (.ask (.templateArgument second 1) nofun)
  have hb : ∀ slot, removals slot session.run.history < 2 ^ 32 :=
    fun slot => Nat.lt_of_le_of_lt List.countP_le_length (by decide)
  have hm : (.templateArgument second 1, made) ∈ session.produced := by decide
  have h := produced_wellFormed hr hb _ _ hm nofun
  exact ⟨hr, hb, hm, ⟨_, rfl, h.1 _ _ rfl rfl⟩, h.2 _ rfl⟩

end Session

end CppIntrospect
