import CppIntrospect.Proofs.BaseLists
import Mathlib.Data.List.Nodup
import Mathlib.Data.List.Range

/-! Where the ids of base specifiers stand. As long as no call writes a list of base specifiers
itself, only adding a base specifier changes the lists, and it puts the next id at the end of one
of them. So the lists of all records together hold every id once, and each list is sorted. -/

namespace CppIntrospect

namespace BuilderCall

/-- An added declaration lists no base specifiers, and a replaced one lists those it listed
before. -/
def KeepsLists (builder : Builder) : BuilderCall → Prop
  | addDecl decl => decl.baseIds = []
  | setDecl id decl => ∀ old, builder.decls[id.index]? = some old → decl.baseIds = old.baseIds
  | _ => True

/-- How many base specifiers a call adds. -/
def basesAdded (builder : Builder) : BuilderCall → Nat
  | addBase owner type access isVirtual =>
    match (builder.addBase owner type access isVirtual).1 with
    | .ok _ => 1
    | .error _ => 0
  | _ => 0

end BuilderCall

theorem flatMap_set_perm {α β : Type} {f : α → List β} {xs : List α} {i : Nat} {old new : α}
    {more : List β} (ho : xs[i]? = some old) (hn : f new = f old ++ more) :
    ((xs.set i new).flatMap f).Perm (xs.flatMap f ++ more) := by
  induction xs generalizing i with
  | nil => simp at ho
  | cons x xs ih =>
    cases i with
    | zero =>
      obtain rfl : x = old := by simpa using ho
      rw [List.set_cons_zero, List.flatMap_cons, List.flatMap_cons, hn, List.append_assoc,
        List.append_assoc]
      exact List.perm_append_comm.append_left (f x)
    | succ i =>
      rw [List.set_cons_succ, List.flatMap_cons, List.flatMap_cons, List.append_assoc]
      exact (ih (by simpa using ho)).append_left (f x)

namespace Builder

def KeepsLists : Builder → List BuilderCall → Prop
  | _, [] => True
  | builder, call :: calls => call.KeepsLists builder ∧ KeepsLists (call.perform builder) calls

def basesAdded : Builder → List BuilderCall → Nat
  | _, [] => 0
  | builder, call :: calls => call.basesAdded builder + basesAdded (call.perform builder) calls

/-- The lists of all declarations, one after the other. -/
def baseIds (builder : Builder) : List BaseId := builder.decls.flatMap Decl.baseIds

/-- The lists of base specifiers and the base specifiers themselves tell the same. -/
structure Filed (builder : Builder) : Prop where
  linked : builder.Linked
  listed : builder.baseIds.Perm ((List.range builder.bases.length).map BaseId.mk)
  sorted : ∀ decl ∈ builder.decls, decl.baseIds.Pairwise fun a b => a.index < b.index

variable {builder after : Builder} {owner : DeclId} {decl : Decl}

theorem Filed.congr (h : builder.Filed) (hd : after.decls = builder.decls)
    (hb : after.bases = builder.bases) : after.Filed where
  linked := (linked_congr hd hb).mpr h.linked
  listed := by
    rw [Builder.baseIds, hd, hb]
    exact h.listed
  sorted := by
    rw [hd]
    exact h.sorted

theorem filed_empty (name : String) : ({ name } : Builder).Filed :=
  ⟨linked_empty name, .refl _, by simp⟩

theorem Filed.addDecl (h : builder.Filed) (hd : decl.baseIds = []) :
    (builder.addDecl decl).2.Filed where
  linked := linked_addDecl_iff.mpr ⟨h.linked, by simp [Owns, hd]⟩
  listed := by
    have hl : (builder.addDecl decl).2.baseIds = builder.baseIds := by
      simp [Builder.baseIds, Builder.addDecl, hd]
    rw [hl]
    exact h.listed
  sorted made hm := by
    rcases List.mem_append.mp hm with hm | hm
    · exact h.sorted made hm
    · obtain rfl := List.mem_singleton.mp hm
      simp [hd]

theorem Filed.setDecl (h : builder.Filed)
    (hd : ∀ old, builder.decls[owner.index]? = some old → decl.baseIds = old.baseIds) :
    (builder.setDecl owner decl).Filed := by
  cases ho : builder.decls[owner.index]? with
  | none =>
    have hset : builder.decls.set owner.index decl = builder.decls :=
      List.set_eq_of_length_le (List.getElem?_eq_none_iff.mp ho)
    exact h.congr hset rfl
  | some old =>
    have hsame := hd old ho
    refine ⟨h.linked.setDecl_iff.mpr fun _ base hm => ?_, ?_, fun made hm => ?_⟩
    · exact h.linked owner old ho base (hsame ▸ hm)
    · have hp : (builder.setDecl owner decl).baseIds.Perm (builder.baseIds ++ []) :=
        flatMap_set_perm ho (by rw [hsame, List.append_nil])
      rw [List.append_nil] at hp
      exact hp.trans h.listed
    · rcases List.mem_or_eq_of_mem_set hm with hm | rfl
      · exact h.sorted made hm
      · rw [hsame]
        exact h.sorted old (List.mem_of_getElem? ho)

theorem Linked.lt_length (h : builder.Linked) (hd : decl ∈ builder.decls) {base : BaseId}
    (hb : base ∈ decl.baseIds) : base.index < builder.bases.length := by
  obtain ⟨i, hi⟩ := List.mem_iff_getElem?.mp hd
  obtain ⟨made, hm, _⟩ := Option.map_eq_some_iff.mp (h ⟨i⟩ decl hi base hb)
  exact (List.getElem?_eq_some_iff.mp hm).1

theorem Filed.addBase (h : builder.Filed) (owner : DeclId) (type : TypeId) (access : Access)
    (isVirtual : Bool) : (builder.addBase owner type access isVirtual).2.Filed := by
  have hlinked := h.linked.addBase owner type access isVirtual
  rcases builder.addBase_cases owner type access isVirtual with hf | ⟨old, new, ho, hn, hs⟩
  · rw [hf]
    exact h
  rw [hs] at hlinked ⊢
  refine ⟨hlinked, ?_, fun made hm => ?_⟩
  · have hp := (flatMap_set_perm ho hn).trans (h.listed.append_right _)
    simpa [Builder.baseIds, Builder.setDecl, List.range_succ] using hp
  · rcases List.mem_or_eq_of_mem_set hm with hm | rfl
    · exact h.sorted made hm
    · -- the new id is above all ids in use
      have hold := List.mem_of_getElem? ho
      rw [hn]
      refine List.pairwise_append.mpr ⟨h.sorted old hold, by simp, fun base hb last hl => ?_⟩
      obtain rfl := List.mem_singleton.mp hl
      exact h.linked.lt_length hold hb

theorem Filed.perform (h : builder.Filed) {call : BuilderCall} (hk : call.KeepsLists builder) :
    (call.perform builder).Filed := by
  cases call with
  | addType type =>
    obtain ⟨hd, hb⟩ := builder.addType_fields type
    exact h.congr hd hb
  | addExpr expr => exact h.congr rfl rfl
  | addDecl decl => exact h.addDecl hk
  | setDecl id decl => exact h.setDecl hk
  | addBase owner type access isVirtual => exact h.addBase owner type access isVirtual

theorem Filed.run (h : builder.Filed) {calls : List BuilderCall} (hk : builder.KeepsLists calls) :
    (builder.run calls).Filed := by
  induction calls generalizing builder with
  | nil => exact h
  | cons call calls ih => exact ih (h.perform hk.1) hk.2

theorem length_bases_perform (builder : Builder) (call : BuilderCall) :
    (call.perform builder).bases.length = builder.bases.length + call.basesAdded builder := by
  cases call with
  | addType type => rw [BuilderCall.perform, (builder.addType_fields type).2]; rfl
  | addBase owner type access isVirtual =>
    simp only [BuilderCall.perform, BuilderCall.basesAdded]
    rcases builder.addBase_cases owner type access isVirtual with hf | ⟨old, new, _, _, hs⟩
    · rw [hf]
      rfl
    · rw [hs]
      exact List.length_append
  | _ => rfl

theorem length_bases_run (builder : Builder) (calls : List BuilderCall) :
    (builder.run calls).bases.length = builder.bases.length + builder.basesAdded calls := by
  induction calls generalizing builder with
  | nil => rfl
  | cons call calls ih =>
    have hrun := ih (call.perform builder)
    rw [length_bases_perform] at hrun
    rw [basesAdded, ← Nat.add_assoc]
    exact hrun

theorem addBase_eq_error_iff (builder : Builder) (owner : DeclId) (type : TypeId)
    (access : Access) (isVirtual : Bool) :
    (builder.addBase owner type access isVirtual).1 = .error (.notARecord owner) ↔
      builder.decls.length ≤ owner.index ∨
        ∃ decl, builder.decls[owner.index]? = some decl ∧ ∀ record, decl.kind ≠ .record record := by
  unfold Builder.addBase
  split
  · next name declAccess parent record hd =>
    have hlt := (List.getElem?_eq_some_iff.mp hd).1
    refine iff_of_false nofun ?_
    rintro (hle | ⟨decl, hd', hk⟩)
    · omega
    · obtain rfl := Option.some.inj (hd.symm.trans hd')
      exact hk record rfl
  · next hno =>
    refine iff_of_true rfl ?_
    cases hd : builder.decls[owner.index]? with
    | none => exact .inl (List.getElem?_eq_none_iff.mp hd)
    | some decl =>
      refine .inr ⟨decl, rfl, fun record hk => ?_⟩
      obtain ⟨name, declAccess, parent, kind⟩ := decl
      obtain rfl : kind = .record record := hk
      exact hno _ _ _ _ hd

theorem Filed.count_eq_one (h : builder.Filed) {base : BaseId}
    (hb : base.index < builder.bases.length) : builder.baseIds.count base = 1 := by
  have hm : base ∈ (List.range builder.bases.length).map BaseId.mk :=
    List.mem_map.mpr ⟨base.index, List.mem_range.mpr hb, rfl⟩
  have hd : ((List.range builder.bases.length).map BaseId.mk).Nodup :=
    List.nodup_range.map fun i j hij => BaseId.mk.inj hij
  rw [h.listed.count_eq]
  exact List.count_eq_one_of_mem hd hm

theorem Filed.exists_owner (h : builder.Filed) {base : BaseId}
    (hb : base.index < builder.bases.length) :
    ∃ spec decl, builder.bases[base.index]? = some spec ∧
      builder.decls[spec.owner.index]? = some decl ∧ base ∈ decl.baseIds := by
  have hm : base ∈ builder.baseIds :=
    List.count_pos_iff.mp (by rw [h.count_eq_one hb]; exact Nat.one_pos)
  obtain ⟨decl, hd, hbase⟩ := List.mem_flatMap.mp hm
  obtain ⟨i, hi⟩ := List.mem_iff_getElem?.mp hd
  obtain ⟨spec, hs, ho⟩ := Option.map_eq_some_iff.mp (h.linked ⟨i⟩ decl hi base hbase)
  refine ⟨spec, decl, hs, ?_, hbase⟩
  rw [ho]
  exact hi

/-- What a run of calls that leaves the lists alone makes of the base specifiers. A further one
is refused exactly for want of a record, and a refusal changes nothing; every id that was given
out stands once in all lists, in the list of its owner. -/
theorem bases_filed_once (name : String) (calls : List BuilderCall)
    (hk : ({ name } : Builder).KeepsLists calls) :
    let builder := ({ name } : Builder).run calls
    let count := ({ name } : Builder).basesAdded calls
    (∀ owner type access isVirtual,
      let made := builder.addBase owner type access isVirtual
      (made.1 = .error (.notARecord owner) ↔
        builder.decls.length ≤ owner.index ∨ ∃ decl, builder.decls[owner.index]? = some decl ∧
          ∀ record, decl.kind ≠ .record record) ∧
      (made.1 = .error (.notARecord owner) ∧ made.2 = builder ∨ made.1 = .ok ⟨count⟩)) ∧
    (∀ base : BaseId, base.index < count →
      builder.baseIds.count base = 1 ∧
      ∃ spec decl, builder.bases[base.index]? = some spec ∧
        builder.decls[spec.owner.index]? = some decl ∧ base ∈ decl.baseIds) ∧
    ∀ decl ∈ builder.decls, decl.baseIds.Pairwise (fun a b => a.index < b.index) ∧
      ∀ base ∈ decl.baseIds, base.index < count := by
  intro builder count
  have hfiled : builder.Filed := (filed_empty name).run hk
  have hcount : count = builder.bases.length := by
    have hl := length_bases_run { name } calls
    simpa using hl.symm
  rw [hcount]
  refine ⟨fun owner type access isVirtual => ⟨addBase_eq_error_iff .., ?_⟩,
    fun base hb => ⟨hfiled.count_eq_one hb, hfiled.exists_owner hb⟩,
    fun decl hd => ⟨hfiled.sorted decl hd, fun base hb => hfiled.linked.lt_length hd hb⟩⟩
  rcases builder.addBase_cases owner type access isVirtual with hf | ⟨_, _, _, _, hs⟩
  · rw [hf]
    exact .inl ⟨rfl, rfl⟩
  · rw [hs]
    exact .inr rfl

/-- Two records get their base specifiers in turns, with a refusal in between; the first record is
renamed afterwards. -/
theorem bases_filed_once_renamed :
    let shape (name : String) (bases : List BaseId) : Decl :=
      { name, kind := .record { tag := .classTag, bases } }
    let calls : List BuilderCall :=
      [.addType (.builtin .bool), .addDecl (shape "First" []), .addDecl (shape "Second" []),
        .addDecl { name := "Scope", kind := .namespaceDecl }, .addBase ⟨0⟩ ⟨0⟩ .pub false,
        .addBase ⟨2⟩ ⟨0⟩ .pub false, .addBase ⟨1⟩ ⟨0⟩ .priv true, .addBase ⟨0⟩ ⟨0⟩ .prot false,
        .setDecl ⟨0⟩ (shape "Renamed" [⟨0⟩, ⟨2⟩])]
    let builder := ({ name := "a.cpp" } : Builder).run calls
    ({ name := "a.cpp" } : Builder).KeepsLists calls ∧
      ({ name := "a.cpp" } : Builder).basesAdded calls = 3 ∧
      builder.decls.map Decl.baseIds = [[⟨0⟩, ⟨2⟩], [⟨1⟩], []] ∧
      builder.addBase ⟨2⟩ ⟨0⟩ .pub false = (.error (.notARecord ⟨2⟩), builder) ∧
      builder.addBase ⟨3⟩ ⟨0⟩ .pub false = (.error (.notARecord ⟨3⟩), builder) ∧
      builder.baseIds.count ⟨2⟩ = 1 ∧
      ∃ spec decl, builder.bases[2]? = some spec ∧
        builder.decls[spec.owner.index]? = some decl ∧ ⟨2⟩ ∈ decl.baseIds := by
  intro shape calls builder
  have hkeeps : ({ name := "a.cpp" } : Builder).KeepsLists calls := by
    refine ⟨trivial, rfl, rfl, rfl, trivial, trivial, trivial, trivial, fun old ho => ?_, trivial⟩
    cases ho
    rfl
  have hcount : ({ name := "a.cpp" } : Builder).basesAdded calls = 3 := by decide
  obtain ⟨hcall, honce, _⟩ := bases_filed_once "a.cpp" calls hkeeps
  have hlast := honce ⟨2⟩ (by rw [hcount]; decide)
  have hrefused : ∀ owner : DeclId, (builder.addBase owner ⟨0⟩ .pub false).1 =
      .error (.notARecord owner) →
      builder.addBase owner ⟨0⟩ .pub false = (.error (.notARecord owner), builder) := by
    intro owner he
    rcases (hcall owner ⟨0⟩ .pub false).2 with ⟨_, hsame⟩ | hok
    · exact Prod.ext he hsame
    · cases he.symm.trans hok
  refine ⟨hkeeps, hcount, by decide, hrefused ⟨2⟩ ?_, hrefused ⟨3⟩ ?_, hlast.1, hlast.2⟩
  · have hscope : builder.decls[2]? = some { name := "Scope", kind := .namespaceDecl } := by decide
    exact (hcall ⟨2⟩ ⟨0⟩ .pub false).1.mpr (.inr ⟨_, hscope, nofun⟩)
  · exact (hcall ⟨3⟩ ⟨0⟩ .pub false).1.mpr (.inl (by decide))

end Builder

end CppIntrospect
