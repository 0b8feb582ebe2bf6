import CppIntrospect.Proofs.OperandCycles
import CppIntrospect.Proofs.UnitReport

/-! Declarations by their name. The table of names is filled once, when a unit is registered; a
report restricted to a name looks at every declaration again. Both give the declarations with the
name, in order, except that unnamed declarations are in no table. A report also prints template
arguments, and there is none if one of them goes through an operator that is its own operand. -/

namespace CppIntrospect

namespace NameTable

theorem find_cons (key : String) (ids : List DeclId) (rest : NameTable) (name : String) :
    find ((key, ids) :: rest) name = if name = key then ids else rest.find name := by
  by_cases h : name = key
  · simp [find, h]
  · have hb : (name == key) = false := beq_eq_false_iff_ne.mpr h
    simp [find, List.lookup_cons, h, hb]

theorem find_insert (table : NameTable) (name other : String) (id : DeclId) :
    (table.insert name id).find other =
      if other = name then table.find other ++ [id] else table.find other := by
  induction table with
  | nil => rw [insert, find_cons]; rfl
  | cons entry rest ih =>
    obtain ⟨key, ids⟩ := entry
    by_cases hk : key = name
    · subst hk
      rw [insert, if_pos rfl, find_cons, find_cons]
      by_cases h : other = key <;> simp [h]
    · rw [insert, if_neg hk, find_cons, find_cons, ih]
      by_cases h : other = key
      · subst h
        simp [hk]
      · simp [h]

/-- The positions, counted from `start`, of the declarations with a name. -/
def positions (name : String) (start : Nat) (decls : List Decl) : List DeclId :=
  ((decls.zipIdx start).filter fun entry => entry.1.name == name).map fun entry => ⟨entry.2⟩

theorem positions_cons (name : String) (start : Nat) (decl : Decl) (decls : List Decl) :
    positions name start (decl :: decls) =
      if decl.name = name then ⟨start⟩ :: positions name (start + 1) decls
      else positions name (start + 1) decls := by
  by_cases h : decl.name = name <;> simp [positions, h]

theorem find_enter_one (table : NameTable) (start : Nat) (decl : Decl) (name : String) :
    (if decl.name.isEmpty then table else table.insert decl.name ⟨start⟩).find name =
      table.find name ++ if decl.name = name ∧ name ≠ "" then [⟨start⟩] else [] := by
  by_cases he : decl.name.isEmpty
  · have hno : ¬ (decl.name = name ∧ name ≠ "") := by
      rintro ⟨rfl, hn⟩
      exact hn (String.isEmpty_iff.mp he)
    rw [if_pos he, if_neg hno, List.append_nil]
  · have hne : decl.name ≠ "" := fun h => he (String.isEmpty_iff.mpr h)
    rw [if_neg he, find_insert]
    by_cases h : decl.name = name
    · subst h
      simp [hne]
    · simp [h, Ne.symm h]

theorem find_enter (table : NameTable) (start : Nat) (decls : List Decl) (name : String) :
    (table.enter start decls).find name =
      table.find name ++ if name = "" then [] else positions name start decls := by
  induction decls generalizing table start with
  | nil => simp [enter, positions]
  | cons decl decls ih =>
    rw [enter, ih, find_enter_one, positions_cons, List.append_assoc]
    by_cases hn : name = ""
    · simp [hn]
    · by_cases h : decl.name = name <;> simp [hn, h]

end NameTable

namespace TranslationUnit

variable {unit : TranslationUnit} {name : String}

/-- No expression that the declarations with a name print, or all declarations, leads into a cycle
of operands. -/
def Printable (unit : TranslationUnit) (only : Option String) : Prop :=
  ∀ decl ∈ unit.decls, (∀ name ∈ only, decl.name = name) →
    ∀ args, decl.args? = some args → ∀ arg ∈ args,
      ∀ expr, arg.Mentions (.expr expr) → Grounded unit.exprs expr

theorem textsEnd_iff {decl : Decl} : unit.TextsEnd decl ↔
    ∀ args, decl.args? = some args → ∀ arg ∈ args,
      ∀ expr, arg.Mentions (.expr expr) → Grounded unit.exprs expr := by
  unfold TextsEnd
  cases decl.args? <;> simp [argumentText_eq_none_iff]

theorem printable_iff {only : Option String} : unit.Printable only ↔
    ∀ decl ∈ unit.decls, only.all (decl.name == ·) = true → unit.TextsEnd decl := by
  simp only [Printable, ← textsEnd_iff]
  cases only <;> simp

def IsNamed (unit : TranslationUnit) (id : DeclId) (name : String) : Prop :=
  ∃ decl, unit.decl? id = some decl ∧ decl.name = name

theorem mem_positions_iff {id : DeclId} :
    id ∈ NameTable.positions name 0 unit.decls ↔ unit.IsNamed id name := by
  simp only [NameTable.positions, List.mem_map, List.mem_filter, beq_iff_eq]
  constructor
  · rintro ⟨⟨decl, i⟩, ⟨hd, hname⟩, rfl⟩
    exact ⟨decl, List.mk_mem_zipIdx_iff_getElem?.mp hd, hname⟩
  · rintro ⟨decl, hd, hname⟩
    exact ⟨(decl, id.index), ⟨List.mk_mem_zipIdx_iff_getElem?.mpr hd, hname⟩, rfl⟩

theorem positions_sorted (unit : TranslationUnit) (name : String) :
    (NameTable.positions name 0 unit.decls).Pairwise fun a b => a.index < b.index :=
  List.pairwise_map.mpr ((Builder.zipIdx_ordered unit.decls).filter _)

end TranslationUnit

theorem Builder.build_byName {builder : Builder} {id : UnitId} {unit : TranslationUnit}
    (h : builder.build id = .ok unit) : unit.byName = NameTable.enter [] 0 unit.decls := by
  unfold Builder.build at h
  split at h
  · cases h
  · cases h
    rfl

namespace StoreRun

variable {run : StoreRun} {unit : TranslationUnit}

theorem Issued.findDecls_eq (h : run.Issued unit) (name : String) :
    unit.findDecls name = if name = "" then [] else NameTable.positions name 0 unit.decls := by
  obtain ⟨id, builder, _, hb⟩ := h
  rw [TranslationUnit.findDecls, Builder.build_byName hb, NameTable.find_enter]
  rfl

end StoreRun

namespace Report

variable {store : Store} {unit : TranslationUnit}

theorem ofUnit_of_printable (hlive : store.resolve unit.id = .ok unit) {only : Option String}
    (h : unit.Printable only) : ∃ report, ofUnit store unit.id only = .ok report :=
  ⟨_, ofUnit_restricted hlive (TranslationUnit.printable_iff.mp h)⟩

theorem ofUnit_of_not_printable (hlive : store.resolve unit.id = .ok unit) {only : Option String}
    (h : ¬ unit.Printable only) : ofUnit store unit.id only = .error .endlessText := by
  rw [TranslationUnit.printable_iff] at h
  push Not at h
  obtain ⟨decl, hm, hcovered, hends⟩ := h
  exact ofUnit_endless hlive hm hcovered hends

theorem printable_of_ofUnit (hlive : store.resolve unit.id = .ok unit) {only : Option String}
    {report : Report} (h : ofUnit store unit.id only = .ok report) : unit.Printable only := by
  by_contra hn
  rw [ofUnit_of_not_printable hlive hn] at h
  cases h

theorem ofUnit_named (hlive : store.resolve unit.id = .ok unit) {name : String}
    (h : unit.Printable (some name)) : ofUnit store unit.id (some name) =
      .ok ⟨unit.name, unit.report.decls.filter fun decl => decl.name == name⟩ := by
  rw [ofUnit_restricted hlive (TranslationUnit.printable_iff.mp h), TranslationUnit.report,
    List.filter_map]
  rfl

theorem ofUnit_all (hlive : store.resolve unit.id = .ok unit) (h : unit.Printable none) :
    ofUnit store unit.id none = .ok unit.report :=
  ofUnit_live hlive fun decl hm => TranslationUnit.printable_iff.mp h decl hm rfl

theorem ids_filter_name (unit : TranslationUnit) (name : String) :
    (unit.report.decls.filter fun decl => decl.name == name).map DeclReport.id =
      (NameTable.positions name 0 unit.decls).map DeclId.label := by
  rw [TranslationUnit.report, List.filter_map, List.map_map, NameTable.positions, List.map_map]
  rfl

end Report

/-- The table of a registered unit lists, for a name, every declaration with that name, in order;
the empty name is not in it. While the unit is alive, a report is there exactly if what it prints
leads into no cycle of operands. A report restricted to a name covers the declarations that the
table lists; and where there is a whole report, the restricted one is its part with the name. -/
theorem StoreRun.names_found (calls : List StoreCall) (unit : TranslationUnit)
    (h : (of calls).Issued unit) :
    (∀ name, name ≠ "" →
      (unit.findDecls name).Pairwise (fun a b => a.index < b.index) ∧
      ∀ id, id ∈ unit.findDecls name ↔ unit.IsNamed id name) ∧
    unit.findDecls "" = [] ∧
    (∀ name, unit.findDecl? name = (unit.findDecls name).head?) ∧
    (Acyclic unit.exprs → ∀ only, unit.Printable only) ∧
    ((of calls).store.unit unit.id = .ok unit →
      (∀ only,
        (unit.Printable only →
          ∃ report, Report.ofUnit (of calls).store unit.id only = .ok report) ∧
        (¬ unit.Printable only →
          Report.ofUnit (of calls).store unit.id only = .error .endlessText)) ∧
      (∀ name part, name ≠ "" → Report.ofUnit (of calls).store unit.id (some name) = .ok part →
        part.decls.map Report.DeclReport.id = (unit.findDecls name).map DeclId.label) ∧
      ∀ full, Report.ofUnit (of calls).store unit.id none = .ok full →
        ∀ name, Report.ofUnit (of calls).store unit.id (some name) =
          .ok ⟨full.unit, full.decls.filter fun decl => decl.name == name⟩) := by
  refine ⟨fun name hn => ?_, h.findDecls_eq "", fun _ => rfl, fun hacyclic only => ?_,
    fun hu => ?_⟩
  · rw [h.findDecls_eq, if_neg hn]
    exact ⟨unit.positions_sorted name, fun _ => TranslationUnit.mem_positions_iff⟩
  · exact fun _ _ _ _ _ _ _ expr _ => grounded_iff_acyclic.mpr hacyclic expr
  · have hlive := Store.resolve_eq_ok_iff.mpr hu
    refine ⟨fun only => ⟨Report.ofUnit_of_printable hlive, Report.ofUnit_of_not_printable hlive⟩,
      fun name part hn hpart => ?_, fun full hfull name => ?_⟩
    · rw [Report.ofUnit_named hlive (Report.printable_of_ofUnit hlive hpart)] at hpart
      obtain rfl := Except.ok.inj hpart
      rw [h.findDecls_eq, if_neg hn, Report.ids_filter_name]
    · have hall := Report.printable_of_ofUnit hlive hfull
      rw [Report.ofUnit_all hlive hall] at hfull
      obtain rfl := Except.ok.inj hfull
      exact Report.ofUnit_named hlive fun decl hm _ => hall decl hm nofun

/-- Two declarations share a name, one of them since it was replaced; a third has none. -/
theorem StoreRun.names_found_renamed :
    let shape (name : String) : Decl := { name, kind := .enumeration }
    let first : Builder := { name := "a.cpp", decls := [shape "f", shape "", shape "g"] }
    let run := of [.add (first.setDecl ⟨2⟩ (shape "f"))]
    ∃ unit, run.Issued unit ∧ run.store.unit unit.id = .ok unit ∧ Acyclic unit.exprs ∧
      unit.findDecls "f" = [⟨0⟩, ⟨2⟩] ∧ unit.findDecls "g" = [] ∧ unit.findDecls "" = [] ∧
      unit.IsNamed ⟨1⟩ "" ∧ ∃ part, Report.ofUnit run.store unit.id (some "f") = .ok part ∧
        part.decls.map Report.DeclReport.id = [DeclId.label ⟨0⟩, DeclId.label ⟨2⟩] := by
  intro shape first run
  have hu : run.store.unit ⟨0, 0⟩ = .ok _ := rfl
  have hi := (tracks_of [.add (first.setDecl ⟨2⟩ (shape "f"))]).issued_of_unit hu
  have hacyclic : Acyclic ([] : List Expr) := by
    refine OperandsFirst.acyclic ?_
    rintro operand parent ⟨_, _, _, _, he, _⟩
    cases he
  obtain ⟨_, he, _, hprintable, hr⟩ := names_found _ _ hi
  obtain ⟨hreport, hids, _⟩ := hr hu
  obtain ⟨part, hp⟩ := (hreport (some "f")).1 (hprintable hacyclic _)
  exact ⟨_, hi, hu, hacyclic, by decide, by decide, he, ⟨_, rfl, rfl⟩, part, hp,
    hids "f" part (by decide) hp⟩

/-- A declaration is found by its name, but no report comes of it, since its argument is an
operator that is its own operand. -/
theorem StoreRun.report_endless :
    let link : ClassSpecialization := .full (.primary ⟨0⟩) [.expression ⟨0⟩]
    let box : Decl := { name := "Box",
                        kind := .record { tag := .structTag, specialization := some link } }
    let builder : Builder :=
      { name := "a.cpp", decls := [box], types := [.builtin .bool]
        exprs := [⟨.binary .add ⟨0⟩ ⟨0⟩, ⟨0⟩⟩] }
    let run := of [.add builder]
    ∃ unit, run.Issued unit ∧ run.store.unit unit.id = .ok unit ∧
      unit.findDecls "Box" = [⟨0⟩] ∧
      Report.ofUnit run.store unit.id (some "Box") = .error .endlessText ∧
      Report.ofUnit run.store unit.id none = .error .endlessText := by
  intro link box builder run
  have hu : run.store.unit ⟨0, 0⟩ = .ok _ := rfl
  have hi := (tracks_of [.add builder]).issued_of_unit hu
  exact ⟨_, hi, hu, by decide, by decide, by decide⟩

end CppIntrospect
