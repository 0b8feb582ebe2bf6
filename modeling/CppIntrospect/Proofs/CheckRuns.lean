import CppIntrospect.CommandLine.Run
import CppIntrospect.Proofs.ExpressionLayout

/-! The two commands agree on the files that load. Whether a file loads does not hang on the
store it is loaded into, so checking many files says of each what loading it alone says. A unit
that has been loaded can always be reported on. -/

namespace CppIntrospect

namespace Manifest

variable {read : Reader} {files : Files} {path : String}

def Loads (read : Reader) (files : Files) (path : String) : Prop :=
  ∃ id, (loadFile read files path .empty).result = .ok id

def entryCount (read : Reader) (files : Files) (path : String) : Nat :=
  match ofFile read files path with
  | .ok manifest => manifest.entries.length
  | .error _ => 0

/-- The store has no say in whether a file loads. -/
theorem loadFile_cases (read : Reader) (files : Files) (path : String) :
    (∃ fault, ∀ store, (loadFile read files path store).result = .error fault) ∨
    ∃ manifest, ofFile read files path = .ok manifest ∧ ∀ store, ∃ builder unit,
      Presents manifest builder unit ∧ (loadFile read files path store).result = .ok unit.id ∧
      (loadFile read files path store).store.unit unit.id = .ok unit ∧
      OperandsFirst unit.exprs := by
  unfold loadFile
  cases hf : ofFile read files path with
  | error fault => exact .inl ⟨fault, fun _ => rfl⟩
  | ok manifest =>
    cases hb : manifest.toBuilder with
    | error fault => exact .inl ⟨fault, fun store => by simp [load, hb]⟩
    | ok made =>
      refine .inr ⟨manifest, rfl, fun store => ?_⟩
      have hr : (manifest.load store).result = .ok store.nextId := by
        rcases manifest.load_cases store with ⟨fault, hnone, -⟩ | ⟨_, _, hr, -⟩
        · cases hb.symm.trans hnone
        · exact hr
      obtain ⟨builder, unit, hp, hid, hunit, hall⟩ := laysAll_of_load hr
      rw [← hid] at hr hunit
      exact ⟨builder, unit, hp, hr, hunit, hall.operandsFirst⟩

theorem loads_or_fails (read : Reader) (files : Files) (path : String) :
    Loads read files path ∨ ∃ fault, (loadFile read files path .empty).result = .error fault := by
  cases hr : (loadFile read files path .empty).result with
  | ok id => exact .inl ⟨id, hr⟩
  | error fault => exact .inr ⟨fault, rfl⟩

theorem loadFile_of_loads (h : Loads read files path) (store : Store) :
    ∃ manifest builder unit, ofFile read files path = .ok manifest ∧
      Presents manifest builder unit ∧ (loadFile read files path store).result = .ok unit.id ∧
      (loadFile read files path store).store.unit unit.id = .ok unit ∧
      unit.declCount = entryCount read files path ∧ OperandsFirst unit.exprs := by
  rcases loadFile_cases read files path with ⟨fault, hfault⟩ | ⟨manifest, hf, hstores⟩
  · obtain ⟨id, hid⟩ := h
    cases (hfault .empty).symm.trans hid
  · obtain ⟨builder, unit, hp, hr, hunit, hfirst⟩ := hstores store
    refine ⟨manifest, builder, unit, hf, hp, hr, hunit, ?_, hfirst⟩
    rw [TranslationUnit.declCount, hp.decls, hp.lowered.length, entryCount, hf]

theorem loadFile_of_fails {fault : ManifestError}
    (h : (loadFile read files path .empty).result = .error fault) (store : Store) :
    (loadFile read files path store).result = .error fault := by
  rcases loadFile_cases read files path with ⟨other, hother⟩ | ⟨_, _, hstores⟩
  · rw [hother, ← h, hother]
  · obtain ⟨_, unit, _, hr, _⟩ := hstores .empty
    cases h.symm.trans hr

end Manifest

namespace CommandLine

open Manifest

variable {read : Reader} {files : Files} {path : String}

theorem checkAll_cons_of_loads (h : Loads read files path) (store : Store) (paths : List String) :
    ∃ after,
      (checkAll read files store (path :: paths)).exitCode =
        (checkAll read files after paths).exitCode ∧
      (checkAll read files store (path :: paths)).output =
        okLine path (entryCount read files path) ++ (checkAll read files after paths).output ∧
      (checkAll read files store (path :: paths)).complaints =
        (checkAll read files after paths).complaints := by
  obtain ⟨manifest, builder, unit, hf, hp, hr, hunit, hcount, _⟩ := loadFile_of_loads h store
  have hfind := Store.unit_eq_ok_iff.mp hunit
  have hd : ((loadFile read files path store).store.dispose unit.id).1 = .ok unit := by
    rw [Store.dispose_fst, hunit]
  refine ⟨((loadFile read files path store).store.dispose unit.id).2, ?_⟩
  rcases hs : (loadFile read files path store).store.dispose unit.id with ⟨removed, after⟩
  obtain rfl : removed = .ok unit := by simpa [hs] using hd
  simp [checkAll, hr, hs, hfind, hcount]

theorem checkAll_cons_of_fails {fault : ManifestError}
    (h : (loadFile read files path .empty).result = .error fault) (store : Store)
    (paths : List String) :
    (checkAll read files store (path :: paths)).exitCode = 1 ∧
      (checkAll read files store (path :: paths)).output = "" ∧
      (checkAll read files store (path :: paths)).complaints = [errorLine path, fault.message] := by
  simp [checkAll, loadFile_of_fails h store]

/-- The files that load each add a line and pass on to the rest. -/
theorem checkAll_append {before : List String} (h : ∀ path ∈ before, Loads read files path)
    (store : Store) (rest : List String) :
    ∃ after,
      (checkAll read files store (before ++ rest)).exitCode =
        (checkAll read files after rest).exitCode ∧
      (checkAll read files store (before ++ rest)).output =
        String.join (before.map fun path => okLine path (entryCount read files path)) ++
          (checkAll read files after rest).output ∧
      (checkAll read files store (before ++ rest)).complaints =
        (checkAll read files after rest).complaints := by
  induction before generalizing store with
  | nil => exact ⟨store, rfl, by simp, rfl⟩
  | cons path before ih =>
    obtain ⟨hfirst, hrest⟩ := List.forall_mem_cons.mp h
    obtain ⟨middle, hcode, hout, hcomplaints⟩ :=
      checkAll_cons_of_loads hfirst store (before ++ rest)
    obtain ⟨after, hcode', hout', hcomplaints'⟩ := ih hrest middle
    refine ⟨after, hcode.trans hcode', ?_, hcomplaints.trans hcomplaints'⟩
    rw [List.cons_append, hout, hout', List.map_cons, String.join_cons, String.append_assoc]

theorem checkAll_of_loads {paths : List String} (h : ∀ path ∈ paths, Loads read files path)
    (store : Store) :
    (checkAll read files store paths).exitCode = 0 ∧
      (checkAll read files store paths).output =
        String.join (paths.map fun path => okLine path (entryCount read files path)) ∧
      (checkAll read files store paths).complaints = [] := by
  obtain ⟨after, hcode, hout, hcomplaints⟩ := checkAll_append h store []
  rw [List.append_nil] at hcode hout hcomplaints
  exact ⟨hcode, by simpa [checkAll] using hout, hcomplaints⟩

theorem checkAll_of_fails {before after : List String} {fault : ManifestError}
    (hb : ∀ path ∈ before, Loads read files path)
    (hf : (loadFile read files path .empty).result = .error fault) (store : Store) :
    (checkAll read files store (before ++ path :: after)).exitCode = 1 ∧
      (checkAll read files store (before ++ path :: after)).output =
        String.join (before.map fun path => okLine path (entryCount read files path)) ∧
      (checkAll read files store (before ++ path :: after)).complaints =
        [errorLine path, fault.message] := by
  obtain ⟨middle, hcode, hout, hcomplaints⟩ := checkAll_append hb store (path :: after)
  obtain ⟨hone, hnone, hlines⟩ := checkAll_cons_of_fails hf middle after
  refine ⟨hcode.trans hone, ?_, hcomplaints.trans hlines⟩
  rw [hout, hnone, String.append_empty]

theorem exists_first_failure {paths : List String} (h : ¬ ∀ path ∈ paths, Loads read files path) :
    ∃ before path after fault, paths = before ++ path :: after ∧
      (∀ path ∈ before, Loads read files path) ∧
      (loadFile read files path .empty).result = .error fault := by
  induction paths with
  | nil => simp at h
  | cons path paths ih =>
    rcases loads_or_fails read files path with hl | ⟨fault, hf⟩
    · have hrest : ¬ ∀ path ∈ paths, Loads read files path :=
        fun hall => h (List.forall_mem_cons.mpr ⟨hl, hall⟩)
      obtain ⟨before, first, after, fault, rfl, hb, hf⟩ := ih hrest
      exact ⟨path :: before, first, after, fault, rfl, List.forall_mem_cons.mpr ⟨hl, hb⟩, hf⟩
    · exact ⟨[], path, paths, fault, rfl, by simp, hf⟩

theorem checkAll_exitCode_iff (paths : List String) (store : Store) :
    (checkAll read files store paths).exitCode = 0 ↔ ∀ path ∈ paths, Loads read files path := by
  constructor
  · intro hcode
    by_contra hnot
    obtain ⟨before, path, after, fault, rfl, hb, hf⟩ := exists_first_failure hnot
    have hone := (@checkAll_of_fails read files path before after fault hb hf store).1
    omega
  · exact fun h => (checkAll_of_loads h store).1

/-- A unit that has been loaded can be reported on, whatever the restriction. -/
theorem inspect_of_loads (h : Loads read files path) (only : Option String)
    (format : OutputFormat) : ∃ report, Inspection.run ⟨path, only, format⟩ read files =
        ⟨0, format.write report, [], (loadFile read files path .empty).events⟩ ∧
      (only = none → report.decls.length = entryCount read files path) := by
  obtain ⟨manifest, builder, unit, hf, hp, hr, hunit, hcount, _⟩ := loadFile_of_loads h .empty
  have hlive := Store.resolve_eq_ok_iff.mpr hunit
  have hreport := @Report.ofUnit_restricted _ _ hlive only fun decl hm _ => hp.textsEnd hm
  refine ⟨⟨unit.name, _⟩, by simp only [Inspection.run, hr, hreport]; rfl, ?_⟩
  rintro rfl
  simp only [Option.all_none, List.length_map]
  rw [List.filter_eq_self.mpr fun _ _ => rfl, List.length_zipIdx, ← hcount]
  rfl

theorem inspect_of_fails {fault : ManifestError}
    (h : (loadFile read files path .empty).result = .error fault) (only : Option String)
    (format : OutputFormat) : (Inspection.run ⟨path, only, format⟩ read files).exitCode = 1 := by
  simp [Inspection.run, h]

theorem inspect_exitCode_iff (path : String) (only : Option String) (format : OutputFormat) :
    (Inspection.run ⟨path, only, format⟩ read files).exitCode = 0 ↔ Loads read files path := by
  constructor
  · intro hcode
    rcases loads_or_fails read files path with hl | ⟨fault, hf⟩
    · exact hl
    · have hone := inspect_of_fails hf only format
      omega
  · intro h
    obtain ⟨report, hrun, _⟩ := inspect_of_loads h only format
    rw [hrun]

/-- However manifests are read, checking files succeeds exactly if each of them loads alone. It
prints a line for each file up to the first that does not load, and complains about that one.
Inspecting a file succeeds exactly if checking it does, whatever is asked for and in either format,
and counts the same declarations. The texts of all expressions of a loaded file end. -/
theorem commands_agree (read : Reader) (files : Files) :
    (∀ paths : List String,
      ((Command.check paths).run read files).exitCode = 0 ↔
        ∀ path ∈ paths, ∃ id, (loadFile read files path .empty).result = .ok id) ∧
    (∀ paths : List String,
      (∀ path ∈ paths, ∃ id, (loadFile read files path .empty).result = .ok id) →
      ((Command.check paths).run read files).output = String.join (paths.map fun path =>
        path ++ ": OK (" ++ (entryCount read files path).repr ++ " declarations)\n") ∧
      ((Command.check paths).run read files).complaints = []) ∧
    (∀ (before after : List String) (path : String) (fault : ManifestError),
      (∀ path ∈ before, ∃ id, (loadFile read files path .empty).result = .ok id) →
      (loadFile read files path .empty).result = .error fault →
      ((Command.check (before ++ path :: after)).run read files).exitCode = 1 ∧
      ((Command.check (before ++ path :: after)).run read files).output =
        String.join (before.map fun path =>
          path ++ ": OK (" ++ (entryCount read files path).repr ++ " declarations)\n") ∧
      ((Command.check (before ++ path :: after)).run read files).complaints =
        [path ++ ": Error", fault.message]) ∧
    (∀ (path : String) (only : Option String) (format : OutputFormat),
      ((Command.inspect ⟨path, only, format⟩).run read files).exitCode = 0 ↔
        ((Command.check [path]).run read files).exitCode = 0) ∧
    ∀ path : String, (∃ id, (loadFile read files path .empty).result = .ok id) →
      (∃ name rest, ((Command.inspect ⟨path, none, .text⟩).run read files).output =
        "unit " ++ name ++ " (" ++ (entryCount read files path).repr ++ " declarations)\n" ++
          rest) ∧
      ∀ store, ∃ unit, (loadFile read files path store).result = .ok unit.id ∧
        (loadFile read files path store).store.unit unit.id = .ok unit ∧
        unit.declCount = entryCount read files path ∧
        ∀ expr, ∃ text, unit.exprText expr = some text := by
  refine ⟨fun paths => checkAll_exitCode_iff paths .empty,
    fun paths h => (checkAll_of_loads h .empty).2,
    fun before after path fault hb hf => checkAll_of_fails hb hf .empty,
    fun path only format => ?_, fun path h => ⟨?_, fun store => ?_⟩⟩
  · have hcheck : ((Command.check [path]).run read files).exitCode = 0 ↔ Loads read files path :=
      (checkAll_exitCode_iff [path] .empty).trans List.forall_mem_singleton
    exact (inspect_exitCode_iff path only format).trans hcheck.symm
  · obtain ⟨report, hrun, hcount⟩ := inspect_of_loads h none .text
    refine ⟨report.unit, String.join ((report.decls.flatMap Report.DeclReport.lines).map
      (· ++ "\n")), ?_⟩
    show (Inspection.run ⟨path, none, .text⟩ read files).output = _
    rw [hrun]
    simp [OutputFormat.write, Report.render, Report.lines, Report.header, hcount rfl,
      String.join_cons, String.append_assoc]
  · obtain ⟨_, _, unit, _, _, hr, hunit, hcount, hfirst⟩ := loadFile_of_loads h store
    refine ⟨unit, hr, hunit, hcount, fun expr => ?_⟩
    exact TranslationUnit.exists_exprText_iff.mpr (grounded_iff_acyclic.mpr hfirst.acyclic expr)

theorem ofFile_text {text : String} (h : files path = some text.toUTF8) :
    ofFile read files path = read (.ofPath path) text := by
  have hvalid : text.toUTF8.IsValidUTF8 := text.isValidUTF8
  have hdecoded : String.fromUTF8? text.toUTF8 = some text := dif_pos hvalid
  simp only [ofFile, h, Option.bind_some, hdecoded]

def colours : String := "[[\"a\"],[\x7b\"id\":\"E\",\"kind\":\"enum\"\x7d]]"

def shelf : Files := fun path => if path = "a.json" then some colours.toUTF8 else none

/-- A file that loads, one that is missing, and the first again, which is not looked at. -/
theorem commands_agree_missing :
    (loadFile parse shelf "a.json" .empty).result = .ok ⟨0, 0⟩ ∧
    ((Command.check ["a.json", "b.toml", "a.json"]).run parse shelf).exitCode = 1 ∧
    ((Command.check ["a.json", "b.toml", "a.json"]).run parse shelf).output =
      "a.json: OK (1 declarations)\n" ∧
    ((Command.check ["a.json", "b.toml", "a.json"]).run parse shelf).complaints =
      ["b.toml: Error", "failed to read manifest b.toml"] ∧
    ((Command.inspect ⟨"a.json", some "F", .json⟩).run parse shelf).exitCode = 0 := by
  have hread : ofFile parse shelf "a.json" = parse .json colours := by
    have hpath : Format.ofPath "a.json" = .json := by decide +kernel
    have hfile : shelf "a.json" = some colours.toUTF8 := if_pos rfl
    rw [ofFile_text hfile, hpath]
  have hid : (ofJson? colours).bind (fun manifest => (manifest.load .empty).result.toOption) =
      some ⟨0, 0⟩ := by decide +kernel
  have hlength : (ofJson? colours).map (fun manifest => manifest.entries.length) = some 1 := by
    decide +kernel
  obtain ⟨manifest, hm, hload⟩ := Option.bind_eq_some_iff.mp hid
  have hfile : ofFile parse shelf "a.json" = .ok manifest := by rw [hread, parse, hm]
  have hok : (loadFile parse shelf "a.json" .empty).result = .ok ⟨0, 0⟩ := by
    rw [loadFile, hfile]
    exact eq_ok_of_toOption hload
  have hcount : entryCount parse shelf "a.json" = 1 := by
    rw [entryCount, hfile]
    simpa [hm] using hlength
  have hmissing : (loadFile parse shelf "b.toml" .empty).result = .error (.unreadable "b.toml") :=
    rfl
  obtain ⟨hiff, -, hfirst, hinspect, -⟩ := commands_agree parse shelf
  obtain ⟨hcode, hout, hlines⟩ := hfirst ["a.json"] ["a.json"] "b.toml" _
    (List.forall_mem_singleton.mpr ⟨_, hok⟩) hmissing
  refine ⟨hok, hcode, hout.trans ?_, hlines, ?_⟩
  · simp only [List.map_cons, List.map_nil, hcount]
    decide +kernel
  · exact (hinspect "a.json" (some "F") .json).mpr
      ((hiff ["a.json"]).mpr (List.forall_mem_singleton.mpr ⟨_, hok⟩))

end CommandLine

end CppIntrospect
