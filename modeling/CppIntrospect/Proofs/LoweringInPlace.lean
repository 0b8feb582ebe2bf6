import CppIntrospect.Manifest.Lower

/-! Lowering without tables and without places kept free. What the tables tell can be found by a
search of the entries; and since no entry is lowered by looking at declarations, these can be
made in a list of their own. Both forms of lowering give the same unit, or the same fault. -/

namespace CppIntrospect.Manifest

/-- The entries in which references are searched. -/
structure Scope where
  entries : List Entry

/-- The ids of the entries are pairwise distinct. -/
def Scope.Distinct (scope : Scope) : Prop := (scope.entries.map Entry.id).Nodup

/-- The declaration of the first entry with an id. -/
def Scope.find? (scope : Scope) (id : String) : Option DeclId :=
  (scope.entries.findIdx? (·.id == id)).map DeclId.mk

/-- The type of a template type parameter, by the name of the parameter. The first entry
with a name counts. -/
def Scope.typeParameter? (scope : Scope) (name : String) : Option CppType :=
  scope.entries.findSome? fun entry =>
    match entry.kind with
    | .typeParm position =>
      if entry.declName == name then some (.templateParam name position.depth position.index)
      else none
    | _ => none

/-- What a template type parameter leaves in the tables. -/
def Entry.parameter? (entry : Entry) : Option (String × UInt32 × UInt32) :=
  match entry.kind with
  | .typeParm position => some (entry.declName, position.depth, position.index)
  | _ => none

/-- The ids of entries with their places, which start at `start`. -/
def placesFrom (start : Nat) (entries : List Entry) : List (String × DeclId) :=
  (entries.zipIdx start).map fun (entry, i) => (entry.id, ⟨i⟩)

/-- The tables that the entries fill. -/
def Scope.tables (scope : Scope) : Tables :=
  ⟨placesFrom 0 scope.entries, scope.entries.filterMap Entry.parameter?⟩

instance : Coe Scope Tables := ⟨Scope.tables⟩

/-- The first id that an earlier entry already has. -/
def firstRepeated (seen : List String) : List Entry → Option String
  | [] => none
  | entry :: entries =>
    if entry.id ∈ seen then some entry.id else firstRepeated (entry.id :: seen) entries

/-- Lowers entries one by one, and keeps the declarations made before the first fault. -/
def lowerEntries (scope : Scope) :
    List Entry → Builder → List Decl × Except ManifestError Builder
  | [], builder => ([], .ok builder)
  | entry :: entries, builder =>
    match lowerEntry scope entry builder with
    | .error fault => ([], .error fault)
    | .ok (decl, builder) =>
      let (decls, result) := lowerEntries scope entries builder
      (decl :: decls, result)

/-- The base specifiers of entries whose declarations have ids from `start` on. -/
def lowerAllBases (scope : Scope) : Nat → List Entry → Builder → Except ManifestError Builder
  | _, [], builder => .ok builder
  | start, entry :: entries, builder => do
    let builder ← lowerBases scope entry ⟨start⟩ entry.kind.bases builder
    lowerAllBases scope (start + 1) entries builder

/-- The function templates among declarations whose ids start at `start`, each after the
declaration that it is a template of. -/
def patternsFrom (start : Nat) (decls : List Decl) : List (DeclId × DeclId) :=
  (decls.zipIdx start).filterMap fun (decl, i) => pattern? ⟨i⟩ decl

def patterns (decls : List Decl) : List (DeclId × DeclId) := patternsFrom 0 decls

/-- The declarations of the entries, up to the first fault, and what comes of the whole. -/
def lower (manifest : Manifest) : List Decl × Except ManifestError Builder :=
  match firstRepeated [] manifest.entries with
  | none =>
    let scope : Scope := ⟨manifest.entries⟩
    let lowered := lowerEntries scope manifest.entries (.empty manifest.unitName)
    let result := lowered.2.bind fun builder =>
      (lowerAllBases scope 0 manifest.entries { builder with decls := lowered.1 }).map
        (markPatterns (patterns lowered.1))
    (lowered.1, result)
  | some id => ([], .error (.duplicateId id))

/-- Operators and operands in turn. -/
def operations? : List (List Char) → Option (List (BinaryOp × List Char))
  | [] => some []
  | [_] => none
  | op :: token :: tokens =>
    match BinaryOp.ofSpelling? (String.ofList op), operations? tokens with
    | some op, some rest => some ((op, token) :: rest)
    | _, _ => none

theorem everyOther_cons {α : Type} (x : α) (xs : List α) :
    everyOther (x :: xs) = x :: everyOther (xs.drop 1) := by
  cases xs <;> rfl

/-- Taking every other token twice, and pairing, is the same as going through pairs. -/
theorem operations?_eq (tokens : List (List Char)) :
    operations? tokens =
      if tokens.length % 2 = 0 then
        ((everyOther tokens).mapM fun token => BinaryOp.ofSpelling? (String.ofList token)).map
          fun ops => ops.zip (everyOther (tokens.drop 1))
      else none := by
  induction tokens using everyOther.induct with
  | case1 => rfl
  | case2 token => rfl
  | case3 op token tokens ih =>
    have hlength : (op :: token :: tokens).length % 2 = tokens.length % 2 := by
      simp only [List.length_cons]
      omega
    rw [operations?, ih, hlength, everyOther, List.mapM_cons, List.drop_succ_cons,
      List.drop_zero, everyOther_cons]
    by_cases heven : tokens.length % 2 = 0
    · rw [if_pos heven, if_pos heven]
      cases BinaryOp.ofSpelling? (String.ofList op) with
      | none => rfl
      | some op =>
        cases (everyOther tokens).mapM fun token => BinaryOp.ofSpelling? (String.ofList token) <;>
          rfl
    · rw [if_neg heven, if_neg heven]
      cases BinaryOp.ofSpelling? (String.ofList op) <;> rfl

/-- An expression is split at its operators, if its text has that shape, and is kept whole
otherwise. -/
theorem lowerExpr_eq (tables : Tables) (text : String) (type : TypeId) (builder : Builder) :
    lowerExpr tables text type builder =
      match Text.words text.toList with
      | [] => builder.addExpr ⟨.unexposed (String.ofList (Text.trim text.toList)), type⟩
      | token :: tokens =>
        match operations? tokens with
        | some rest =>
          lowerOperations tables type rest (builder.addExpr ⟨operand tables token, type⟩)
        | none => builder.addExpr ⟨.unexposed (String.ofList (Text.trim text.toList)), type⟩ := by
  unfold lowerExpr
  match Text.words text.toList with
  | [] => rfl
  | [single] => rfl
  | first :: op :: rest =>
    dsimp only
    rw [operations?_eq, List.drop_succ_cons, List.drop_zero]
    cases (everyOther (op :: rest)).mapM fun token =>
        BinaryOp.ofSpelling? (String.ofList token) with
    | none => simp
    | some ops =>
      by_cases heven : (rest.length + 1) % 2 = 0
      · simp [heven]
      · simp [heven]

theorem placesFrom_cons (start : Nat) (entry : Entry) (entries : List Entry) :
    placesFrom start (entry :: entries) =
      (entry.id, ⟨start⟩) :: placesFrom (start + 1) entries := rfl

theorem patternsFrom_cons (start : Nat) (decl : Decl) (decls : List Decl) :
    patternsFrom start (decl :: decls) =
      (pattern? ⟨start⟩ decl).toList ++ patternsFrom (start + 1) decls := by
  simp only [patternsFrom, List.zipIdx_cons, List.filterMap_cons]
  cases pattern? ⟨start⟩ decl <;> rfl

theorem lookup_placesFrom (start : Nat) (entries : List Entry) (id : String) :
    (placesFrom start entries).lookup id =
      (entries.findIdx? (·.id == id)).map fun i => ⟨start + i⟩ := by
  induction entries generalizing start with
  | nil => rfl
  | cons entry entries ih =>
    rw [placesFrom_cons, List.lookup_cons, List.findIdx?_cons]
    by_cases h : id = entry.id
    · simp [h]
    · have hb : (id == entry.id) = false := beq_eq_false_iff_ne.mpr h
      have hb' : (entry.id == id) = false := beq_eq_false_iff_ne.mpr (Ne.symm h)
      rw [hb, hb', ih]
      simp only [Bool.false_eq_true, if_false, Option.map_map]
      congr 1
      funext i
      simp [Nat.add_comm 1 i, Nat.add_assoc]

theorem lookup_parameters (entries : List Entry) (name : String) :
    ((entries.filterMap Entry.parameter?).lookup name).map
        (fun (depth, index) => CppType.templateParam name depth index) =
      Scope.typeParameter? ⟨entries⟩ name := by
  unfold Scope.typeParameter?
  induction entries with
  | nil => rfl
  | cons entry entries ih =>
    rw [List.filterMap_cons, List.findSome?_cons]
    cases hk : entry.kind with
    | typeParm position =>
      simp only [Entry.parameter?, hk, List.lookup_cons]
      by_cases h : name = entry.declName
      · simp [h]
      · have hb : (name == entry.declName) = false := beq_eq_false_iff_ne.mpr h
        have hb' : (entry.declName == name) = false := beq_eq_false_iff_ne.mpr (Ne.symm h)
        rw [hb, hb']
        exact ih
    | _ =>
      simp only [Entry.parameter?, hk]
      exact ih

namespace Scope

variable {scope : Scope}

theorem tables_find? (scope : Scope) : scope.tables.find? = scope.find? := by
  funext id
  simp only [Tables.find?, tables, lookup_placesFrom, Nat.zero_add]
  rfl

theorem tables_typeParameter? (scope : Scope) :
    scope.tables.typeParameter? = scope.typeParameter? := by
  funext name
  exact lookup_parameters scope.entries name

/-- An entry is found in its own place. -/
theorem find?_self (hd : scope.Distinct) {i : Nat} {entry : Entry}
    (hi : scope.entries[i]? = some entry) : scope.find? entry.id = some ⟨i⟩ := by
  obtain ⟨hlt, rfl⟩ := List.getElem?_eq_some_iff.mp hi
  have hidx : scope.entries.findIdx? (·.id == scope.entries[i].id) = some i := by
    refine List.findIdx?_eq_some_iff_getElem.mpr ⟨hlt, by simp, fun j hj => ?_⟩
    have hne := List.pairwise_iff_getElem.mp hd j i (by simp; omega) (by simpa using hlt) hj
    simpa using hne
  rw [find?, hidx]
  rfl

theorem resolve_self (hd : scope.Distinct) {done entries : List Entry} {entry : Entry}
    (hs : scope.entries = done ++ entry :: entries) :
    scope.tables.resolve entry.id entry.id = .ok ⟨done.length⟩ := by
  have hi : scope.entries[done.length]? = some entry := by simp [hs]
  rw [Tables.resolve, tables_find?, find?_self hd hi]

theorem tables_append (done : List Entry) (entry : Entry) :
    tables ⟨done ++ [entry]⟩ =
      ⟨(tables ⟨done⟩).ids ++ [(entry.id, ⟨done.length⟩)],
        (tables ⟨done⟩).params ++ entry.parameter?.toList⟩ := by
  have hone : [entry].filterMap Entry.parameter? = entry.parameter?.toList := by
    cases h : entry.parameter? <;> simp [h]
  simp [tables, placesFrom, List.zipIdx_append, List.filterMap_append, hone]

theorem enter_tables (done : List Entry) (entry : Entry) :
    (tables ⟨done⟩).enter entry ⟨done.length⟩ =
      if entry.id ∈ done.map Entry.id then .error (.duplicateId entry.id)
      else .ok (tables ⟨done ++ [entry]⟩) := by
  have hseen : ((tables ⟨done⟩).find? entry.id).isSome = true ↔
      entry.id ∈ done.map Entry.id := by
    rw [tables_find?, find?, Option.isSome_map, List.findIdx?_isSome, List.any_eq_true,
      List.mem_map]
    simp only [beq_iff_eq]
  rw [Tables.enter, tables_append]
  by_cases h : entry.id ∈ done.map Entry.id
  · rw [if_pos (hseen.mpr h), if_pos h]
  · rw [if_neg fun hs => h (hseen.mp hs), if_neg h]
    cases hk : entry.kind <;> simp [Entry.parameter?, hk]

end Scope

/-- The first pass fails on the first repeated id, and else leaves a placeholder for each
entry. -/
theorem allocate_eq (entries done : List Entry) {seen : List String} {builder : Builder}
    (hseen : ∀ id, id ∈ seen ↔ id ∈ done.map Entry.id)
    (hlen : builder.decls.length = done.length) :
    allocate entries (Scope.tables ⟨done⟩) builder =
      match firstRepeated seen entries with
      | some id => .error (.duplicateId id)
      | none => .ok (Scope.tables ⟨done ++ entries⟩,
          { builder with decls := builder.decls ++ entries.map placeholder }) := by
  induction entries generalizing done seen builder with
  | nil => simp [allocate, firstRepeated]
  | cons entry entries ih =>
    have henter := Scope.enter_tables done entry
    simp only [allocate, Builder.addDecl, Builder.nextDecl, hlen, henter, firstRepeated]
    by_cases h : entry.id ∈ done.map Entry.id
    · rw [if_pos h, if_pos ((hseen _).mpr h)]
      rfl
    · rw [if_neg h, if_neg fun hs => h ((hseen _).mp hs)]
      have hnext := @ih (done ++ [entry]) (entry.id :: seen)
        { builder with decls := builder.decls ++ [placeholder entry] }
        (fun id => by simp [hseen, or_comm]) (by simp [hlen])
      rw [List.append_assoc, List.singleton_append] at hnext
      refine hnext.trans ?_
      simp only [List.append_assoc, List.singleton_append, List.map_cons]

/-- A lowering neither reads the declarations nor writes them. -/
def IgnoresDecls {α : Type} (lowering : Builder → Except ManifestError (α × Builder)) : Prop :=
  ∀ builder decls, lowering { builder with decls } =
    (lowering builder).map fun made => (made.1, { made.2 with decls })

namespace IgnoresDecls

variable {α β : Type} {lowering : Builder → Except ManifestError (α × Builder)}

theorem pure (value : α) : IgnoresDecls fun builder => Pure.pure (value, builder) :=
  fun _ _ => rfl

theorem error (fault : ManifestError) : IgnoresDecls (α := α) fun _ => .error fault :=
  fun _ _ => rfl

theorem bind {next : α × Builder → Except ManifestError (β × Builder)}
    (h : IgnoresDecls lowering) (hn : ∀ value, IgnoresDecls fun builder => next (value, builder)) :
    IgnoresDecls fun builder => lowering builder >>= next := by
  intro builder decls
  simp only [h builder decls]
  cases hl : lowering builder with
  | error fault => rfl
  | ok made => exact hn made.1 made.2 decls

/-- A step that does not look at the builder. -/
theorem after (result : Except ManifestError α)
    {next : α → Builder → Except ManifestError (β × Builder)}
    (hn : ∀ value, IgnoresDecls (next value)) :
    IgnoresDecls fun builder => result >>= fun value => next value builder := by
  cases result with
  | error fault => exact fun _ _ => rfl
  | ok value => exact hn value

end IgnoresDecls

variable (tables : Tables) (owner : String)

theorem addType_decls (builder : Builder) (decls : List Decl) (type : CppType) :
    ({ builder with decls } : Builder).addType type =
      ((builder.addType type).1, { (builder.addType type).2 with decls }) := by
  unfold Builder.addType
  dsimp only
  split <;> rfl

theorem lowerType_ignores (spelling : String) :
    IgnoresDecls (lowerType tables owner spelling) := by
  intro builder decls
  unfold lowerType
  cases CppType.parse? spelling with
  | none => rfl
  | some type => exact congrArg Except.ok (addType_decls builder decls _)

theorem lowerOperations_decls (type : TypeId) (rest : List (BinaryOp × List Char)) (lhs : ExprId)
    (builder : Builder) (decls : List Decl) :
    lowerOperations tables type rest (lhs, { builder with decls }) =
      ((lowerOperations tables type rest (lhs, builder)).1,
        { (lowerOperations tables type rest (lhs, builder)).2 with decls }) := by
  induction rest generalizing lhs builder with
  | nil => rfl
  | cons step rest ih =>
    obtain ⟨op, token⟩ := step
    let rhs := builder.addExpr ⟨operand tables token, type⟩
    exact ih (rhs.2.addExpr ⟨.binary op lhs rhs.1, type⟩).1
      (rhs.2.addExpr ⟨.binary op lhs rhs.1, type⟩).2

theorem lowerExpr_decls (text : String) (type : TypeId) (builder : Builder) (decls : List Decl) :
    lowerExpr tables text type { builder with decls } =
      ((lowerExpr tables text type builder).1,
        { (lowerExpr tables text type builder).2 with decls }) := by
  unfold lowerExpr
  dsimp only
  split
  · rfl
  · next first rest ops _ _ _ =>
    let lhs := builder.addExpr ⟨operand tables first, type⟩
    split
    · exact lowerOperations_decls tables type _ lhs.1 lhs.2 decls
    · rfl
  · rfl

mutual

theorem lowerArg_ignores : ∀ arg : ArgumentEntry, IgnoresDecls (lowerArg tables owner arg)
  | .null _ => .pure _
  | .type spelling => (lowerType_ignores tables owner spelling).bind fun _ => .pure _
  | .integral _ spelling => (lowerType_ignores tables owner spelling).bind fun _ => .pure _
  | .decl id => .after (tables.resolve owner id) fun _ => .pure _
  | .template id => .after (tables.resolve owner id) fun _ => .pure _
  | .expansion id => .after (tables.resolve owner id) fun _ => .pure _
  | .expression text spelling =>
    (lowerType_ignores tables owner spelling).bind fun type builder decls => by
      simp only [lowerExpr_decls tables text type builder decls]
      rfl
  | .pack elements => (lowerArgs_ignores elements).bind fun _ => .pure _

theorem lowerArgs_ignores : ∀ args : List ArgumentEntry, IgnoresDecls (lowerArgs tables owner args)
  | [] => .pure _
  | arg :: args => (lowerArg_ignores arg).bind fun _ => (lowerArgs_ignores args).bind fun _ =>
    .pure _

end

theorem lowerTemplating_ignores (entry : FunctionEntry) :
    IgnoresDecls (lowerTemplating tables owner entry) := by
  obtain ⟨returns, params, specializes, origin, candidates, args⟩ := entry
  have hargs := lowerArgs_ignores tables owner args
  match specializes, origin, candidates with
  | none, none, [] => exact .pure _
  | some primary, none, [] =>
    exact .after (tables.resolve owner primary) fun _ => hargs.bind fun _ => .pure _
  | none, some origin, [] =>
    exact .after (tables.resolve owner origin) fun _ => hargs.bind fun _ => .pure _
  | none, none, candidate :: candidates =>
    exact .after (tables.resolveAll owner (candidate :: candidates)) fun _ =>
      hargs.bind fun _ => .pure _
  | some primary, some origin, [] => exact .error _
  | some primary, none, candidate :: candidates => exact .error _
  | none, some origin, candidate :: candidates => exact .error _
  | some primary, some origin, candidate :: candidates => exact .error _

theorem lowerKind_ignores (kind : EntryKind) : IgnoresDecls (lowerKind tables owner kind) := by
  cases kind with
  | namespaceDecl | enumeration | enumConstant | accessLabel | typeParm | templateParm =>
    exact .pure _
  | record keyword entry => exact .after (tables.resolve? owner entry.origin) fun _ => .pure _
  | field spelling | parm spelling | typedef spelling | typeAlias spelling =>
    exact (lowerType_ignores tables owner spelling).bind fun _ => .pure _
  | valueParm spelling position =>
    exact (lowerType_ignores tables owner spelling).bind fun _ => .pure _
  | var entry =>
    exact (lowerType_ignores tables owner entry.type).bind fun _ =>
      .after (tables.resolve? owner entry.origin) fun _ => .pure _
  | function flavor entry =>
    have hfunction : IgnoresDecls (lowerFunction tables owner flavor entry) :=
      (lowerType_ignores tables owner _).bind fun _ =>
        .after (tables.resolveAll owner entry.params) fun _ =>
          (lowerTemplating_ignores tables owner entry).bind fun _ => .pure _
    exact hfunction.bind fun _ => .pure _
  | template flavor entry => exact .after (lowerTemplate tables owner flavor entry) fun _ => .pure _
  | partialSpecialization entry =>
    have hpartial : IgnoresDecls (lowerPartial tables owner entry) :=
      .after (tables.resolve owner entry.template) fun _ =>
        .after (tables.resolveAll owner entry.params) fun _ =>
          (lowerArgs_ignores tables owner entry.args).bind fun _ => .pure _
    exact hpartial.bind fun _ => .pure _
  | specialization entry =>
    have hspecial : IgnoresDecls (lowerSpecialization tables owner entry) :=
      .after (lowerOrigin tables owner entry) fun _ =>
        (lowerArgs_ignores tables owner entry.args).bind fun _ => .pure _
    exact hspecial.bind fun _ => .pure _

theorem lowerEntry_ignores (entry : Entry) : IgnoresDecls (lowerEntry tables entry) :=
  (lowerKind_ignores tables entry.id entry.kind).bind fun _ =>
    .after (tables.resolve? entry.id entry.parent) fun _ => .pure _

variable {scope : Scope}

theorem set_placeholder (made : List Decl) (entry : Entry) (entries : List Entry) (decl : Decl) :
    (made ++ (entry :: entries).map placeholder).set made.length decl =
      (made ++ [decl]) ++ entries.map placeholder := by
  simp

/-- The second pass puts the declarations where the list of them has them. -/
theorem fill_eq (hd : scope.Distinct) (entries : List Entry) {done : List Entry} {made : List Decl}
    (hs : scope.entries = done ++ entries) (hlen : made.length = done.length)
    (links : List (DeclId × DeclId)) (builder : Builder) :
    fill scope entries links { builder with decls := made ++ entries.map placeholder } =
      (placesFrom done.length (entries.take (lowerEntries scope entries builder).1.length),
        (lowerEntries scope entries builder).2.map fun next =>
          (links ++ patternsFrom done.length (lowerEntries scope entries builder).1,
            { next with decls := made ++ (lowerEntries scope entries builder).1 })) := by
  induction entries generalizing done made links builder with
  | nil => simp [fill, lowerEntries, placesFrom, patternsFrom, Except.map]
  | cons entry entries ih =>
    have hself := Scope.resolve_self hd hs
    have hframe := lowerEntry_ignores scope entry builder
      (made ++ (entry :: entries).map placeholder)
    simp only [fill, hself, hframe]
    rw [lowerEntries]
    cases hl : lowerEntry scope entry builder with
    | error fault => rfl
    | ok lowered =>
      obtain ⟨decl, next⟩ := lowered
      have hrest := @ih (done ++ [entry]) (made ++ [decl]) (by simp [hs]) (by simp [hlen])
        (links ++ (pattern? ⟨done.length⟩ decl).toList) next
      simp only [Except.map, Builder.setDecl, ← hlen, set_placeholder]
      simp only [List.length_append, List.length_singleton, List.append_assoc,
        List.singleton_append, ← hlen] at hrest
      simp only [List.append_assoc, List.singleton_append, hrest, List.length_cons,
        List.take_succ_cons, placesFrom_cons, patternsFrom_cons]
      rfl

theorem attachBases_eq (hd : scope.Distinct) (entries : List Entry) {done : List Entry}
    (hs : scope.entries = done ++ entries) (builder : Builder) :
    attachBases scope entries builder = lowerAllBases scope done.length entries builder := by
  induction entries generalizing done builder with
  | nil => rfl
  | cons entry entries ih =>
    have hrest : ∀ next, attachBases scope entries next =
        lowerAllBases scope (done.length + 1) entries next := by
      intro next
      rw [@ih (done ++ [entry]) (by simp [hs]) next, List.length_append, List.length_singleton]
    rw [attachBases, lowerAllBases, Scope.resolve_self hd hs]
    simp only [hrest]
    rfl

theorem firstRepeated_eq_none_iff (seen : List String) (entries : List Entry) :
    firstRepeated seen entries = none ↔
      (entries.map Entry.id).Nodup ∧ ∀ id ∈ entries.map Entry.id, id ∉ seen := by
  induction entries generalizing seen with
  | nil => simp [firstRepeated]
  | cons entry entries ih =>
    by_cases hs : entry.id ∈ seen
    · simp [firstRepeated, hs]
    · rw [firstRepeated, if_neg hs, ih, List.map_cons, List.nodup_cons, List.forall_mem_cons]
      simp only [List.mem_cons, not_or, hs, not_false_eq_true, true_and]
      constructor
      · rintro ⟨hn, hd⟩
        exact ⟨⟨fun hm => (hd _ hm).1 rfl, hn⟩, fun id hm => (hd id hm).2⟩
      · rintro ⟨⟨hm, hn⟩, hd⟩
        exact ⟨hn, fun id hid => ⟨fun he => hm (he ▸ hid), hd id hid⟩⟩

theorem firstRepeated_of_distinct {entries : List Entry} (hd : Scope.Distinct ⟨entries⟩) :
    firstRepeated [] entries = none :=
  (firstRepeated_eq_none_iff [] entries).mpr ⟨hd, fun _ _ => List.not_mem_nil⟩

theorem lower_eq_of_distinct {manifest : Manifest} (hd : Scope.Distinct ⟨manifest.entries⟩) :
    manifest.lower.1 =
      (lowerEntries ⟨manifest.entries⟩ manifest.entries (.empty manifest.unitName)).1 := by
  simp [lower, firstRepeated_of_distinct hd]

/-- Both forms of lowering make the same declarations, in the same places, and come to the same
end. -/
theorem lowerInPlace_eq (manifest : Manifest) :
    manifest.lowerInPlace =
      (placesFrom 0 (manifest.entries.take manifest.lower.1.length), manifest.lower.2) := by
  have hallocate := @allocate_eq manifest.entries [] [] (.empty manifest.unitName)
    (fun _ => by simp) rfl
  have hempty : Scope.tables ⟨[]⟩ = {} := rfl
  rw [hempty] at hallocate
  rw [lowerInPlace, hallocate, lower]
  cases hr : firstRepeated [] manifest.entries with
  | some id => rfl
  | none =>
    have hd : Scope.Distinct ⟨manifest.entries⟩ := ((firstRepeated_eq_none_iff [] _).mp hr).1
    have hfill := @fill_eq _ hd manifest.entries [] [] rfl rfl [] (.empty manifest.unitName)
    have hbases := @attachBases_eq _ hd manifest.entries [] rfl
    simp only [Builder.decls_empty, List.nil_append] at hfill ⊢
    rw [hfill]
    cases (lowerEntries ⟨manifest.entries⟩ manifest.entries (.empty manifest.unitName)).2 with
    | error fault => rfl
    | ok made =>
      simp only [Except.map, Except.bind, hbases]
      rfl

theorem toBuilder_eq_lower (manifest : Manifest) : manifest.toBuilder = manifest.lower.2 := by
  rw [toBuilder, lowerInPlace_eq]

end CppIntrospect.Manifest
