import CppIntrospect.Proofs.LoweringSteps

/-! The passes after the first. Base specifiers are attached to the records of their entries,
each entry's in one run of ids, and a function is marked as the pattern of the first template
that names it. Nothing else of a declaration changes. -/

namespace CppIntrospect.Manifest

/-- A record with further base specifiers; any other declaration as it is. -/
def attach (ids : List BaseId) (decl : Decl) : Decl :=
  match decl.kind with
  | .record record => { decl with kind := .record { record with bases := record.bases ++ ids } }
  | _ => decl

theorem attach_record {decl : Decl} {record : RecordDecl} (h : decl.kind = .record record)
    (ids : List BaseId) :
    attach ids decl =
      { decl with kind := .record { record with bases := record.bases ++ ids } } := by
  simp [attach, h]

theorem attach_of_not_record {decl : Decl} (h : ∀ record, decl.kind ≠ .record record)
    (ids : List BaseId) : attach ids decl = decl := by
  unfold attach
  split
  · next record hk => exact absurd hk (h record)
  · rfl

theorem attach_nil (decl : Decl) : attach [] decl = decl := by
  unfold attach
  split
  · next record hk => rw [List.append_nil, ← hk]
  · rfl

theorem attach_attach (ids more : List BaseId) (decl : Decl) :
    attach more (attach ids decl) = attach (ids ++ more) decl := by
  by_cases hr : ∃ record, decl.kind = .record record
  · obtain ⟨record, hk⟩ := hr
    simp [attach, hk]
  · have hn : ∀ record, decl.kind ≠ .record record := fun record hk => hr ⟨record, hk⟩
    rw [attach_of_not_record hn, attach_of_not_record hn, attach_of_not_record hn]

/-- Consecutive ids of base specifiers. -/
def baseRun (start count : Nat) : List BaseId := (List.range' start count).map BaseId.mk

theorem baseRun_succ (start count : Nat) :
    baseRun start (count + 1) = ⟨start⟩ :: baseRun (start + 1) count := by
  simp [baseRun, List.range'_succ]

/-- A base specifier says what an entry of a manifest says about it. -/
structure MirrorsBase (scope : Scope) (builder : Builder) (entry : Entry) (owner : DeclId)
    (base : BaseEntry) (spec : BaseSpecifier) : Prop where
  type : HoldsType scope builder base.type spec.type
  access : spec.access =
    (base.access.map AccessKeyword.access).getD (defaultAccess entry.kind.tag?)
  isVirtual : spec.isVirtual = base.isVirtual
  owner : spec.owner = owner

variable {scope : Scope} {builder middle next : Builder}

theorem MirrorsBase.mono {entry : Entry} {owner : DeclId} {base : BaseEntry} {spec : BaseSpecifier}
    (h : MirrorsBase scope builder entry owner base spec) (hg : Richer builder next) :
    MirrorsBase scope next entry owner base spec :=
  ⟨h.type.mono hg, h.access, h.isVirtual, h.owner⟩

theorem addBase_record {owner : DeclId} {decl : Decl} {record : RecordDecl}
    (hd : builder.decls[owner.index]? = some decl) (hk : decl.kind = .record record)
    (type : TypeId) (access : Access) (isVirtual : Bool) :
    builder.addBase owner type access isVirtual =
      (.ok ⟨builder.bases.length⟩,
        { builder with
          decls := builder.decls.modify owner.index (attach [⟨builder.bases.length⟩])
          bases := builder.bases ++ [⟨type, access, isVirtual, owner⟩] }) := by
  obtain ⟨name, declAccess, parent, kind⟩ := decl
  obtain rfl : kind = .record record := hk
  have hset : builder.decls.set owner.index ⟨name, declAccess, parent,
        .record { record with bases := record.bases ++ [⟨builder.bases.length⟩] }⟩ =
      builder.decls.modify owner.index (attach [⟨builder.bases.length⟩]) := by
    apply List.ext_getElem?
    intro i
    by_cases hi : owner.index = i
    · subst hi
      obtain ⟨hlt, hget⟩ := List.getElem?_eq_some_iff.mp hd
      simp [hlt, hget, attach]
    · simp [hi]
  simp only [Builder.addBase, hd, Builder.setDecl, hset]

/-- All that lowering some base specifiers of an entry does. -/
structure Attaches (scope : Scope) (entry : Entry) (owner : DeclId) (bases : List BaseEntry)
    (builder next : Builder) : Prop extends Richer builder next where
  name : next.name = builder.name
  decls : next.decls =
    builder.decls.modify owner.index (attach (baseRun builder.bases.length bases.length))
  bases : ∃ added, next.bases = builder.bases ++ added ∧
    List.Forall₂ (MirrorsBase scope next entry owner) bases added

theorem Attaches.nothing (scope : Scope) (entry : Entry) (owner : DeclId) (builder : Builder) :
    Attaches scope entry owner [] builder builder := by
  have hid : attach (baseRun builder.bases.length 0) = id := funext attach_nil
  refine ⟨.refl builder, rfl, ?_, [], by simp, .nil⟩
  show builder.decls = builder.decls.modify owner.index (attach (baseRun builder.bases.length 0))
  rw [hid, List.modify_id]

theorem lowerBases_lowers (entry : Entry) (owner : DeclId) (bases : List BaseEntry)
    (builder : Builder)
    (hrec : bases ≠ [] → ∃ decl record, builder.decls[owner.index]? = some decl ∧
      decl.kind = .record record) :
    Lowers scope (bases.map fun base => .badType entry.id base.type)
      (lowerBases scope entry owner bases builder) (Attaches scope entry owner bases builder) := by
  induction bases generalizing builder with
  | nil => exact ⟨rfl, .nothing scope entry owner builder⟩
  | cons base bases ih =>
    obtain ⟨decl, record, hd, hk⟩ := hrec (List.cons_ne_nil _ _)
    refine (lowerType_lowers entry.id base.type builder).bind fun (type, typed) ⟨hg, ht⟩ => ?_
    have hd' : typed.decls[owner.index]? = some decl := hg.decls ▸ hd
    simp only [addBase_record hd' hk]
    refine (ih _ fun _ => ⟨attach [⟨typed.bases.length⟩] decl, ?_⟩).mono fun next hn => ?_
    · refine ⟨{ record with bases := record.bases ++ [⟨typed.bases.length⟩] }, ?_, ?_⟩
      · simp [hd']
      · simp [attach_record hk]
    · obtain ⟨added, hadded, hmirror⟩ := hn.bases
      have hr : Richer typed next := ⟨hn.types, hn.exprs⟩
      refine ⟨hg.toRicher.trans hr, hn.name.trans hg.name, ?_, ?_⟩
      · have hcomp : attach (baseRun (typed.bases.length + 1) bases.length) ∘
              attach [⟨typed.bases.length⟩] =
            attach (baseRun typed.bases.length (bases.length + 1)) :=
          funext fun decl => by simp [attach_attach, baseRun_succ]
        rw [hn.decls, List.length_append, List.length_singleton, List.modify_modify_eq, hcomp,
          hg.decls, hg.bases, List.length_cons]
      · have hbase : MirrorsBase scope next entry owner base
            ⟨type, (base.access.map AccessKeyword.access).getD (defaultAccess entry.kind.tag?),
              base.isVirtual, owner⟩ := ⟨ht.mono hr, rfl, rfl, rfl⟩
        refine ⟨_ :: added, ?_, .cons hbase hmirror⟩
        rw [hadded, List.append_assoc, hg.bases]
        rfl

/-- The number of base specifiers written on the entries before a position. -/
def baseOffset (entries : List Entry) (position : Nat) : Nat :=
  ((entries.take position).flatMap (·.kind.bases)).length

theorem baseOffset_succ (entry : Entry) (entries : List Entry) (position : Nat) :
    baseOffset (entry :: entries) (position + 1) =
      entry.kind.bases.length + baseOffset entries position := by
  simp [baseOffset]

def Entry.baseRisks (entry : Entry) : List ManifestError :=
  entry.kind.bases.map fun base => .badType entry.id base.type

/-- All that lowering the base specifiers of entries from a position on does. -/
structure AttachesAll (scope : Scope) (start : Nat) (entries : List Entry)
    (builder next : Builder) : Prop extends Richer builder next where
  name : next.name = builder.name
  length : next.decls.length = builder.decls.length
  before : ∀ i, i < start → next.decls[i]? = builder.decls[i]?
  decls : ∀ (i : Nat) (entry : Entry), entries[i]? = some entry → next.decls[start + i]? =
    builder.decls[start + i]?.map (attach
      (baseRun (builder.bases.length + baseOffset entries i) entry.kind.bases.length))
  kept : builder.bases <+: next.bases
  bases_length : next.bases.length =
    builder.bases.length + baseOffset entries entries.length
  bases : ∀ (i : Nat) (entry : Entry) (j : Nat) (base : BaseEntry), entries[i]? = some entry →
    entry.kind.bases[j]? = some base →
    ∃ spec, next.bases[builder.bases.length + baseOffset entries i + j]? = some spec ∧
      MirrorsBase scope next entry ⟨start + i⟩ base spec

theorem Attaches.getElem?_ne {entry : Entry} {owner : DeclId} {bases : List BaseEntry}
    (h : Attaches scope entry owner bases builder next) {i : Nat} (hi : owner.index ≠ i) :
    next.decls[i]? = builder.decls[i]? := by
  rw [h.decls, List.getElem?_modify]
  simp [hi]

theorem AttachesAll.cons {entry : Entry} {entries : List Entry} {start : Nat}
    (h : Attaches scope entry ⟨start⟩ entry.kind.bases builder middle)
    (hs : AttachesAll scope (start + 1) entries middle next) :
    AttachesAll scope start (entry :: entries) builder next := by
  obtain ⟨added, hadded, hmirror⟩ := h.bases
  have hlen : middle.bases.length = builder.bases.length + entry.kind.bases.length := by
    rw [hadded, List.length_append, hmirror.length_eq]
  have hoffset : ∀ i, middle.bases.length + baseOffset entries i =
      builder.bases.length + baseOffset (entry :: entries) (i + 1) := by
    intro i
    rw [baseOffset_succ]
    omega
  refine ⟨h.toRicher.trans hs.toRicher, hs.name.trans h.name, ?_, ?_, ?_, ?_, ?_, ?_⟩
  · rw [hs.length, h.decls, List.length_modify]
  · intro i hi
    rw [hs.before i (by omega), h.getElem?_ne (by show start ≠ i; omega)]
  · intro i later hi
    cases i with
    | zero =>
      obtain rfl : entry = later := by simpa using hi
      rw [hs.before _ (by omega), h.decls, List.getElem?_modify]
      simp [baseOffset]
    | succ i =>
      have hstart : start + (i + 1) = start + 1 + i := by omega
      rw [hstart, hs.decls i later (by simpa using hi), hoffset,
        h.getElem?_ne (by show start ≠ _; omega)]
  · exact (hadded ▸ List.prefix_append _ _ : builder.bases <+: middle.bases).trans hs.kept
  · rw [hs.bases_length, hoffset, List.length_cons]
  · intro i later j base hi hj
    cases i with
    | zero =>
      obtain rfl : entry = later := by simpa using hi
      obtain ⟨hlt, rfl⟩ := List.getElem?_eq_some_iff.mp hj
      have hlt' : j < added.length := hmirror.length_eq ▸ hlt
      refine ⟨added[j], getElem?_extend hs.kept ?_, ?_⟩
      · simp [hadded, baseOffset, hlt']
      · exact (hmirror.get hlt hlt').mono hs.toRicher
    | succ i =>
      rw [← hoffset, show start + (i + 1) = start + 1 + i by omega]
      exact hs.bases i later j base (by simpa using hi) hj

theorem lowerAllBases_lowers (entries : List Entry) (start : Nat) (builder : Builder)
    (hrec : ∀ (i : Nat) (entry : Entry), entries[i]? = some entry → entry.kind.bases ≠ [] →
      ∃ decl record, builder.decls[start + i]? = some decl ∧ decl.kind = .record record) :
    Lowers scope (entries.flatMap Entry.baseRisks) (lowerAllBases scope start entries builder)
      (AttachesAll scope start entries builder) := by
  induction entries generalizing start builder with
  | nil =>
    exact ⟨rfl, ⟨.refl builder, rfl, rfl, fun _ _ => rfl, by simp, List.prefix_rfl,
      by simp [baseOffset], by simp⟩⟩
  | cons entry entries ih =>
    have hhead := @lowerBases_lowers scope entry ⟨start⟩ entry.kind.bases builder
      (hrec 0 entry rfl)
    refine hhead.bind fun middle hm => (ih (start + 1) middle fun i later hi hne => ?_).mono
      fun next hn => .cons hm hn
    have hh := hrec (i + 1) later (by simpa using hi) hne
    rw [hm.getElem?_ne (by show start ≠ _; omega)]
    rwa [show start + 1 + i = start + (i + 1) by omega]

theorem markPattern_markPattern (template other : DeclId) (decl : Decl) :
    markPattern other (markPattern template decl) = markPattern template decl := by
  by_cases hf : ∃ function, decl.kind = .function function ∧ function.templating = .nonTemplate
  · obtain ⟨function, hk, hn⟩ := hf
    simp [markPattern, hk, hn]
  · have hsame : ∀ template, markPattern template decl = decl := by
      intro template
      unfold markPattern
      split
      · next function hk =>
        split
        · next hn => exact absurd ⟨function, hk, hn⟩ hf
        · rfl
      · rfl
    rw [hsame template, hsame other]

/-- The mark that the first link to a declaration leaves on it. -/
def markFirst (links : List (DeclId × DeclId)) (id : DeclId) (decl : Decl) : Decl :=
  match links.find? (·.1 == id) with
  | some link => markPattern link.2 decl
  | none => decl

theorem markFirst_cons (link : DeclId × DeclId) (links : List (DeclId × DeclId)) (id : DeclId)
    (decl : Decl) :
    markFirst (link :: links) id decl =
      if link.1 = id then markPattern link.2 decl else markFirst links id decl := by
  by_cases hi : link.1 = id <;> simp [markFirst, hi]

/-- Once a declaration is marked, later marks have no effect. -/
theorem markFirst_markPattern (links : List (DeclId × DeclId)) (id template : DeclId)
    (decl : Decl) : markFirst links id (markPattern template decl) = markPattern template decl := by
  unfold markFirst
  split
  · exact markPattern_markPattern template _ decl
  · rfl

theorem foldl_mark_getElem? (links : List (DeclId × DeclId)) (decls : List Decl) (i : Nat) :
    (links.foldl (fun decls link => decls.modify link.1.index (markPattern link.2)) decls)[i]? =
      decls[i]?.map (markFirst links ⟨i⟩) := by
  induction links generalizing decls with
  | nil =>
    have hid : markFirst [] ⟨i⟩ = id := rfl
    simp [hid]
  | cons link links ih =>
    rw [List.foldl_cons, ih, List.getElem?_modify, Option.map_eq_map, Option.map_map]
    congr 1
    funext decl
    by_cases hi : link.1.index = i
    · simp [markFirst_cons, markFirst_markPattern, ← hi]
    · have hne : link.1 ≠ ⟨i⟩ := fun he => hi (congrArg DeclId.index he)
      simp [markFirst_cons, hi, hne]

theorem length_foldl_mark (links : List (DeclId × DeclId)) (decls : List Decl) :
    (links.foldl (fun decls link => decls.modify link.1.index (markPattern link.2)) decls).length =
      decls.length := by
  induction links generalizing decls with
  | nil => rfl
  | cons link links ih => rw [List.foldl_cons, ih, List.length_modify]

theorem markPatterns_eq (links : List (DeclId × DeclId)) (builder : Builder) :
    markPatterns links builder = { builder with
      decls := links.foldl
        (fun decls link => decls.modify link.1.index (markPattern link.2)) builder.decls } := by
  unfold markPatterns
  induction links generalizing builder with
  | nil => rfl
  | cons link links ih => exact ih _

/-- The possible faults of a manifest with distinct ids, in the order of the passes. -/
def risks (manifest : Manifest) : List ManifestError :=
  manifest.entries.flatMap Entry.risks ++ manifest.entries.flatMap Entry.baseRisks

/-- All that lowering a manifest does. -/
structure Lowered (manifest : Manifest) (builder : Builder) : Prop where
  name : builder.name = manifest.unitName
  length : builder.decls.length = manifest.entries.length
  decls : ∀ (i : Nat) (entry : Entry), manifest.entries[i]? = some entry →
    ∃ first, manifest.lower.1[i]? = some first ∧ Mirrors ⟨manifest.entries⟩ builder entry first ∧
      listedBases first.kind = [] ∧
      builder.decls[i]? = some (markFirst (patterns manifest.lower.1) ⟨i⟩
        (attach (baseRun (baseOffset manifest.entries i) entry.kind.bases.length) first))
  bases_length : builder.bases.length = baseOffset manifest.entries manifest.entries.length
  bases : ∀ (i : Nat) (entry : Entry) (j : Nat) (base : BaseEntry),
    manifest.entries[i]? = some entry → entry.kind.bases[j]? = some base →
    ∃ spec, builder.bases[baseOffset manifest.entries i + j]? = some spec ∧
      MirrorsBase ⟨manifest.entries⟩ builder entry ⟨i⟩ base spec

theorem MirrorsKind.record_of_bases {entry : EntryKind} {kind : DeclKind}
    (h : MirrorsKind scope builder entry kind) (hne : entry.bases ≠ []) :
    ∃ record, kind = .record record := by
  cases h with
  | record => exact ⟨_, rfl⟩
  | partialSpecialization => exact ⟨_, rfl⟩
  | specialization => exact ⟨_, rfl⟩
  | _ => exact absurd rfl hne

theorem lowered_of_passes {manifest : Manifest} {made based : Builder}
    (hname : made.name = manifest.unitName) (hnone : made.bases = [])
    (hm : List.Forall₂
      (fun entry decl => Mirrors ⟨manifest.entries⟩ made entry decl ∧ listedBases decl.kind = [])
      manifest.entries manifest.lower.1)
    (hb : AttachesAll ⟨manifest.entries⟩ 0 manifest.entries
      { made with decls := manifest.lower.1 } based) :
    Lowered manifest (markPatterns (patterns manifest.lower.1) based) := by
  have hlen : based.decls.length = manifest.entries.length := hb.length.trans hm.length_eq.symm
  have hget : ∀ (i : Nat) (entry : Entry), manifest.entries[i]? = some entry →
      based.decls[i]? = manifest.lower.1[i]?.map
        (attach (baseRun (baseOffset manifest.entries i) entry.kind.bases.length)) := by
    intro i entry hi
    simpa [hnone] using hb.decls i entry hi
  have hrich : Richer made (markPatterns (patterns manifest.lower.1) based) := by
    rw [markPatterns_eq]
    exact ⟨hb.types, hb.exprs⟩
  have hsame : Richer based (markPatterns (patterns manifest.lower.1) based) := by
    rw [markPatterns_eq]
    exact ⟨List.prefix_rfl, List.prefix_rfl⟩
  have hdecls : ∀ i, (markPatterns (patterns manifest.lower.1) based).decls[i]? =
      based.decls[i]?.map (markFirst (patterns manifest.lower.1) ⟨i⟩) := by
    intro i
    rw [markPatterns_eq]
    exact foldl_mark_getElem? _ _ i
  refine ⟨?_, ?_, ?_, ?_, ?_⟩
  · rw [markPatterns_eq]
    exact hb.name.trans hname
  · rw [markPatterns_eq, length_foldl_mark, hlen]
  · intro i entry hi
    obtain ⟨hlt, rfl⟩ := List.getElem?_eq_some_iff.mp hi
    have hlt' : i < manifest.lower.1.length := hm.length_eq ▸ hlt
    obtain ⟨hmirror, hbare⟩ := hm.get hlt hlt'
    refine ⟨_, List.getElem?_eq_getElem hlt', hmirror.mono hrich, hbare, ?_⟩
    rw [hdecls, hget i _ hi, List.getElem?_eq_getElem hlt']
    rfl
  · rw [markPatterns_eq]
    simpa [hnone] using hb.bases_length
  · intro i entry j base hi hj
    obtain ⟨spec, hs, hmirror⟩ := hb.bases i entry j base hi hj
    refine ⟨spec, ?_, by simpa using hmirror.mono hsame⟩
    rw [markPatterns_eq]
    simpa [hnone] using hs

theorem toBuilder_lowers {manifest : Manifest} (hd : Scope.Distinct ⟨manifest.entries⟩) :
    Lowers ⟨manifest.entries⟩ manifest.risks manifest.toBuilder (Lowered manifest) := by
  have hrep := firstRepeated_of_distinct hd
  have hfirst := lowerEntries_lowers hd manifest.entries (.empty manifest.unitName)
  have hlower := lower_eq_of_distinct hd
  have heq : manifest.toBuilder = (lowerEntries ⟨manifest.entries⟩ manifest.entries
      (.empty manifest.unitName)).2 >>= fun builder =>
        (lowerAllBases ⟨manifest.entries⟩ 0 manifest.entries
          { builder with decls := manifest.lower.1 }).map
            (markPatterns (patterns manifest.lower.1)) := by
    rw [toBuilder_eq_lower, hlower]
    simp only [lower, hrep]
    rfl
  rw [heq, risks]
  refine hfirst.bind fun made hmade => ?_
  obtain ⟨hg, hm⟩ := hmade
  rw [← hlower] at hm
  have hbases := @lowerAllBases_lowers ⟨manifest.entries⟩ manifest.entries 0
    { made with decls := manifest.lower.1 } ?_
  · exact hbases.map fun based hb => lowered_of_passes hg.name hg.bases hm hb
  · intro i entry hi hne
    obtain ⟨hlt, rfl⟩ := List.getElem?_eq_some_iff.mp hi
    have hlt' : i < manifest.lower.1.length := hm.length_eq ▸ hlt
    obtain ⟨record, hk⟩ := (hm.get hlt hlt').1.kind.record_of_bases hne
    exact ⟨_, record, by simp [hlt'], hk⟩

/-- The kind as it was, but for the base specifiers of a record and the mark of a pattern. -/
inductive KeepsKind : DeclKind → DeclKind → Prop
  | same (kind : DeclKind) : KeepsKind kind kind
  | bases (record : RecordDecl) (bases : List BaseId) :
    KeepsKind (.record record) (.record { record with bases })
  | pattern (function : FunctionDecl) (template : DeclId) (h : function.templating = .nonTemplate) :
    KeepsKind (.function function) (.function { function with templating := .pattern template })

structure Keeps (first final : Decl) : Prop where
  name : final.name = first.name
  access : final.access = first.access
  parent : final.parent = first.parent
  kind : KeepsKind first.kind final.kind

theorem markFirst_of_not_function {decl : Decl} (h : ∀ function, decl.kind ≠ .function function)
    (links : List (DeclId × DeclId)) (id : DeclId) : markFirst links id decl = decl := by
  have hmark : ∀ template, markPattern template decl = decl := by
    intro template
    unfold markPattern
    split
    · next function hk => exact absurd hk (h function)
    · rfl
  unfold markFirst
  split
  · exact hmark _
  · rfl

theorem keeps_markPattern (template : DeclId) (decl : Decl) :
    Keeps decl (markPattern template decl) := by
  unfold markPattern
  split
  · next function hk =>
    split
    · next hn => exact ⟨rfl, rfl, rfl, hk ▸ .pattern function template hn⟩
    · exact ⟨rfl, rfl, rfl, .same _⟩
  · exact ⟨rfl, rfl, rfl, .same _⟩

theorem keeps_finish (links : List (DeclId × DeclId)) (id : DeclId) (ids : List BaseId)
    (first : Decl) : Keeps first (markFirst links id (attach ids first)) := by
  by_cases hr : ∃ record, first.kind = .record record
  · -- A record gets base specifiers and no mark.
    obtain ⟨record, hk⟩ := hr
    rw [markFirst_of_not_function (by simp [attach_record hk]), attach_record hk]
    exact ⟨rfl, rfl, rfl, hk ▸ .bases record _⟩
  · rw [attach_of_not_record fun record hk => hr ⟨record, hk⟩]
    unfold markFirst
    split
    · exact keeps_markPattern _ first
    · exact ⟨rfl, rfl, rfl, .same _⟩

/-- A record lists what was attached, if it listed nothing before. -/
theorem listedBases_finish (links : List (DeclId × DeclId)) (id : DeclId) {ids : List BaseId}
    {first : Decl} (hb : listedBases first.kind = [])
    (hr : ids ≠ [] → ∃ record, first.kind = .record record) :
    listedBases (markFirst links id (attach ids first)).kind = ids := by
  by_cases hrec : ∃ record, first.kind = .record record
  · obtain ⟨record, hk⟩ := hrec
    rw [hk] at hb
    rw [markFirst_of_not_function (by simp [attach_record hk]), attach_record hk]
    simpa [listedBases] using hb
  · have hnil : ids = [] := by
      by_contra hne
      exact hrec (hr hne)
    have hkeep := (keeps_finish links id ids first).kind
    generalize (markFirst links id (attach ids first)).kind = final at hkeep
    generalize first.kind = kind at hb hrec hkeep
    cases hkeep with
    | same => rw [hb, hnil]
    | bases record => exact absurd ⟨record, rfl⟩ hrec
    | pattern => exact hnil.symm

theorem MirrorsKind.keeps {entry : EntryKind} {kind final : DeclKind}
    (h : MirrorsKind scope builder entry kind) (hk : KeepsKind kind final) :
    MirrorsKind scope builder entry final := by
  cases hk with
  | same => exact h
  | bases record bases =>
    cases h with
    | record h => exact .record h
    | partialSpecialization h hp ha => exact .partialSpecialization h hp ha
    | specialization h ha => exact .specialization h ha
  | pattern function template hn =>
    cases h with
    | function h hp ht =>
      cases ht with
      | nonTemplate hs ho hc => exact .function h hp (.pattern hs ho hc)
      | _ => cases hn

theorem Mirrors.keeps {entry : Entry} {first final : Decl} (h : Mirrors scope builder entry first)
    (hk : Keeps first final) : Mirrors scope builder entry final :=
  ⟨hk.name.trans h.name, hk.access.trans h.access, hk.parent ▸ h.parent, h.kind.keeps hk.kind⟩

theorem distinct_of_toBuilder {manifest : Manifest} (h : manifest.toBuilder = .ok builder) :
    Scope.Distinct ⟨manifest.entries⟩ := by
  cases hr : firstRepeated [] manifest.entries with
  | none => exact ((firstRepeated_eq_none_iff [] _).mp hr).1
  | some id => simp [toBuilder_eq_lower, lower, hr] at h

theorem lowered_of_toBuilder {manifest : Manifest} (h : manifest.toBuilder = .ok builder) :
    Lowered manifest builder := by
  have hl := toBuilder_lowers (distinct_of_toBuilder h)
  rw [h] at hl
  exact hl.2

end CppIntrospect.Manifest
