import CppIntrospect.Proofs.TypeSpelling

/-! Writing a type that was read from a text, and reading it again. A `const` right in front
of a declarator is read as a name. The spelling puts a blank between the two, and one more
declarator without a mark then takes that `const` for its own. No other type is lost. -/

namespace CppIntrospect.Text

variable {s r : List Char}

theorem trimEnd_prefix (s : List Char) : trimEnd s <+: s := by
  rw [trimEnd, ← List.reverse_suffix, List.reverse_reverse]
  exact List.dropWhile_suffix isBlank

theorem isBlank_head_trim {c : Char} (h : (trim s).head? = some c) : isBlank c = false := by
  have hh := List.head?_dropWhile_not isBlank s
  obtain ⟨t, ht⟩ := trimEnd_prefix (trimStart s)
  have hs : (s.dropWhile isBlank).head? = some c := by
    change (trimStart s).head? = some c
    rw [← ht, List.head?_append]
    change (trim s).head?.or t.head? = some c
    rw [h, Option.some_or]
  rwa [hs] at hh

/-- A beginning of a trimmed text has nothing to trim at its front. -/
theorem trim_prefix (h : r <+: trim s) : trim r <+: trim s := by
  have hr : trimStart r = r := by
    cases r with
    | nil => rfl
    | cons c r =>
      obtain ⟨t, ht⟩ := h
      have hc : (trim s).head? = some c := by rw [← ht]; rfl
      exact dropWhile_isBlank_of_head ⟨c, rfl, isBlank_head_trim hc⟩
  have hp : trim r <+: r := by
    rw [trim, hr]
    exact trimEnd_prefix r
  exact hp.trans h

theorem trim_trim (s : List Char) : trim (trim s) = trim s := by
  cases hs : trim s with
  | nil => rfl
  | cons c t =>
    have hl := List.getLast?_eq_some_getLast (List.cons_ne_nil c t)
    exact trim_of_bare ⟨⟨c, rfl, isBlank_head_trim (s := s) (by rw [hs]; rfl)⟩,
      ⟨_, hl, isBlank_getLast_trim (s := s) (by rw [hs]; exact hl)⟩⟩

end CppIntrospect.Text

namespace CppIntrospect.CppType

open Text

/-- What stands at the end of a spelling and may have a mark at its beginning. -/
inductive Declarator where
  | pointer
  | lvalue
  | rvalue
  deriving DecidableEq, Repr

namespace Declarator

def chars : Declarator → List Char
  | pointer => ['*']
  | lvalue => ['&']
  | rvalue => ['&', '&']

def wrap : Declarator → CppType → Bool → CppType
  | pointer, inner, isConst => .pointer inner isConst
  | lvalue, inner, isConst => .reference inner isConst false
  | rvalue, inner, isConst => .reference inner isConst true

variable (d : Declarator) (inner : CppType) (isConst : Bool)

theorem leaf_wrap : (d.wrap inner isConst).leaf = inner.leaf := by cases d <;> rfl

theorem chars_wrap :
    (d.wrap inner isConst).chars = constMark isConst ++ inner.chars ++ [' '] ++ d.chars := by
  cases d <;> simp [wrap, CppType.chars, chars]

theorem bare_chars : Bare d.chars := by
  cases d <;> exact ⟨⟨_, rfl, by decide⟩, ⟨_, rfl, by decide⟩⟩

theorem parseChars_append (s : List Char) :
    parseChars (s ++ [' '] ++ d.chars) =
      (parseChars (stripConst (s ++ [' '])).1).map (d.wrap · (stripConst (s ++ [' '])).2) := by
  cases d with
  | pointer => exact parseChars_pointer (s ++ [' '])
  | lvalue => exact parseChars_lvalue s
  | rvalue => exact parseChars_rvalue (s ++ [' '])

/-- A declarator needs something to stand over. -/
theorem parseChars_chars : parseChars d.chars = none := by
  have ht : trim ([] ++ [' '] ++ d.chars) = trim d.chars := by
    simp [trim, trimStart, show isBlank ' ' = true by decide]
  have he : parseChars (stripConst ([] ++ [' '])).1 = none := by
    rw [parseChars_eq]
    rfl
  rw [← parseChars_of_trim_eq ht, parseChars_append, he, Option.map_none]

theorem marksClear_wrap :
    MarksClear (d.wrap inner isConst) ↔
      (isConst = false → ¬ constMark true <+: inner.chars) ∧ MarksClear inner := by
  cases d with
  | pointer => exact marksClear_pointer inner isConst
  | lvalue => exact marksClear_reference inner isConst false
  | rvalue => exact marksClear_reference inner isConst true

theorem overPlainLeaf_wrap : OverPlainLeaf (d.wrap inner isConst) ↔ OverPlainLeaf inner := by
  simp only [OverPlainLeaf, leaf_wrap]

end Declarator

/-- Pointers and references of both sorts are one case: a declarator. -/
theorem layer_induction {motive : CppType → Prop} (builtin : ∀ b, motive (builtin b))
    (named : ∀ name, motive (named name))
    (templateParam : ∀ name depth index, motive (templateParam name depth index))
    (wrap : ∀ (d : Declarator) inner isConst, motive inner → motive (d.wrap inner isConst))
    (array : ∀ element size, motive element → motive (array element size)) (type : CppType) :
    motive type := by
  induction type with
  | builtin b => exact builtin b
  | named name => exact named name
  | templateParam name depth index => exact templateParam name depth index
  | pointer pointee isConst ih => exact wrap .pointer pointee isConst ih
  | reference referent isConst isRvalue ih =>
    cases isRvalue with
    | false => exact wrap .lvalue referent isConst ih
    | true => exact wrap .rvalue referent isConst ih
  | array element size ih => exact array element size ih

theorem chars_array (element : CppType) (size : Option UInt64) :
    ∃ digits, '[' ∉ digits ∧
      (array element size).chars = element.chars ++ '[' :: digits ++ [']'] := by
  cases size with
  | none => exact ⟨[], by simp, by simp [chars]⟩
  | some n =>
    have hd : '[' ∉ Nat.toDigits 10 n.toNat := fun hm => by simpa using isDigit_of_mem_toDigits hm
    exact ⟨Nat.toDigits 10 n.toNat, hd, by simp [chars]⟩

/-- How a text is taken apart when a type is read from it. -/
inductive Reads : List Char → CppType → Prop
  | leaf {s : List Char} {type : CppType} : parseLeaf (trim s) = some type → Reads s type
  | wrap {s r : List Char} {inner : CppType} (d : Declarator) : trim s = r ++ d.chars →
    Reads (stripConst r).1 inner → Reads s (d.wrap inner (stripConst r).2)
  | array {s r digits : List Char} {element : CppType} {size : Option UInt64} :
    trim s = r ++ '[' :: digits ++ [']'] → parseSize digits = some size → Reads r element →
    Reads s (array element size)

theorem reads_of_parseChars {s : List Char} {type : CppType} (h : parseChars s = some type) :
    Reads s type := by
  fun_induction parseChars s generalizing type with
  | case1 s _ => cases h
  | case2 s r hs _ ih =>
    obtain ⟨inner, hi, rfl⟩ := Option.map_eq_some_iff.mp h
    exact .wrap .rvalue (by simpa [Declarator.chars] using List.reverse_eq_iff.mp hs) (ih hi)
  | case3 s r _ hs _ ih =>
    obtain ⟨inner, hi, rfl⟩ := Option.map_eq_some_iff.mp h
    exact .wrap .lvalue (by simpa [Declarator.chars] using List.reverse_eq_iff.mp hs) (ih hi)
  | case4 s r hs _ ih =>
    obtain ⟨inner, hi, rfl⟩ := Option.map_eq_some_iff.mp h
    exact .wrap .pointer (by simpa [Declarator.chars] using List.reverse_eq_iff.mp hs) (ih hi)
  | case5 s r hs c element size hd hz _ ih =>
    obtain ⟨inner, hi, rfl⟩ := Option.map_eq_some_iff.mp h
    obtain rfl : c = '[' := by
      have hh := List.head?_dropWhile_not (· != '[') r
      rw [hd] at hh
      simpa using hh
    have hr : r = r.takeWhile (· != '[') ++ '[' :: element := by
      rw [← hd, List.takeWhile_append_dropWhile]
    have ht : trim s = element.reverse ++ '[' :: (r.takeWhile (· != '[')).reverse ++ [']'] := by
      calc
        trim s = r.reverse ++ [']'] := by simpa using List.reverse_eq_iff.mp hs
        _ = _ := by
          nth_rewrite 1 [hr]
          simp
    exact .array ht hz (ih hi)
  | case6 => cases h
  | case7 s => exact .leaf h

/-- The spelling begins with a name `const` and the blank of the declarator over it. -/
def StartsWithConstName : CppType → Prop
  | pointer pointee isConst =>
    isConst = false ∧ (pointee = named "const" ∨ pointee.StartsWithConstName)
  | reference referent isConst _ =>
    isConst = false ∧ (referent = named "const" ∨ referent.StartsWithConstName)
  | array element _ => element.StartsWithConstName
  | _ => False

/-- A declarator without a mark stands over a name `const` that looks like its mark. -/
def LosesConstName : CppType → Prop
  | pointer pointee isConst =>
    isConst = false ∧ pointee.StartsWithConstName ∨ pointee.LosesConstName
  | reference referent isConst _ =>
    isConst = false ∧ referent.StartsWithConstName ∨ referent.LosesConstName
  | array element _ => element.LosesConstName
  | _ => False

variable {type inner : CppType} {d : Declarator} {isConst : Bool} {s t : List Char}

theorem startsWithConstName_wrap : StartsWithConstName (d.wrap inner isConst) ↔
    isConst = false ∧ (inner = named "const" ∨ inner.StartsWithConstName) := by
  cases d <;> rfl

theorem losesConstName_wrap : LosesConstName (d.wrap inner isConst) ↔
    isConst = false ∧ inner.StartsWithConstName ∨ inner.LosesConstName := by
  cases d <;> rfl

theorem StartsWithConstName.leaf_eq (h : type.StartsWithConstName) :
    type.leaf = named "const" := by
  induction type using layer_induction with
  | builtin b => exact h.elim
  | named name => exact h.elim
  | templateParam name depth index => exact h.elim
  | wrap d inner isConst ih =>
    obtain ⟨-, rfl | hs⟩ := startsWithConstName_wrap.mp h
    · exact d.leaf_wrap _ _
    · rw [d.leaf_wrap, ih hs]
  | array element size ih => exact ih h

theorem LosesConstName.leaf_eq (h : type.LosesConstName) : type.leaf = named "const" := by
  induction type using layer_induction with
  | builtin b => exact h.elim
  | named name => exact h.elim
  | templateParam name depth index => exact h.elim
  | wrap d inner isConst ih =>
    rw [d.leaf_wrap]
    rcases losesConstName_wrap.mp h with ⟨-, hs⟩ | hl
    · exact hs.leaf_eq
    · exact ih hl
  | array element size ih => exact ih h

/-- Without the `const`, only declarators are left of such a spelling. -/
theorem StartsWithConstName.chars_eq (h : type.StartsWithConstName) :
    ∃ rest, type.chars = constMark true ++ rest ∧ Bare rest ∧ rest.head? ≠ some 'c' ∧
      parseChars rest = none := by
  induction type using layer_induction with
  | builtin b => exact h.elim
  | named name => exact h.elim
  | templateParam name depth index => exact h.elim
  | wrap d inner isConst ih =>
    obtain ⟨rfl, rfl | hs⟩ := startsWithConstName_wrap.mp h
    · refine ⟨d.chars, by simp [d.chars_wrap, chars, constMark], d.bare_chars, ?_,
        d.parseChars_chars⟩
      cases d <;> simp [Declarator.chars]
    · obtain ⟨rest, he, hb, hc, hp⟩ := ih hs
      obtain ⟨c, hh, -⟩ := hb.head
      have hm : ¬ constMark true <+: rest := by
        rintro ⟨r, hr⟩
        exact hc (by rw [← hr]; rfl)
      refine ⟨rest ++ [' '] ++ d.chars, by simp [d.chars_wrap, he], hb.join [' '] d.bare_chars,
        by simpa [hh] using hc, ?_⟩
      rw [d.parseChars_append, stripConst_unmarked hb hm, hp, Option.map_none]
  | array element size ih =>
    obtain ⟨rest, he, hb, hc, hp⟩ := ih h
    obtain ⟨digits, hd, ha⟩ := chars_array element size
    obtain ⟨c, hh, -⟩ := hb.head
    refine ⟨rest ++ '[' :: digits ++ [']'], by simp [ha, he],
      hb.join ('[' :: digits) (bare_singleton (by decide)), by simpa [hh] using hc, ?_⟩
    rw [parseChars_array rest hd, hp]
    cases parseSize digits <;> rfl

theorem constMark_prefix_append {c : Char} (h : constMark true <+: s ++ c :: t) :
    constMark true <+: s ∨ s ++ [c] <+: constMark true := by
  have hp : s ++ [c] <+: s ++ c :: t := ⟨t, by simp⟩
  rcases List.prefix_or_prefix_of_prefix h hp with h | h
  · rcases List.prefix_concat_iff.mp h with h | h
    · exact .inr (h ▸ List.prefix_rfl)
    · exact .inl h
  · exact .inr h

theorem constMark_prefix_bracket (h : constMark true <+: s ++ '[' :: t) :
    constMark true <+: s := by
  rcases constMark_prefix_append h with h | h
  · exact h
  · have hm : '[' ∈ constMark true := h.subset (by simp)
    simp [constMark] at hm

theorem constMark_prefix_blank (h : constMark true <+: s ++ ' ' :: t) :
    constMark true <+: s ∨ s = ['c', 'o', 'n', 's', 't'] := by
  refine (constMark_prefix_append h).imp id fun h => ?_
  have hmark : constMark true = ['c', 'o', 'n', 's', 't'] ++ [' '] := rfl
  rcases List.prefix_concat_iff.mp (hmark ▸ h) with h | h
  · exact (List.append_inj' h rfl).1
  · have hm : ' ' ∈ ['c', 'o', 'n', 's', 't'] := h.subset (by simp)
    simp at hm

theorem not_const_prefix_builtin (b : Builtin) :
    ¬ ['c', 'o', 'n', 's', 't'] <+: (builtin b).chars := by
  cases b with
  | integer width signed => cases width <;> cases signed <;> decide
  | _ => decide

theorem stripConst_cases (s : List Char) :
    (stripConst s).2 = true ∧ constMark true <+: trim s ∨
      stripConst s = (trim s, false) ∧ ¬ constMark true <+: trim s := by
  unfold stripConst
  split
  · next rest h => exact .inl ⟨rfl, rest, by rw [h]; rfl⟩
  · next h => exact .inr ⟨rfl, fun ⟨rest, hr⟩ => h rest hr.symm⟩

namespace Reads

theorem eq_named_const (h : Reads s type) (hc : type.chars = ['c', 'o', 'n', 's', 't']) :
    type = named "const" := by
  cases h with
  | leaf hl =>
    rcases parseLeaf_eq_some hl with ⟨b, rfl⟩ | ⟨rfl, -, -⟩
    · exact absurd (hc ▸ List.prefix_rfl) (not_const_prefix_builtin b)
    · have hn : trim s = ['c', 'o', 'n', 's', 't'] := by simpa [chars] using hc
      rw [hn]
  | wrap d _ _ =>
    have hl := congrArg List.getLast? hc
    cases d <;> simp [Declarator.chars_wrap, Declarator.chars] at hl
  | @array _ _ _ element size _ _ _ =>
    obtain ⟨digits, -, ha⟩ := chars_array element size
    have hl := congrArg List.getLast? (ha.symm.trans hc)
    rw [List.getLast?_concat] at hl
    simp at hl

/-- A spelling that begins with `const` and a blank has them from the text, or from a name
`const` under a declarator. -/
theorem const_prefix (h : Reads s type) (hp : constMark true <+: type.chars) :
    constMark true <+: trim s ∨ type.StartsWithConstName := by
  induction h with
  | leaf hl =>
    rcases parseLeaf_eq_some hl with ⟨b, rfl⟩ | ⟨rfl, -, -⟩
    · exact absurd (List.IsPrefix.trans ⟨[' '], rfl⟩ hp) (not_const_prefix_builtin b)
    · exact .inl (by simpa [chars] using hp)
  | @wrap s r inner d ht hr ih =>
    have hrs : trim r <+: trim s := trim_prefix ⟨d.chars, ht.symm⟩
    rcases stripConst_cases r with ⟨-, hm⟩ | ⟨he, hm⟩
    · exact .inl (hm.trans hrs)
    · rw [he, trim_trim] at ih
      rw [he, d.chars_wrap] at hp
      rw [he, startsWithConstName_wrap]
      rcases constMark_prefix_blank (t := d.chars) (by simpa using hp) with hi | hi
      · exact .inr ⟨rfl, .inr ((ih hi).resolve_left hm)⟩
      · exact .inr ⟨rfl, .inl (hr.eq_named_const hi)⟩
  | @array s r _ element size ht hz hr ih =>
    obtain ⟨digits, -, ha⟩ := chars_array element size
    have hrs : trim r <+: trim s := trim_prefix ⟨_, by rw [ht, List.append_assoc]⟩
    rw [ha, List.append_assoc] at hp
    exact (ih (constMark_prefix_bracket hp)).imp (·.trans hrs) id

/-- The text under a declarator without a mark has no `const` to give to the spelling. -/
theorem not_const_prefix {r : List Char} (h : Reads (stripConst r).1 inner)
    (hm : (stripConst r).2 = false) (hs : ¬ inner.StartsWithConstName) :
    ¬ constMark true <+: inner.chars := by
  intro hp
  rcases stripConst_cases r with ⟨ht, -⟩ | ⟨he, hn⟩
  · rw [hm] at ht
    cases ht
  · rw [he] at h
    have hh := (h.const_prefix hp).resolve_right hs
    rw [trim_trim] at hh
    exact hn hh

theorem marksClear (h : Reads s type) (hl : ¬ type.LosesConstName) : MarksClear type := by
  induction h with
  | leaf hp =>
    rcases parseLeaf_eq_some hp with ⟨b, rfl⟩ | ⟨rfl, -, -⟩ <;>
      simp [MarksClear, layers, unmarkedTarget?]
  | @wrap s r inner d ht hr ih =>
    rw [losesConstName_wrap, not_or, not_and] at hl
    exact (d.marksClear_wrap _ _).mpr ⟨fun hm => hr.not_const_prefix hm (hl.1 hm), ih hl.2⟩
  | array ht hz hr ih => exact (marksClear_array _ _).mpr (ih hl)

/-- The declarator that takes the `const` leaves nothing for the declarators further in. -/
theorem parseChars_eq_none (h : Reads s type) (ho : OverPlainLeaf type)
    (hl : type.LosesConstName) : parseChars type.chars = none := by
  induction h with
  | leaf hp => rcases parseLeaf_eq_some hp with ⟨b, rfl⟩ | ⟨rfl, -, -⟩ <;> exact hl.elim
  | @wrap s r inner d ht hr ih =>
    have hi := (d.overPlainLeaf_wrap _ _).mp ho
    have hb := bare_chars hi
    rw [losesConstName_wrap] at hl
    rw [d.chars_wrap, d.parseChars_append, Option.map_eq_none_iff]
    cases hm : (stripConst r).2 with
    | true =>
      rw [stripConst_marked hb]
      exact ih hi (hl.resolve_left (by simp [hm]))
    | false =>
      rw [constMark_false, List.nil_append]
      by_cases hs : inner.StartsWithConstName
      · obtain ⟨rest, he, hr, -, hn⟩ := hs.chars_eq
        rw [he, stripConst_marked hr]
        exact hn
      · rw [stripConst_unmarked hb (hr.not_const_prefix hm hs)]
        exact ih hi (hl.resolve_left (by simp [hs]))
  | @array s r _ element size ht hz hr ih =>
    obtain ⟨digits, hd, ha⟩ := chars_array element size
    rw [ha, parseChars_array _ hd, ih ho hl]
    cases parseSize digits <;> rfl

end Reads

/-- A type that was read from a text is read from its own spelling too, unless a declarator
without a mark stands over a name `const` that the spelling puts in the place of the mark.
Then the spelling cannot be read at all. -/
theorem parse_spelling_of_parse {text : String} {type : CppType} (h : parse? text = some type) :
    (parse? type.spelling = some type ↔ ¬ type.LosesConstName) ∧
    (type.LosesConstName → parse? type.spelling = none) ∧
    (type.leaf ≠ named "const" → parse? type.spelling = some type) := by
  have hchars : parse? type.spelling = parseChars type.chars := by simp [parse?, spelling]
  have hr := reads_of_parseChars h
  have ho := overPlainLeaf_of_parseChars h
  have hsome : ¬ type.LosesConstName → parse? type.spelling = some type := by
    intro hl
    rw [hchars, parseChars_chars_iff]
    exact ⟨ho, hr.marksClear hl⟩
  have hnone : type.LosesConstName → parse? type.spelling = none := by
    intro hl
    rw [hchars]
    exact hr.parseChars_eq_none ho hl
  refine ⟨⟨fun he hl => ?_, hsome⟩, hnone, fun hne => hsome fun hl => hne hl.leaf_eq⟩
  rw [hnone hl] at he
  cases he

/-- A type with a mark and blanks of its own, and one whose name `const` is lost under an
array. -/
theorem parse_spelling_of_parse_both :
    let kept := reference (array (named "Box<int>") (some 3)) true false
    let lost := pointer (array (pointer (named "const") false) none) false
    parse? " const  Box<int>[ 03]&" = some kept ∧ parse? kept.spelling = some kept ∧
      parse? "const*[ ]*" = some lost ∧ parse? lost.spelling = none := by
  intro kept lost
  have hk : parse? " const  Box<int>[ 03]&" = some kept := by decide +kernel
  have hl : parse? "const*[ ]*" = some lost := by decide +kernel
  exact ⟨hk, (parse_spelling_of_parse hk).2.2 (by decide), hl,
    (parse_spelling_of_parse hl).2.1 (.inl ⟨rfl, rfl, .inl rfl⟩)⟩

/-- Reading the spelling of a type that was read need not give the type. -/
theorem parse_spelling_const_name :
    let type := reference (pointer (named "const") false) false false
    parse? "const*&" = some type ∧ type.spelling = "const * &" ∧
      parse? type.spelling ≠ some type := by
  decide +kernel

end CppIntrospect.CppType
