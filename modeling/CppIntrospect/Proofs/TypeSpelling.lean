import CppIntrospect.CppType.Parse
import Mathlib.Data.List.DropRight

/-! When a type is read back from its own spelling. Declarators are written and read at the
end of the text and `const` at its beginning, so the proof takes one declarator off at a
time and looks at the two ends of what is left. -/

namespace CppIntrospect.Text

/-- A text with a character that is not blank at each end. -/
structure Bare (s : List Char) : Prop where
  head : ∃ c, s.head? = some c ∧ isBlank c = false
  last : ∃ c, s.getLast? = some c ∧ isBlank c = false

variable {s t : List Char} {c : Char}

theorem bare_singleton (h : isBlank c = false) : Bare [c] := ⟨⟨c, rfl, h⟩, ⟨c, rfl, h⟩⟩

theorem Bare.join (hs : Bare s) (middle : List Char) (ht : Bare t) : Bare (s ++ middle ++ t) := by
  obtain ⟨c, hc, hcb⟩ := hs.head
  obtain ⟨d, hd, hdb⟩ := ht.last
  exact ⟨⟨c, by simp [hc], hcb⟩, ⟨d, by simp [hd], hdb⟩⟩

theorem dropWhile_isBlank_of_head (h : ∃ c, s.head? = some c ∧ isBlank c = false) :
    s.dropWhile isBlank = s := by
  obtain ⟨c, hc, hb⟩ := h
  obtain ⟨r, rfl⟩ := List.head?_eq_some_iff.mp hc
  exact List.dropWhile_cons_of_neg (by simp [hb])

theorem trimEnd_of_last (h : ∃ c, s.getLast? = some c ∧ isBlank c = false) : trimEnd s = s := by
  have hr : s.reverse.dropWhile isBlank = s.reverse := by
    apply dropWhile_isBlank_of_head
    rwa [List.head?_reverse]
  rw [trimEnd, hr, List.reverse_reverse]

theorem trim_of_bare (h : Bare s) : trim s = s := by
  have hs : trimStart s = s := dropWhile_isBlank_of_head h.head
  rw [trim, hs, trimEnd_of_last h.last]

/-- What stands in front of a bare text is only cut at the beginning. -/
theorem trim_append_bare (s : List Char) (ht : Bare t) : trim (s ++ t) = trimStart s ++ t := by
  have hs : trimStart (s ++ t) = trimStart s ++ t := by
    simp only [trimStart, List.dropWhile_append]
    split
    · next he => rw [List.isEmpty_iff.mp he, dropWhile_isBlank_of_head ht.head, List.nil_append]
    · rfl
  obtain ⟨d, hd, hb⟩ := ht.last
  rw [trim, hs, trimEnd_of_last ⟨d, by simp [hd], hb⟩]

theorem trim_append_space (s : List Char) : trim (s ++ [' ']) = trim s := by
  have hb : isBlank ' ' = true := by decide
  simp only [trim, trimStart, List.dropWhile_append]
  split
  · next he => simp [List.isEmpty_iff.mp he, hb]
  · simp [trimEnd, hb]

theorem trim_trimStart (s : List Char) : trim (trimStart s) = trim s := by
  simp only [trim, trimStart, List.dropWhile_idempotent]

theorem isBlank_getLast_trim (h : (trim s).getLast? = some c) : isBlank c = false := by
  have hh := List.head?_dropWhile_not isBlank (trimStart s).reverse
  rw [trim, trimEnd, List.getLast?_reverse] at h
  rwa [h] at hh

theorem isBlank_of_graphic (h : 33 ≤ c.toNat) (h' : c.toNat ≤ 126) : isBlank c = false := by
  simp only [isBlank, Bool.or_eq_false_iff, Bool.and_eq_false_iff, decide_eq_false_iff_not,
    beq_eq_false_iff_ne]
  omega

theorem isDigit_of_mem_toDigits {n : Nat} (h : c ∈ Nat.toDigits 10 n) : c.isDigit = true :=
  Nat.isDigit_of_mem_toDigits (by omega) (by omega) h

theorem isDigit_iff_toNat : c.isDigit = true ↔ 48 ≤ c.toNat ∧ c.toNat ≤ 57 := by
  simp [Char.isDigit, UInt32.le_iff_toNat_le]

theorem digits?_toDigits (n : Nat) : digits? (Nat.toDigits 10 n) = some n := by
  have hall : (Nat.toDigits 10 n).all isDigit = true := by
    refine List.all_eq_true.mpr fun c hc => ?_
    have hd := isDigit_iff_toNat.mp (isDigit_of_mem_toDigits hc)
    simpa [isDigit, Char.le_def, UInt32.le_iff_toNat_le] using hd
  have hv : digitsValue (Nat.toDigits 10 n) = n :=
    Nat.ofDigitChars_toDigits (by omega) (by omega)
  simp [digits?, hall, hv]

theorem unsigned?_toDigits (n : Nat) : unsigned? (Nat.toDigits 10 n) = some n := by
  have hd := digits?_toDigits n
  cases hs : Nat.toDigits 10 n with
  | nil => simp at hs
  | cons c s =>
    have hc : c ≠ '+' := by
      rintro rfl
      have hp : ('+').isDigit = true := isDigit_of_mem_toDigits (n := n) (by simp [hs])
      simp at hp
    rw [unsigned?]
    · rw [← hs, hd]
    · simpa using hc

theorem word64?_toDigits (n : UInt64) : word64? (Nat.toDigits 10 n.toNat) = some n := by
  simp [word64?, unsigned?_toDigits, n.toNat_lt_size]

theorem isBlank_of_mem_toDigits {n : Nat} (h : c ∈ Nat.toDigits 10 n) : isBlank c = false := by
  have hd := isDigit_iff_toNat.mp (isDigit_of_mem_toDigits h)
  exact isBlank_of_graphic (by omega) (by omega)

theorem bare_toDigits (n : Nat) : Bare (Nat.toDigits 10 n) := by
  have hne : Nat.toDigits 10 n ≠ [] := by simp
  exact ⟨⟨_, List.head?_eq_some_head hne, isBlank_of_mem_toDigits (List.head_mem hne)⟩,
    ⟨_, List.getLast?_eq_some_getLast hne, isBlank_of_mem_toDigits (List.getLast_mem hne)⟩⟩

end CppIntrospect.Text

namespace CppIntrospect.CppType

open Text

/-- What a trimmed text stands for, from its last character on. -/
def readBackwards : List Char → Option CppType
  | [] => none
  | '&' :: '&' :: r =>
    (parseChars (stripConst r.reverse).1).map (reference · (stripConst r.reverse).2 true)
  | '&' :: r =>
    (parseChars (stripConst r.reverse).1).map (reference · (stripConst r.reverse).2 false)
  | '*' :: r => (parseChars (stripConst r.reverse).1).map (pointer · (stripConst r.reverse).2)
  | ']' :: r =>
    match r.dropWhile (· != '['), parseSize (r.takeWhile (· != '[')).reverse with
    | _ :: element, some size => (parseChars element.reverse).map (array · size)
    | _, _ => none
  | r => parseLeaf r.reverse

theorem parseChars_eq (s : List Char) : parseChars s = readBackwards (trim s).reverse := by
  rw [parseChars]
  split
  · simp [*, readBackwards]
  · simp [*, readBackwards]
  · simp [*, readBackwards]
  · simp [*, readBackwards]
  · next r h =>
    simp only [h, readBackwards]
    split
    · simp [*]
    · next hno =>
      split
      · next hd hs => exact (hno _ _ _ hd hs).elim
      · rfl
  · rw [readBackwards]
    · rw [List.reverse_reverse]
    all_goals assumption

theorem parseChars_of_trim_eq {s s' : List Char} (h : trim s = trim s') :
    parseChars s = parseChars s' := by
  rw [parseChars_eq, h, ← parseChars_eq]

theorem stripConst_trimStart (s : List Char) : stripConst (trimStart s) = stripConst s := by
  simp only [stripConst, trim_trimStart]

theorem parseChars_pointer (s : List Char) :
    parseChars (s ++ ['*']) = (parseChars (stripConst s).1).map (pointer · (stripConst s).2) := by
  have ht := trim_append_bare s (bare_singleton (c := '*') (by decide))
  rw [parseChars_eq, ht, ← stripConst_trimStart]
  simp [readBackwards]

theorem parseChars_rvalue (s : List Char) :
    parseChars (s ++ ['&', '&']) =
      (parseChars (stripConst s).1).map (reference · (stripConst s).2 true) := by
  have hb : Bare ['&', '&'] := ⟨⟨'&', rfl, by decide⟩, ⟨'&', rfl, by decide⟩⟩
  rw [parseChars_eq, trim_append_bare s hb, ← stripConst_trimStart]
  simp [readBackwards]

/-- The blank in front of the declarator keeps it apart from a reference under it. -/
theorem parseChars_lvalue (s : List Char) :
    parseChars (s ++ [' '] ++ ['&']) =
      (parseChars (stripConst (s ++ [' '])).1).map
        (reference · (stripConst (s ++ [' '])).2 false) := by
  have ht := trim_append_bare (s ++ [' ']) (bare_singleton (c := '&') (by decide))
  have hl : ∀ r, (trimStart (s ++ [' '])).reverse ≠ '&' :: r := by
    intro r
    simp only [trimStart, List.dropWhile_append]
    split
    · simp [show isBlank ' ' = true by decide]
    · simp
  rw [parseChars_eq, ht, ← stripConst_trimStart, List.reverse_append, List.reverse_singleton,
    List.singleton_append, readBackwards]
  · rw [List.reverse_reverse]
  · exact hl

theorem parseChars_array (s : List Char) {digits : List Char} (h : '[' ∉ digits) :
    parseChars (s ++ '[' :: digits ++ [']']) =
      (parseSize digits).bind fun size => (parseChars s).map (array · size) := by
  have hb : Bare (['['] ++ digits ++ [']']) :=
    (bare_singleton (by decide)).join digits (bare_singleton (by decide))
  have ht : trim (s ++ '[' :: digits ++ [']']) = trimStart s ++ '[' :: digits ++ [']'] := by
    simpa using trim_append_bare s hb
  have hne : ∀ c ∈ digits.reverse, (c != '[') = true := by
    intro c hc
    have hm := List.mem_reverse.mp hc
    rw [bne_iff_ne]
    rintro rfl
    exact h hm
  have hd : (digits.reverse ++ '[' :: (trimStart s).reverse).dropWhile (· != '[') =
      '[' :: (trimStart s).reverse := by
    rw [List.dropWhile_append_of_pos hne, List.dropWhile_cons_of_neg (by simp)]
  have hw : (digits.reverse ++ '[' :: (trimStart s).reverse).takeWhile (· != '[') =
      digits.reverse := by
    rw [List.takeWhile_append_of_pos hne, List.takeWhile_cons_of_neg (by simp), List.append_nil]
  have hr : (trimStart s ++ '[' :: digits ++ [']']).reverse =
      ']' :: (digits.reverse ++ '[' :: (trimStart s).reverse) := by simp
  rw [parseChars_eq, ht, hr, readBackwards, hd, hw, List.reverse_reverse,
    parseChars_of_trim_eq (trim_trimStart s).symm]
  cases parseSize digits with
  | none => rfl
  | some size => simp

theorem parseChars_unsized (s : List Char) :
    parseChars (s ++ ['[', ']']) = (parseChars s).map (array · none) := by
  have hs : parseSize [] = some none := rfl
  simpa [hs] using @parseChars_array s [] (by simp)

theorem parseSize_toDigits (n : UInt64) :
    parseSize (Nat.toDigits 10 n.toNat) = some (some n) := by
  have hw := word64?_toDigits n
  rw [parseSize, trim_of_bare (bare_toDigits _)]
  cases hs : Nat.toDigits 10 n.toNat with
  | nil => simp at hs
  | cons c s => simp [← hs, hw]

theorem parseChars_sized (s : List Char) (n : UInt64) :
    parseChars (s ++ '[' :: n.toNat.repr.toList ++ [']']) =
      (parseChars s).map (array · (some n)) := by
  have hd : '[' ∉ Nat.toDigits 10 n.toNat := fun hm => by simpa using isDigit_of_mem_toDigits hm
  simpa [parseSize_toDigits] using parseChars_array s hd

/-- A name that is read as a name, and as itself. -/
structure PlainName (name : String) : Prop where
  looks : looksLikeName name.toList = true
  last : ∀ c, name.toList.getLast? = some c → isBlank c = false
  not_keyword : name ∉ Builtin.spellings.map Prod.fst

/-- A type over a keyword type or a plain name. -/
def OverPlainLeaf (type : CppType) : Prop :=
  (∃ b, type.leaf = builtin b) ∨ ∃ name, type.leaf = named name ∧ PlainName name

theorem ofSpelling?_eq_none_iff (name : String) :
    Builtin.ofSpelling? name = none ↔ name ∉ Builtin.spellings.map Prod.fst := by
  simp only [Builtin.ofSpelling?, List.lookup_eq_none_iff, List.mem_map, not_exists, not_and,
    bne_iff_ne]
  exact ⟨fun h p hp he => h p hp he.symm, fun h p hp he => h p hp he.symm⟩

theorem ofSpelling?_spelling (b : Builtin) : Builtin.ofSpelling? b.spelling = some b := by
  cases b with
  | integer width signed => cases width <;> cases signed <;> decide
  | _ => decide

theorem bare_spelling (b : Builtin) : Bare b.spelling.toList := by
  cases b with
  | integer width signed =>
    cases width <;> cases signed <;> exact ⟨⟨_, rfl, by decide⟩, ⟨_, rfl, by decide⟩⟩
  | _ => exact ⟨⟨_, rfl, by decide⟩, ⟨_, rfl, by decide⟩⟩

theorem isBlank_of_isNameStart {c : Char} (h : isNameStart c = true) : isBlank c = false := by
  have hr : 33 ≤ c.toNat ∧ c.toNat ≤ 126 := by
    simp only [isNameStart, Bool.or_eq_true, beq_iff_eq] at h
    rcases h with (h | rfl) | rfl
    · change (decide (c.val ≥ 65 ∧ c.val ≤ 90) || c.val ≥ 97 && c.val ≤ 122) = true at h
      simp only [Bool.or_eq_true, Bool.and_eq_true, decide_eq_true_eq, ge_iff_le,
        UInt32.le_iff_toNat_le] at h
      have hv : c.val.toNat = c.toNat := rfl
      simp only [UInt32.reduceToNat] at h
      omega
    · decide
    · decide
  exact isBlank_of_graphic hr.1 hr.2

theorem PlainName.bare {name : String} (h : PlainName name) : Bare name.toList := by
  have hl := h.looks
  cases hs : name.toList with
  | nil => simp [hs, looksLikeName] at hl
  | cons c s =>
    rw [hs, looksLikeName, Bool.and_eq_true] at hl
    have hd := List.getLast?_eq_some_getLast (List.cons_ne_nil c s)
    exact ⟨⟨c, rfl, isBlank_of_isNameStart hl.1⟩, ⟨_, hd, h.last _ (hs.symm ▸ hd)⟩⟩

/-- Layers put characters that are not blank at both ends. -/
theorem bare_chars {type : CppType} (h : OverPlainLeaf type) : Bare type.chars := by
  have hmark : ∀ (isConst : Bool) {s t : List Char}, Bare s → Bare t →
      Bare (constMark isConst ++ s ++ ' ' :: t) := by
    intro isConst s t hs ht
    cases isConst with
    | false => simpa [constMark] using hs.join [' '] ht
    | true =>
      have hc : Bare ['c', 'o', 'n', 's', 't'] := ⟨⟨_, rfl, by decide⟩, ⟨_, rfl, by decide⟩⟩
      simpa [constMark] using hc.join (' ' :: s ++ [' ']) ht
  induction type with
  | builtin b => exact bare_spelling b
  | named name =>
    rcases h with ⟨b, hb⟩ | ⟨other, ho, hp⟩
    · cases hb
    · cases ho
      exact hp.bare
  | templateParam name depth index =>
    rcases h with ⟨b, hb⟩ | ⟨other, ho, hp⟩
    · cases hb
    · cases ho
  | pointer pointee isConst ih => exact hmark isConst (ih h) (bare_singleton (by decide))
  | reference referent isConst isRvalue ih =>
    cases isRvalue with
    | false => exact hmark isConst (ih h) (bare_singleton (by decide))
    | true =>
      exact hmark isConst (ih h) ⟨⟨_, rfl, by decide⟩, ⟨_, rfl, by decide⟩⟩
  | array element size ih =>
    have hclose : Bare [']'] := bare_singleton (by decide)
    cases size with
    | none => simpa [chars] using (ih h).join ['['] hclose
    | some n => simpa [chars] using (ih h).join ('[' :: n.toNat.repr.toList) hclose

theorem parseLeaf_eq_some {s : List Char} {type : CppType} (h : parseLeaf s = some type) :
    (∃ b, type = builtin b) ∨ type = named (String.ofList s) ∧ looksLikeName s = true ∧
      Builtin.ofSpelling? (String.ofList s) = none := by
  unfold parseLeaf at h
  split at h
  · next b _ => exact .inl ⟨b, (Option.some.inj h).symm⟩
  · next hn =>
    split at h
    · next hl => exact .inr ⟨(Option.some.inj h).symm, hl, hn⟩
    · cases h

theorem overPlainLeaf_of_parseChars {s : List Char} {type : CppType}
    (h : parseChars s = some type) : OverPlainLeaf type := by
  fun_induction parseChars s generalizing type with
  | case1 s _ => cases h
  | case2 s r _ _ ih =>
    obtain ⟨inner, hi, rfl⟩ := Option.map_eq_some_iff.mp h
    exact (ih hi : OverPlainLeaf inner)
  | case3 s r _ _ _ ih =>
    obtain ⟨inner, hi, rfl⟩ := Option.map_eq_some_iff.mp h
    exact (ih hi : OverPlainLeaf inner)
  | case4 s r _ _ ih =>
    obtain ⟨inner, hi, rfl⟩ := Option.map_eq_some_iff.mp h
    exact (ih hi : OverPlainLeaf inner)
  | case5 s r _ _ _ _ _ _ _ ih =>
    obtain ⟨inner, hi, rfl⟩ := Option.map_eq_some_iff.mp h
    exact (ih hi : OverPlainLeaf inner)
  | case6 => cases h
  | case7 s =>
    rcases parseLeaf_eq_some h with ⟨b, rfl⟩ | ⟨rfl, hl, hk⟩
    · exact .inl ⟨b, rfl⟩
    · refine .inr ⟨_, rfl, ⟨by simpa using hl, ?_, (ofSpelling?_eq_none_iff _).mp hk⟩⟩
      intro c hc
      exact isBlank_getLast_trim (by simpa using hc)

@[simp] theorem constMark_false : constMark false = [] := rfl

theorem stripConst_marked {s : List Char} (h : Bare s) :
    stripConst (constMark true ++ s ++ [' ']) = (s, true) := by
  have hc : Bare ['c', 'o', 'n', 's', 't'] := ⟨⟨_, rfl, by decide⟩, ⟨_, rfl, by decide⟩⟩
  have ht : trim (constMark true ++ s ++ [' ']) = constMark true ++ s := by
    rw [trim_append_space]
    exact trim_of_bare (by simpa [constMark] using hc.join [' '] h)
  rw [stripConst, ht]
  simp [constMark, trim_of_bare h]

theorem stripConst_unmarked {s : List Char} (h : Bare s) (hp : ¬ constMark true <+: s) :
    stripConst (s ++ [' ']) = (s, false) := by
  rw [stripConst, trim_append_space, trim_of_bare h]
  split
  · next rest => exact absurd ⟨rest, rfl⟩ hp
  · rfl

theorem stripConst_taken {s : List Char} (h : Bare s) (hp : constMark true <+: s) :
    (stripConst (s ++ [' '])).2 = true := by
  obtain ⟨rest, rfl⟩ := hp
  rw [stripConst, trim_append_space, trim_of_bare h]
  rfl

/-- What a pointer or reference stands over is read back together with the mark if it is
read back alone and its own `const` is not taken for the mark. -/
theorem declarator_reads_iff (wrap : CppType → Bool → CppType) (inner : CppType) (isConst : Bool)
    (hwrap : ∀ other mark, wrap other mark = wrap inner isConst ↔
      other = inner ∧ mark = isConst) :
    (parseChars (stripConst (constMark isConst ++ inner.chars ++ [' '])).1).map
        (wrap · (stripConst (constMark isConst ++ inner.chars ++ [' '])).2) =
      some (wrap inner isConst) ↔
    (isConst = false → ¬ constMark true <+: inner.chars) ∧
      parseChars inner.chars = some inner := by
  have hmap : ∀ (read : Option CppType) (mark : Bool),
      read.map (wrap · mark) = some (wrap inner isConst) ↔ read = some inner ∧ mark = isConst := by
    intro read mark
    cases read <;> simp [hwrap]
  rw [hmap]
  have hbare : ∀ s, parseChars s = some inner → Bare inner.chars :=
    fun s hs => bare_chars (overPlainLeaf_of_parseChars hs)
  cases isConst with
  | true =>
    constructor
    · rintro ⟨hp, -⟩
      rw [stripConst_marked (hbare _ hp)] at hp
      exact ⟨nofun, hp⟩
    · rintro ⟨-, hp⟩
      rw [stripConst_marked (hbare _ hp)]
      exact ⟨hp, rfl⟩
  | false =>
    simp only [constMark_false, List.nil_append, forall_true_left]
    constructor
    · rintro ⟨hp, hm⟩
      have hn : ¬ constMark true <+: inner.chars := by
        intro ht
        rw [stripConst_taken (hbare _ hp) ht] at hm
        cases hm
      rw [stripConst_unmarked (hbare _ hp) hn] at hp
      exact ⟨hn, hp⟩
    · rintro ⟨hn, hp⟩
      rw [stripConst_unmarked (hbare _ hp) hn]
      exact ⟨hp, rfl⟩

/-- A type and the types under its layers, from the outside in. -/
def layers : CppType → List CppType
  | pointer pointee isConst => pointer pointee isConst :: pointee.layers
  | reference referent isConst isRvalue =>
    reference referent isConst isRvalue :: referent.layers
  | array element size => array element size :: element.layers
  | type => [type]

/-- What a pointer or reference without a mark stands over. -/
def unmarkedTarget? : CppType → Option CppType
  | pointer pointee false => some pointee
  | reference referent false _ => some referent
  | _ => none

/-- No pointer or reference without a mark stands over a text that begins with one. -/
def MarksClear (type : CppType) : Prop :=
  ∀ layer ∈ type.layers, ∀ target, layer.unmarkedTarget? = some target →
    ¬ constMark true <+: target.spelling.toList

theorem marksClear_pointer (pointee : CppType) (isConst : Bool) :
    MarksClear (pointer pointee isConst) ↔
      (isConst = false → ¬ constMark true <+: pointee.chars) ∧ MarksClear pointee := by
  cases isConst <;> simp [MarksClear, layers, unmarkedTarget?, spelling]

theorem marksClear_reference (referent : CppType) (isConst isRvalue : Bool) :
    MarksClear (reference referent isConst isRvalue) ↔
      (isConst = false → ¬ constMark true <+: referent.chars) ∧ MarksClear referent := by
  cases isConst <;> simp [MarksClear, layers, unmarkedTarget?, spelling]

theorem marksClear_array (element : CppType) (size : Option UInt64) :
    MarksClear (array element size) ↔ MarksClear element := by
  simp [MarksClear, layers, unmarkedTarget?]

/-- Text that looks like a name ends in no declarator. -/
theorem parseChars_of_looksLikeName {s : List Char} (h : Bare s) (hn : looksLikeName s = true) :
    parseChars s = parseLeaf s := by
  obtain ⟨c, hc, -⟩ := h.last
  obtain ⟨r, rfl⟩ := List.getLast?_eq_some_iff.mp hc
  have hchar : isNameChar c = true := by
    have hall : (r ++ [c]).all isNameChar = true := by
      cases hs : r ++ [c] with
      | nil => simp at hs
      | cons d s =>
        rw [hs, looksLikeName, Bool.and_eq_true] at hn
        exact hn.2
    exact List.all_eq_true.mp hall c (by simp)
  have hno : c ≠ '&' ∧ c ≠ '*' ∧ c ≠ ']' := by
    refine ⟨?_, ?_, ?_⟩ <;> rintro rfl <;> revert hchar <;> decide
  rw [parseChars_eq, trim_of_bare h, List.reverse_append, List.reverse_singleton,
    List.singleton_append, readBackwards]
  · simp
  all_goals simp [hno]

theorem parseChars_named {name : String} (h : PlainName name) :
    parseChars name.toList = some (named name) := by
  have hk : Builtin.ofSpelling? name = none := (ofSpelling?_eq_none_iff name).mpr h.not_keyword
  rw [parseChars_of_looksLikeName h.bare h.looks]
  simp [parseLeaf, hk, h.looks]

theorem parseChars_builtin (b : Builtin) :
    parseChars b.spelling.toList = some (builtin b) := by
  have hn : looksLikeName b.spelling.toList = true := by
    cases b with
    | integer width signed => cases width <;> cases signed <;> decide
    | _ => decide
  rw [parseChars_of_looksLikeName (bare_spelling b) hn]
  simp [parseLeaf, ofSpelling?_spelling b]

theorem not_overPlainLeaf_of_templateParam {type : CppType} {name : String} {depth index : UInt32}
    (h : type.leaf = templateParam name depth index) : ¬ OverPlainLeaf type := by
  rintro (⟨b, hb⟩ | ⟨other, ho, -⟩)
  · rw [h] at hb
    cases hb
  · rw [h] at ho
    cases ho

/-- The induction is on the layers: each declarator adds its own condition. -/
theorem parseChars_chars_iff (type : CppType) :
    parseChars type.chars = some type ↔ OverPlainLeaf type ∧ MarksClear type := by
  induction type with
  | builtin b =>
    have hb : OverPlainLeaf (builtin b) := .inl ⟨b, rfl⟩
    simp [hb, chars, parseChars_builtin, MarksClear, layers, unmarkedTarget?]
  | named name =>
    refine ⟨fun h => ⟨overPlainLeaf_of_parseChars h, ?_⟩, ?_⟩
    · simp [MarksClear, layers, unmarkedTarget?]
    · rintro ⟨⟨b, hb⟩ | ⟨other, ho, hp⟩, -⟩
      · cases hb
      · cases ho
        exact parseChars_named hp
  | templateParam name depth index =>
    have hno : ¬ OverPlainLeaf (templateParam name depth index) :=
      not_overPlainLeaf_of_templateParam rfl
    exact ⟨fun h => absurd (overPlainLeaf_of_parseChars h) hno, fun h => absurd h.1 hno⟩
  | pointer pointee isConst ih =>
    have hc : (pointer pointee isConst).chars =
        constMark isConst ++ pointee.chars ++ [' '] ++ ['*'] := by simp [chars]
    rw [hc, parseChars_pointer, declarator_reads_iff pointer pointee isConst (by simp), ih,
      marksClear_pointer]
    exact and_left_comm
  | reference referent isConst isRvalue ih =>
    have hl : OverPlainLeaf (reference referent isConst isRvalue) ↔ OverPlainLeaf referent := .rfl
    rw [marksClear_reference, and_left_comm, hl, ← ih,
      ← declarator_reads_iff (reference · · isRvalue) referent isConst (by simp)]
    cases isRvalue with
    | false =>
      have hc : (reference referent isConst false).chars =
          constMark isConst ++ referent.chars ++ [' '] ++ ['&'] := by simp [chars]
      rw [hc, parseChars_lvalue]
    | true =>
      have hc : (reference referent isConst true).chars =
          constMark isConst ++ referent.chars ++ [' '] ++ ['&', '&'] := by simp [chars]
      rw [hc, parseChars_rvalue]
  | array element size ih =>
    have hp : parseChars (array element size).chars =
        (parseChars element.chars).map (array · size) := by
      cases size with
      | none => exact parseChars_unsized element.chars
      | some n => exact parseChars_sized element.chars n
    have hl : OverPlainLeaf (array element size) ↔ OverPlainLeaf element := .rfl
    rw [hp, marksClear_array, hl, ← ih]
    simp

/-- A type is read back from its own spelling just when its leaf is a keyword type or a
plain name, and no `const` in front of it belongs to a layer further in. -/
theorem parse_spelling_iff (type : CppType) :
    (parse? type.spelling = some type ↔
      ((∃ b, type.leaf = builtin b) ∨
        ∃ name, type.leaf = named name ∧ looksLikeName name.toList = true ∧
          (∀ c, name.toList.getLast? = some c → isBlank c = false) ∧
          name ∉ Builtin.spellings.map Prod.fst) ∧
      ∀ layer ∈ type.layers, ∀ target, layer.unmarkedTarget? = some target →
        ¬ "const ".toList <+: target.spelling.toList) ∧
    ∀ name depth index, type.leaf = templateParam name depth index →
      parse? type.spelling ≠ some type := by
  have hchars : parse? type.spelling = parseChars type.chars := by simp [parse?, spelling]
  rw [hchars]
  constructor
  · rw [parseChars_chars_iff]
    have hplain : ∀ name, PlainName name ↔ looksLikeName name.toList = true ∧
        (∀ c, name.toList.getLast? = some c → isBlank c = false) ∧
        name ∉ Builtin.spellings.map Prod.fst :=
      fun name => ⟨fun h => ⟨h.looks, h.last, h.not_keyword⟩, fun ⟨a, b, c⟩ => ⟨a, b, c⟩⟩
    simp only [OverPlainLeaf, hplain]
    rfl
  · intro name depth index hl h
    exact not_overPlainLeaf_of_templateParam hl (overPlainLeaf_of_parseChars h)

/-- A marked pointer under an array is read back, one under an unmarked pointer is not. -/
theorem parse_spelling_marked_pointer :
    parse? (array (pointer (named "Box<int>") true) (some 3)).spelling =
      some (array (pointer (named "Box<int>") true) (some 3)) ∧
    parse? (pointer (pointer (named "Box<int>") true) false).spelling ≠
      some (pointer (pointer (named "Box<int>") true) false) ∧
    parse? (pointer (templateParam "T" 0 0) false).spelling ≠
      some (pointer (templateParam "T" 0 0) false) := by
  refine ⟨(parse_spelling_iff _).1.mpr ⟨.inr ⟨"Box<int>", rfl, ?_⟩, ?_⟩, fun h => ?_,
    (parse_spelling_iff _).2 "T" 0 0 rfl⟩
  · refine ⟨by decide, fun c hc => ?_, by decide⟩
    have hlast : "Box<int>".toList.getLast? = some '>' := by decide
    rw [hlast] at hc
    cases hc
    decide
  · decide
  · exact ((parse_spelling_iff _).1.mp h).2 _ List.mem_cons_self _ rfl (by decide)

end CppIntrospect.CppType
