import CppIntrospect.Proofs.SpellingStability

/-! What a type keeps of the text it was read from. Reading takes declarators off the end and
marks off the beginning and trims in between; writing puts them back with blanks of its own. So
text and spelling can differ only in blanks, in the words for a keyword type and in the way in
which array sizes are written. -/

namespace CppIntrospect.Text

variable {s t : List Char} {c : Char}

/-- The text without its blanks. -/
def visible (s : List Char) : List Char := s.filter fun c => !isBlank c

@[simp] theorem visible_nil : visible [] = [] := rfl

@[simp] theorem visible_append (s t : List Char) : visible (s ++ t) = visible s ++ visible t :=
  List.filter_append ..

theorem visible_cons (h : isBlank c = false) : visible (c :: s) = c :: visible s := by
  simp [visible, h]

theorem visible_of_forall (h : ∀ c ∈ s, isBlank c = false) : visible s = s :=
  List.filter_eq_self.mpr fun c hc => by simp [h c hc]

theorem visible_dropWhile (s : List Char) : visible (s.dropWhile isBlank) = visible s := by
  induction s with
  | nil => rfl
  | cons c s ih =>
    by_cases hc : isBlank c = true
    · rw [List.dropWhile_cons_of_pos hc, ih]
      simp [visible, hc]
    · rw [List.dropWhile_cons_of_neg hc]

@[simp] theorem visible_trim (s : List Char) : visible (trim s) = visible s := by
  have hreverse : ∀ t : List Char, visible t.reverse = (visible t).reverse :=
    fun t => List.filter_reverse
  rw [trim, trimEnd, trimStart, hreverse, visible_dropWhile, hreverse, List.reverse_reverse,
    visible_dropWhile]

theorem mem_trim (hc : c ∈ s) (hb : isBlank c = false) : c ∈ trim s := by
  have hm : c ∈ visible s := List.mem_filter.mpr ⟨hc, by simp [hb]⟩
  rw [← visible_trim] at hm
  exact List.mem_of_mem_filter hm

/-- Only blanks stand around what is left by trimming. -/
theorem exists_trim (s : List Char) :
    ∃ before after, s = before ++ trim s ++ after ∧ (∀ c ∈ before, isBlank c = true) ∧
      ∀ c ∈ after, isBlank c = true := by
  refine ⟨s.takeWhile isBlank, ((trimStart s).reverse.takeWhile isBlank).reverse, ?_, ?_, ?_⟩
  · have hend : trimStart s =
        trim s ++ ((trimStart s).reverse.takeWhile isBlank).reverse := by
      rw [trim, trimEnd, ← List.reverse_append, List.takeWhile_append_dropWhile,
        List.reverse_reverse]
    rw [List.append_assoc, ← hend, trimStart, List.takeWhile_append_dropWhile]
  · exact fun c hc => List.all_eq_true.mp List.all_takeWhile c hc
  · exact fun c hc => List.all_eq_true.mp List.all_takeWhile c (List.mem_reverse.mp hc)

theorem digit_or_plus_of_word64? {n : UInt64} (h : word64? s = some n) (hc : c ∈ s) :
    c = '+' ∨ isDigit c = true := by
  have hdigits : ∀ {t : List Char} {m : Nat}, digits? t = some m → c ∈ t → isDigit c = true := by
    intro t m ht hm
    unfold digits? at ht
    split at ht
    · cases ht
    · next hall =>
      simp only [Bool.or_eq_true, Bool.not_eq_true', not_or, Bool.not_eq_false] at hall
      exact List.all_eq_true.mp hall.2 c hm
  unfold word64? at h
  split at h
  · next m hu =>
    unfold unsigned? at hu
    split at hu
    · rcases List.mem_cons.mp hc with rfl | hc
      · exact .inl rfl
      · exact .inr (hdigits hu hc)
    · exact .inr (hdigits hu hc)
  · cases h

theorem graphic_of_digit_or_plus (h : c = '+' ∨ isDigit c = true) :
    isBlank c = false ∧ c ≠ '[' ∧ c ≠ ']' := by
  rcases h with rfl | h
  · decide
  · have hr : 48 ≤ c.toNat ∧ c.toNat ≤ 57 := by
      simpa [isDigit, Char.le_def, UInt32.le_iff_toNat_le] using h
    refine ⟨isBlank_of_graphic (by omega) (by omega), ?_, ?_⟩
    · rintro rfl
      exact absurd hr (by decide)
    · rintro rfl
      exact absurd hr (by decide)

end CppIntrospect.Text

namespace CppIntrospect.CppType

open Text

variable {s t digits : List Char}

/-- The text up to a closing bracket, if no bracket opens before it. -/
def enclosed? : List Char → Option (List Char)
  | [] => none
  | c :: s => if c = ']' then some [] else if c = '[' then none else (enclosed? s).map (c :: ·)

/-- What a text has between brackets: the places where array sizes are written. -/
def sizeTexts : List Char → List (List Char)
  | [] => []
  | c :: s => if c = '[' then (enclosed? s).toList ++ sizeTexts s else sizeTexts s

/-- An array size that is left out, or written in decimal without a sign or leading zeros. -/
def CanonicalSize (digits : List Char) : Prop :=
  trim digits = [] ∨ ∃ n : Nat, trim digits = n.repr.toList

def Unbracketed (s : List Char) : Prop := ∀ c ∈ s, c ≠ '[' ∧ c ≠ ']'

theorem Unbracketed.tail {c : Char} (h : Unbracketed (c :: s)) : Unbracketed s :=
  fun d hd => h d (List.mem_cons_of_mem c hd)

theorem Unbracketed.of_blank (h : ∀ c ∈ s, isBlank c = true) : Unbracketed s := by
  intro c hc
  refine ⟨?_, ?_⟩ <;> rintro rfl <;> exact absurd (h _ hc) (by decide)

theorem enclosed?_append (ht : Unbracketed t) (s : List Char) :
    enclosed? (s ++ t) = enclosed? s := by
  induction s with
  | nil =>
    induction t with
    | nil => rfl
    | cons c t ih =>
      have hc := ht c List.mem_cons_self
      have hnone : enclosed? t = none := ih ht.tail
      simp [enclosed?, hc, hnone]
  | cons c s ih => simp [enclosed?, ih]

theorem enclosed?_append_bracket (s t : List Char) : enclosed? (s ++ '[' :: t) = enclosed? s := by
  induction s with
  | nil => rfl
  | cons c s ih => simp [enclosed?, ih]

theorem enclosed?_closed (hd : Unbracketed digits) (t : List Char) :
    enclosed? (digits ++ ']' :: t) = some digits := by
  induction digits with
  | nil => rfl
  | cons c digits ih =>
    have hc := hd c List.mem_cons_self
    simp [enclosed?, hc, ih hd.tail]

theorem sizeTexts_of_not_mem (h : '[' ∉ s) (t : List Char) : sizeTexts (s ++ t) = sizeTexts t := by
  induction s with
  | nil => rfl
  | cons c s ih =>
    obtain ⟨hc, hs⟩ := not_or.mp (List.mem_cons.not.mp h)
    simp [sizeTexts, Ne.symm hc, ih hs]

theorem sizeTexts_append (ht : Unbracketed t) (s : List Char) :
    sizeTexts (s ++ t) = sizeTexts s := by
  induction s with
  | nil =>
    have hno : '[' ∉ t := fun hm => (ht _ hm).1 rfl
    simpa [sizeTexts] using sizeTexts_of_not_mem hno []
  | cons c s ih => simp [sizeTexts, enclosed?_append ht, ih]

theorem sizeTexts_append_size (hd : Unbracketed digits) (s : List Char) :
    sizeTexts (s ++ '[' :: digits ++ [']']) = sizeTexts s ++ [digits] := by
  rw [List.append_assoc, List.cons_append]
  induction s with
  | nil =>
    have hno : '[' ∉ digits := fun hm => (hd _ hm).1 rfl
    have hrest := sizeTexts_of_not_mem hno [']']
    simp [sizeTexts, enclosed?_closed hd, hrest]
  | cons c s ih => by_cases hc : c = '[' <;> simp [sizeTexts, hc, enclosed?_append_bracket, ih]

@[simp] theorem sizeTexts_trim (s : List Char) : sizeTexts (trim s) = sizeTexts s := by
  obtain ⟨before, after, hs, hb, ha⟩ := exists_trim s
  have hno : '[' ∉ before := fun hm => ((Unbracketed.of_blank hb) _ hm).1 rfl
  calc
    sizeTexts (trim s) = sizeTexts (before ++ trim s) := (sizeTexts_of_not_mem hno _).symm
    _ = sizeTexts (before ++ trim s ++ after) := (sizeTexts_append (.of_blank ha) _).symm
    _ = sizeTexts s := by rw [← hs]

theorem stripConst_keeps (r : List Char) :
    visible r = visible (constMark (stripConst r).2) ++ visible (stripConst r).1 ∧
      sizeTexts r = sizeTexts (stripConst r).1 := by
  unfold stripConst
  split
  · next rest h =>
    have hr : trim r = constMark true ++ rest := h
    have hno : '[' ∉ constMark true := by decide
    constructor
    · rw [← visible_trim r, hr, visible_append, visible_trim]
    · rw [← sizeTexts_trim r, hr, sizeTexts_of_not_mem hno, sizeTexts_trim]
  · simp

def sizeChars : Option UInt64 → List Char
  | none => []
  | some n => n.toNat.repr.toList

theorem chars_array_eq (element : CppType) (size : Option UInt64) :
    (array element size).chars = element.chars ++ '[' :: sizeChars size ++ [']'] := by
  cases size <;> simp [chars, sizeChars]

theorem graphic_of_mem_sizeChars {size : Option UInt64} {c : Char} (hc : c ∈ sizeChars size) :
    isBlank c = false ∧ c ≠ '[' ∧ c ≠ ']' := by
  cases size with
  | none => simp [sizeChars] at hc
  | some n =>
    have hm : c ∈ Nat.toDigits 10 n.toNat := by simpa [sizeChars] using hc
    exact graphic_of_digit_or_plus (digit_or_plus_of_word64? (word64?_toDigits n) hm)

theorem visible_bracketed (s digits : List Char) :
    visible (s ++ '[' :: digits ++ [']']) = visible s ++ '[' :: (visible digits ++ [']']) := by
  have hclose : visible [']'] = [']'] := by decide
  rw [List.append_assoc, visible_append, List.cons_append, visible_cons (by decide),
    visible_append, hclose]

theorem word64?_repr {n : UInt64} {m : Nat} (h : word64? m.repr.toList = some n) :
    n.toNat = m := by
  have hu : unsigned? m.repr.toList = some m := by simpa using unsigned?_toDigits m
  simp only [word64?, hu] at h
  split at h
  · next hlt =>
    rw [← Option.some.inj h]
    exact UInt64.toNat_ofNat_of_lt hlt
  · cases h

theorem parseSize_cases {size : Option UInt64} (h : parseSize digits = some size) :
    (trim digits = [] ∧ size = none) ∨
      ∃ n, trim digits ≠ [] ∧ word64? (trim digits) = some n ∧ size = some n := by
  unfold parseSize at h
  split at h
  · next ht => exact .inl ⟨ht, (Option.some.inj h).symm⟩
  · next hne =>
    obtain ⟨n, hn, rfl⟩ := Option.map_eq_some_iff.mp h
    exact .inr ⟨n, hne, hn, rfl⟩

theorem unbracketed_of_parseSize {size : Option UInt64} (h : parseSize digits = some size) :
    Unbracketed digits := by
  intro c hc
  by_cases hb : isBlank c = true
  · refine ⟨?_, ?_⟩ <;> rintro rfl <;> exact absurd hb (by decide)
  · have hm := mem_trim hc (by simpa using hb)
    rcases parseSize_cases h with ⟨ht, -⟩ | ⟨n, -, hn, -⟩
    · simp [ht] at hm
    · exact (graphic_of_digit_or_plus (digit_or_plus_of_word64? hn hm)).2

/-- A size is written back as it stood exactly when it stood in its canonical form. -/
theorem visible_size_iff {size : Option UInt64} (h : parseSize digits = some size) :
    visible digits = sizeChars size ↔ CanonicalSize digits := by
  rcases parseSize_cases h with ⟨ht, rfl⟩ | ⟨n, hne, hn, rfl⟩
  · have hv : visible digits = [] := by rw [← visible_trim, ht]; rfl
    simp [hv, sizeChars, CanonicalSize, ht]
  · have hv : visible digits = trim digits := by
      rw [← visible_trim]
      exact visible_of_forall fun c hc =>
        (graphic_of_digit_or_plus (digit_or_plus_of_word64? hn hc)).1
    rw [hv]
    constructor
    · exact fun he => .inr ⟨n.toNat, he⟩
    · rintro (he | ⟨m, he⟩)
      · exact absurd he hne
      · rw [he] at hn
        rw [he, sizeChars, word64?_repr hn]

theorem append_bracket_inj {s' t' : List Char} (ht : '[' ∉ t) (ht' : '[' ∉ t') :
    s ++ '[' :: t = s' ++ '[' :: t' ↔ s = s' ∧ t = t' := by
  constructor
  · intro h
    rcases List.append_eq_append_iff.mp h with ⟨more, hs, hm⟩ | ⟨more, hs, hm⟩
    · cases more with
      | nil => simp_all
      | cons c more =>
        obtain ⟨-, rfl⟩ := List.cons.inj hm
        simp at ht
    · cases more with
      | nil => simp_all
      | cons c more =>
        obtain ⟨-, rfl⟩ := List.cons.inj hm
        simp at ht'
  · rintro ⟨rfl, rfl⟩
    rfl

theorem unbracketed_of_looksLikeName (h : looksLikeName s = true) : Unbracketed s := by
  have hall : ∀ c ∈ s, isNameChar c = true := by
    cases s with
    | nil => simp
    | cons c s =>
      rw [looksLikeName, Bool.and_eq_true] at h
      exact List.all_eq_true.mp h.2
  intro c hc
  refine ⟨?_, ?_⟩ <;> rintro rfl <;> exact absurd (hall _ hc) (by decide)

theorem Declarator.visible_chars (d : Declarator) :
    visible d.chars = d.chars ∧ Unbracketed d.chars := by
  cases d <;> exact ⟨by decide, by simp [Unbracketed, chars]⟩

theorem Reads.visible_iff {type : CppType} {name : String} (h : Reads s type)
    (hl : type.leaf = named name) :
    visible s = visible type.chars ↔ ∀ digits ∈ sizeTexts s, CanonicalSize digits := by
  -- Along the way in which the text was taken apart: a declarator gives back its own characters,
  -- so text and spelling agree if they agree further in. Only a size may be written anew.
  induction h with
  | @leaf s type hp =>
    rcases parseLeaf_eq_some hp with ⟨b, rfl⟩ | ⟨rfl, hn, -⟩
    · cases hl
    · have hnone : sizeTexts s = [] := by
        rw [← sizeTexts_trim]
        exact sizeTexts_append (unbracketed_of_looksLikeName hn) []
      simp [chars, hnone]
  | @wrap s r inner d ht hr ih =>
    obtain ⟨hd, hu⟩ := d.visible_chars
    obtain ⟨hv, hz⟩ := stripConst_keeps r
    have htext : visible s =
        visible (constMark (stripConst r).2) ++ visible (stripConst r).1 ++ d.chars := by
      rw [← visible_trim, ht, visible_append, hd, hv]
    have hchars : visible (d.wrap inner (stripConst r).2).chars =
        visible (constMark (stripConst r).2) ++ visible inner.chars ++ d.chars := by
      have hblank : visible [' '] = [] := by decide
      rw [d.chars_wrap]
      simp only [visible_append, hblank, hd, List.append_nil]
    have hsizes : sizeTexts s = sizeTexts (stripConst r).1 := by
      rw [← sizeTexts_trim, ht, sizeTexts_append hu, hz]
    rw [d.leaf_wrap] at hl
    rw [htext, hchars, hsizes, ← ih hl, List.append_left_inj, List.append_right_inj]
  | @array s r digits element size ht hz hr ih =>
    have hd := unbracketed_of_parseSize hz
    have hself : visible (sizeChars size) = sizeChars size :=
      visible_of_forall fun c hc => (graphic_of_mem_sizeChars hc).1
    have htext : visible s = visible r ++ '[' :: (visible digits ++ [']']) := by
      rw [← visible_trim, ht, visible_bracketed]
    have hchars : visible (CppType.array element size).chars =
        visible element.chars ++ '[' :: (sizeChars size ++ [']']) := by
      rw [chars_array_eq, visible_bracketed, hself]
    have hsizes : sizeTexts s = sizeTexts r ++ [digits] := by
      rw [← sizeTexts_trim, ht, sizeTexts_append_size hd]
    have hdigits : '[' ∉ visible digits := fun hm => (hd _ (List.mem_of_mem_filter hm)).1 rfl
    have hsize : '[' ∉ sizeChars size := fun hm => (graphic_of_mem_sizeChars hm).2.1 rfl
    rw [htext, hchars, append_bracket_inj (by simpa using hdigits) (by simpa using hsize),
      List.append_left_inj, visible_size_iff hz, ih hl, hsizes]
    simp only [List.forall_mem_append, List.forall_mem_singleton]

/-- Text and spelling of a type over a name are the same but for blanks exactly when every array
size stands in its canonical form: no declarator, `const`, size or name is lost, added or moved. -/
theorem visible_spelling_iff {text : String} {type : CppType} {name : String}
    (h : parse? text = some type) (hl : type.leaf = named name) :
    visible text.toList = visible type.spelling.toList ↔
      ∀ digits ∈ sizeTexts text.toList, CanonicalSize digits := by
  rw [spelling, String.toList_ofList]
  exact (reads_of_parseChars h).visible_iff hl

/-- Blanks and sizes at several layers, and a size with a leading zero. -/
theorem visible_spelling_iff_layers :
    let boxes := array (named "Box<A, B>") (some 10)
    let kept := reference (array (pointer boxes false) none) true true
    let changed := array (named "Box") (some 3)
    parse? " const Box<A, B> [ 10]* [] &&" = some kept ∧
      visible " const Box<A, B> [ 10]* [] &&".toList = visible kept.spelling.toList ∧
      parse? "Box[03]" = some changed ∧ sizeTexts "Box[03]".toList = [['0', '3']] ∧
      ¬ CanonicalSize ['0', '3'] := by
  intro boxes kept changed
  have hk : parse? " const Box<A, B> [ 10]* [] &&" = some kept := by decide +kernel
  have hc : parse? "Box[03]" = some changed := by decide +kernel
  have hsizes : sizeTexts "Box[03]".toList = [['0', '3']] := by decide +kernel
  refine ⟨hk, (visible_spelling_iff hk rfl).mpr ?_, hc, hsizes, fun hsize => ?_⟩
  · have htexts : sizeTexts " const Box<A, B> [ 10]* [] &&".toList = [[' ', '1', '0'], []] := by
      decide +kernel
    rw [htexts, List.forall_mem_cons, List.forall_mem_singleton]
    exact ⟨.inr ⟨10, by decide +kernel⟩, .inl rfl⟩
  · have hsame := (visible_spelling_iff hc rfl).mpr (by rwa [hsizes, List.forall_mem_singleton])
    exact absurd hsame (by decide +kernel)

end CppIntrospect.CppType
