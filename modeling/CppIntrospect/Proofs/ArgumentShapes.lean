import CppIntrospect.Manifest.Json
import CppIntrospect.Proofs.ManifestRoundTrip
import Mathlib.Data.List.Forall2

/-! The shapes of template arguments. A record is read as the first shape that fits its fields,
and a shape passes over the fields that it does not have. So a value that does not suit its field
does not make an argument unreadable: the next shape is tried, and the type that stands beside
the value fits a later one. -/

namespace CppIntrospect

namespace Datum

variable {α : Type} {read : Datum → Option α} {fields : List (String × Datum)} {name : String}
  {value : Datum}

/-- A field has the name and the value, and no other field has the name. -/
def WrittenOnce (fields : List (String × Datum)) (name : String) (value : Datum) : Prop :=
  ∃ before after, fields = before ++ (name, value) :: after ∧
    ∀ field ∈ before ++ after, field.1 ≠ name

theorem named_eq_singleton_iff :
    named fields name = [(name, value)] ↔ WrittenOnce fields name value := by
  constructor
  · intro h
    obtain ⟨before, after, rfl, hb, -, ha⟩ := List.filter_eq_cons_iff.mp h
    refine ⟨before, after, rfl, fun field hf => ?_⟩
    rcases List.mem_append.mp hf with hf | hf
    · simpa using hb field hf
    · simpa using List.filter_eq_nil_iff.mp ha field hf
  · rintro ⟨before, after, rfl, hne⟩
    obtain ⟨hb, ha⟩ := List.forall_mem_append.mp hne
    have hbefore : named before name = [] := List.filter_eq_nil_iff.mpr (by simpa using hb)
    have hafter : named after name = [] := List.filter_eq_nil_iff.mpr (by simpa using ha)
    rw [named_append, hbefore, List.nil_append, named, List.filter_cons_of_pos (by simp)]
    exact congrArg _ hafter

theorem fieldOnce_eq_some_iff :
    fieldOnce fields name = some (some value) ↔ WrittenOnce fields name value := by
  rw [← named_eq_singleton_iff]
  constructor
  · intro h
    unfold fieldOnce at h
    split at h
    · cases h
    · next written held heq =>
      cases h
      have hm : (written, value) ∈ fields.filter (·.1 == name) := by simp [heq]
      obtain rfl : written = name := by simpa using (List.mem_filter.mp hm).2
      exact heq
    · cases h
  · intro h
    simp only [fieldOnce, h]

theorem required_eq_some_iff {a : α} : required read fields name = some a ↔
    ∃ value, WrittenOnce fields name value ∧ read value = some a := by
  rw [required]
  constructor
  · intro h
    split at h
    · next value hf => exact ⟨value, fieldOnce_eq_some_iff.mp hf, h⟩
    · cases h
  · rintro ⟨value, hw, hr⟩
    rw [fieldOnce_eq_some_iff.mpr hw]
    exact hr

theorem text?_eq_some_iff {text : String} : text? value = some text ↔ value = .text text := by
  cases value <;> simp [text?]

theorem bool?_eq_some_iff {flag : Bool} : bool? value = some flag ↔ value = .bool flag := by
  cases value <;> simp [bool?]

theorem int64?_eq_some_iff {word : Int64} :
    int64? value = some word ↔ value = .integer word.toInt := by
  constructor
  · intro h
    unfold int64? at h
    split at h
    · split at h
      · next hrange =>
        have hmin : Int64.minValue.toInt = -2 ^ 63 := by decide
        have hmax : Int64.maxValue.toInt = 2 ^ 63 - 1 := by decide
        rw [← Option.some.inj h, Int64.toInt_ofInt_of_le (by omega) (by omega)]
      · cases h
    · cases h
  · rintro rfl
    exact int64?_toInt word

theorem required_text_iff {text : String} :
    required text? fields name = some text ↔ WrittenOnce fields name (.text text) := by
  simp [required_eq_some_iff, text?_eq_some_iff]

theorem required_bool_iff {flag : Bool} :
    required bool? fields name = some flag ↔ WrittenOnce fields name (.bool flag) := by
  simp [required_eq_some_iff, bool?_eq_some_iff]

theorem required_int64_iff {word : Int64} :
    required int64? fields name = some word ↔ WrittenOnce fields name (.integer word.toInt) := by
  simp [required_eq_some_iff, int64?_eq_some_iff]

end Datum

namespace Manifest

open Datum

variable {fields : List (String × Datum)}

namespace ArgumentEntry

/-- The fields have the shape of the argument; what other fields there are does not matter. -/
inductive Fits (fields : List (String × Datum)) : ArgumentEntry → Prop
  | null {flag : Bool} : WrittenOnce fields "null" (.bool flag) → Fits fields (.null flag)
  | integral {value : Int64} {type : String} :
    WrittenOnce fields "integral" (.integer value.toInt) →
    WrittenOnce fields "type" (.text type) → Fits fields (.integral value type)
  | expression {text type : String} : WrittenOnce fields "expr" (.text text) →
    WrittenOnce fields "type" (.text type) → Fits fields (.expression text type)
  | type {spelling : String} : WrittenOnce fields "type" (.text spelling) →
    Fits fields (.type spelling)
  | decl {id : String} : WrittenOnce fields "decl" (.text id) → Fits fields (.decl id)
  | template {id : String} : WrittenOnce fields "template" (.text id) → Fits fields (.template id)
  | expansion {id : String} : WrittenOnce fields "expansion" (.text id) →
    Fits fields (.expansion id)
  | pack {items : List Datum} {elements : List ArgumentEntry} :
    WrittenOnce fields "pack" (.list items) →
    List.Forall₂ (fun item arg => decode item = some arg) items elements →
    Fits fields (.pack elements)

/-- The place of a shape in the order in which they are tried. -/
def place : ArgumentEntry → Nat
  | .null _ => 0
  | .integral _ _ => 1
  | .expression _ _ => 2
  | .type _ => 3
  | .decl _ => 4
  | .template _ => 5
  | .expansion _ => 6
  | .pack _ => 7

theorem decodeAll_eq_some_iff {items : List Datum} {args : List ArgumentEntry} :
    decodeAll items = some args ↔
      List.Forall₂ (fun item arg => decode item = some arg) items args := by
  induction items generalizing args with
  | nil => simp [decodeAll, eq_comm]
  | cons item items ih =>
    rw [decodeAll, List.forall₂_cons_left_iff]
    simp only [← ih]
    cases decode item <;> cases decodeAll items <;> simp [eq_comm]

theorem required_pack_iff {name : String} {elements : List ArgumentEntry} :
    required decodePack fields name = some elements ↔ ∃ items,
      WrittenOnce fields name (.list items) ∧
        List.Forall₂ (fun item arg => decode item = some arg) items elements := by
  rw [required_eq_some_iff]
  constructor
  · rintro ⟨value, hw, hr⟩
    cases value with
    | list items => exact ⟨items, hw, decodeAll_eq_some_iff.mp hr⟩
    | _ => cases hr
  · rintro ⟨items, hw, he⟩
    exact ⟨_, hw, decodeAll_eq_some_iff.mpr he⟩

/-- What each shape makes of the fields, in the order in which the shapes are tried. -/
def shapes (fields : List (String × Datum)) : List (Option ArgumentEntry) :=
  let type? := required text? fields "type"
  [(required bool? fields "null").map .null,
    (required int64? fields "integral").bind fun value => type?.map (.integral value),
    (required text? fields "expr").bind fun source => type?.map (.expression source),
    type?.map .type,
    (required text? fields "decl").map .decl,
    (required text? fields "template").map .template,
    (required text? fields "expansion").map .expansion,
    (required decodePack fields "pack").map .pack]

theorem decodePacks_eq (fields : List (String × Datum)) :
    decodePacks fields =
      (fields.filter (·.1 == "pack")).map fun field => decodePack field.2 := by
  induction fields with
  | nil => rfl
  | cons field fields ih => by_cases hn : field.1 = "pack" <;> simp [decodePacks, hn, ih]

theorem decode_record (fields : List (String × Datum)) :
    decode (.record fields) = (shapes fields).findSome? id := by
  have hpack : decode (.record fields) = ofFields fields (required decodePack fields "pack") := by
    rw [decode, decodePacks_eq]
    unfold required fieldOnce
    generalize fields.filter (·.1 == "pack") = packs
    rcases packs with _ | ⟨_, _ | _⟩ <;> rfl
  rw [hpack, ofFields]
  split
  case h_5 => split <;> simp [shapes, *]
  all_goals simp [shapes, *]

theorem Fits.getElem?_shapes {arg : ArgumentEntry} (h : arg.Fits fields) :
    (shapes fields)[arg.place]? = some (some arg) := by
  cases h with
  | null h => simp [shapes, place, required_bool_iff.mpr h]
  | integral h ht => simp [shapes, place, required_int64_iff.mpr h, required_text_iff.mpr ht]
  | expression h ht => simp [shapes, place, required_text_iff.mpr h, required_text_iff.mpr ht]
  | type h | decl h | template h | expansion h => simp [shapes, place, required_text_iff.mpr h]
  | pack h he => simp [shapes, place, required_pack_iff.mpr ⟨_, h, he⟩]

theorem fits_of_getElem?_shapes {arg : ArgumentEntry} {i : Nat}
    (h : (shapes fields)[i]? = some (some arg)) : arg.Fits fields ∧ arg.place = i := by
  rcases i with _ | _ | _ | _ | _ | _ | _ | _ | i
  · obtain ⟨_, hr, rfl⟩ := Option.map_eq_some_iff.mp (Option.some.inj h)
    exact ⟨.null (required_bool_iff.mp hr), rfl⟩
  · obtain ⟨_, hr, hmap⟩ := Option.bind_eq_some_iff.mp (Option.some.inj h)
    obtain ⟨_, ht, rfl⟩ := Option.map_eq_some_iff.mp hmap
    exact ⟨.integral (required_int64_iff.mp hr) (required_text_iff.mp ht), rfl⟩
  · obtain ⟨_, hr, hmap⟩ := Option.bind_eq_some_iff.mp (Option.some.inj h)
    obtain ⟨_, ht, rfl⟩ := Option.map_eq_some_iff.mp hmap
    exact ⟨.expression (required_text_iff.mp hr) (required_text_iff.mp ht), rfl⟩
  · obtain ⟨_, hr, rfl⟩ := Option.map_eq_some_iff.mp (Option.some.inj h)
    exact ⟨.type (required_text_iff.mp hr), rfl⟩
  · obtain ⟨_, hr, rfl⟩ := Option.map_eq_some_iff.mp (Option.some.inj h)
    exact ⟨.decl (required_text_iff.mp hr), rfl⟩
  · obtain ⟨_, hr, rfl⟩ := Option.map_eq_some_iff.mp (Option.some.inj h)
    exact ⟨.template (required_text_iff.mp hr), rfl⟩
  · obtain ⟨_, hr, rfl⟩ := Option.map_eq_some_iff.mp (Option.some.inj h)
    exact ⟨.expansion (required_text_iff.mp hr), rfl⟩
  · obtain ⟨_, hr, rfl⟩ := Option.map_eq_some_iff.mp (Option.some.inj h)
    obtain ⟨_, hw, he⟩ := required_pack_iff.mp hr
    exact ⟨.pack hw he, rfl⟩
  · cases h

/-- A record is read as the first shape that fits it. -/
theorem decode_record_eq_some_iff {arg : ArgumentEntry} :
    decode (.record fields) = some arg ↔
      arg.Fits fields ∧ ∀ other : ArgumentEntry, other.Fits fields → arg.place ≤ other.place := by
  rw [decode_record, List.findSome?_eq_some_iff]
  constructor
  · -- A shape that fits stands at its place, and before the first answer there is none.
    rintro ⟨before, shape, after, hs, hshape, hbefore⟩
    obtain rfl : shape = some arg := hshape
    obtain ⟨hf, hplace⟩ := @fits_of_getElem?_shapes fields arg before.length (by simp [hs])
    refine ⟨hf, fun other ho => Nat.le_of_not_lt fun hlt => ?_⟩
    have hother := ho.getElem?_shapes
    rw [hs, List.getElem?_append_left (hplace ▸ hlt)] at hother
    cases hbefore _ (List.mem_of_getElem? hother)
  · rintro ⟨hf, hfirst⟩
    obtain ⟨hlt, hget⟩ := List.getElem?_eq_some_iff.mp hf.getElem?_shapes
    refine ⟨(shapes fields).take arg.place, some arg, (shapes fields).drop (arg.place + 1), ?_, rfl,
      fun shape hm => ?_⟩
    · rw [← hget, List.getElem_cons_drop, List.take_append_drop]
    · obtain ⟨i, hi⟩ := List.mem_iff_getElem?.mp hm
      rw [List.getElem?_take] at hi
      split at hi
      · next hlt =>
        cases shape with
        | none => rfl
        | some found =>
          obtain ⟨hfound, rfl⟩ := fits_of_getElem?_shapes hi
          exact absurd (hfirst found hfound) (Nat.not_le_of_lt hlt)
      · cases hi

/-- What stands beside a type is read as a value or as an expression only if it suits its field.
Otherwise it is passed over, and the type becomes the argument. -/
theorem read_as_type_iff (fields : List (String × Datum)) (spelling : String) :
    (decode (.record fields) = some (.type spelling) ↔
      WrittenOnce fields "type" (.text spelling) ∧
        (∀ flag, ¬ WrittenOnce fields "null" (.bool flag)) ∧
        (∀ value : Int64, ¬ WrittenOnce fields "integral" (.integer value.toInt)) ∧
        ∀ source, ¬ WrittenOnce fields "expr" (.text source)) ∧
    (∀ value, decode (.record fields) = some (.integral value spelling) ↔
      WrittenOnce fields "type" (.text spelling) ∧
        WrittenOnce fields "integral" (.integer value.toInt) ∧
        ∀ flag, ¬ WrittenOnce fields "null" (.bool flag)) ∧
    ∀ source, decode (.record fields) = some (.expression source spelling) ↔
      WrittenOnce fields "type" (.text spelling) ∧ WrittenOnce fields "expr" (.text source) ∧
        (∀ flag, ¬ WrittenOnce fields "null" (.bool flag)) ∧
        ∀ value : Int64, ¬ WrittenOnce fields "integral" (.integer value.toInt) := by
  refine ⟨?_, fun value => ?_, fun source => ?_⟩
  · rw [decode_record_eq_some_iff]
    constructor
    · rintro ⟨hf, hfirst⟩
      cases hf with
      | type ht =>
        refine ⟨ht, fun flag h => ?_, fun value h => ?_, fun source h => ?_⟩
        · exact absurd (hfirst _ (.null h)) (by simp [place])
        · exact absurd (hfirst _ (.integral h ht)) (by simp [place])
        · exact absurd (hfirst _ (.expression h ht)) (by simp [place])
    · rintro ⟨ht, hnull, hword, hexpr⟩
      refine ⟨.type ht, fun other ho => ?_⟩
      cases ho with
      | null h => exact absurd h (hnull _)
      | integral h => exact absurd h (hword _)
      | expression h => exact absurd h (hexpr _)
      | _ => simp [place]
  · rw [decode_record_eq_some_iff]
    constructor
    · rintro ⟨hf, hfirst⟩
      cases hf with
      | integral hv ht =>
        exact ⟨ht, hv, fun flag h => absurd (hfirst _ (.null h)) (by simp [place])⟩
    · rintro ⟨ht, hv, hnull⟩
      refine ⟨.integral hv ht, fun other ho => ?_⟩
      cases ho with
      | null h => exact absurd h (hnull _)
      | _ => simp [place]
  · rw [decode_record_eq_some_iff]
    constructor
    · rintro ⟨hf, hfirst⟩
      cases hf with
      | expression hs ht =>
        refine ⟨ht, hs, fun flag h => ?_, fun value h => ?_⟩
        · exact absurd (hfirst _ (.null h)) (by simp [place])
        · exact absurd (hfirst _ (.integral h ht)) (by simp [place])
    · rintro ⟨ht, hs, hnull, hword⟩
      refine ⟨.expression hs ht, fun other ho => ?_⟩
      cases ho with
      | null h => exact absurd h (hnull _)
      | integral h => exact absurd h (hword _)
      | _ => simp [place]

/-- An integer that is too large for its field, and an expression that is no text. -/
theorem value_read_as_type :
    let read := fun text => ((Json.parse? text).bind (Json.toDatum jsonDepth)).bind decode
    let large := [("integral", .integer 9223372036854775808), ("type", .text "unsigned long")]
    decode (.record large) = some (.type "unsigned long") ∧
      (read "\x7b\"integral\": 9223372036854775808, \"type\": \"unsigned long\"\x7d").map place =
        some (place (.type "unsigned long")) ∧
      (read "\x7b\"expr\": 4, \"type\": \"int\"\x7d").map place = some (place (.type "int")) :=
  ⟨rfl, by decide +kernel, by decide +kernel⟩

end ArgumentEntry

end Manifest

end CppIntrospect
