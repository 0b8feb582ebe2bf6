import CppIntrospect.CppType.Basic
import CppIntrospect.Text.Blank
import CppIntrospect.Text.Decimal

/-! Reading a type from its spelling. Declarators are taken off the end, the last one
first, and what is left has to be a keyword type or look like a qualified name. -/

namespace CppIntrospect

/-- Every way to write a keyword type. -/
def Builtin.spellings : List (String × Builtin) :=
  [("void", .void), ("bool", .bool),
    ("char", .integer .char true), ("signed char", .integer .char true),
    ("unsigned char", .integer .char false),
    ("short", .integer .short true), ("short int", .integer .short true),
    ("unsigned short", .integer .short false), ("unsigned short int", .integer .short false),
    ("int", .integer .int true), ("signed", .integer .int true),
    ("signed int", .integer .int true),
    ("unsigned", .integer .int false), ("unsigned int", .integer .int false),
    ("long", .integer .long true), ("long int", .integer .long true),
    ("unsigned long", .integer .long false), ("unsigned long int", .integer .long false),
    ("long long", .integer .longLong true), ("long long int", .integer .longLong true),
    ("unsigned long long", .integer .longLong false),
    ("unsigned long long int", .integer .longLong false),
    ("float", .float), ("double", .double)]

def Builtin.ofSpelling? (spelling : String) : Option Builtin := Builtin.spellings.lookup spelling

namespace CppType

open Text

def isNameStart (c : Char) : Bool := c.isAlpha || c == '_' || c == ':'

def isNameChar (c : Char) : Bool :=
  c.isAlphanum || c == '_' || c == ':' || c == '<' || c == '>' || c == ',' || c == ' '

/-- Whether a text can stand for a record, an alias or a template with its arguments. -/
def looksLikeName : List Char → Bool
  | [] => false
  | c :: cs => isNameStart c && (c :: cs).all isNameChar

def parseLeaf (s : List Char) : Option CppType :=
  match Builtin.ofSpelling? (String.ofList s) with
  | some type => some (builtin type)
  | none => if looksLikeName s then some (named (String.ofList s)) else none

/-- The text under a pointer or reference, and whether a `const` stood in front of it. -/
def stripConst (s : List Char) : List Char × Bool :=
  match trim s with
  | 'c' :: 'o' :: 'n' :: 's' :: 't' :: ' ' :: rest => (trim rest, true)
  | rest => (rest, false)

/-- The number between the brackets of an array; blank for an array of unknown size. -/
def parseSize (s : List Char) : Option (Option UInt64) :=
  match trim s with
  | [] => some none
  | digits => (word64? digits).map some

theorem length_stripConst_le (s : List Char) : (stripConst s).1.length ≤ s.length := by
  have h := length_trim_le s
  unfold stripConst
  split
  · rename_i rest he
    have h' := length_trim_le rest
    rw [he] at h
    simp only [List.length_cons] at h
    simp only
    omega
  · exact h

theorem length_of_trim_reverse {s r : List Char} {c : Char} (h : (trim s).reverse = c :: r) :
    r.length < s.length := by
  have h' := congrArg List.length h
  have := length_trim_le s
  simp only [List.length_reverse, List.length_cons] at h'
  omega

theorem length_stripConst_lt {s r : List Char} {c : Char} (h : (trim s).reverse = c :: r) :
    (stripConst r.reverse).1.length < s.length := by
  have h₁ := length_of_trim_reverse h
  have h₂ := length_stripConst_le r.reverse
  rw [List.length_reverse] at h₂
  omega

theorem length_stripConst_lt_of_two {s r : List Char} {c d : Char}
    (h : (trim s).reverse = c :: d :: r) : (stripConst r.reverse).1.length < s.length := by
  have h₁ := length_of_trim_reverse h
  have h₂ := length_stripConst_le r.reverse
  rw [List.length_cons] at h₁
  rw [List.length_reverse] at h₂
  omega

theorem length_element_lt {s r element : List Char} {c d : Char} {p : Char → Bool}
    (h : (trim s).reverse = c :: r) (hd : r.dropWhile p = d :: element) :
    element.length < s.length := by
  have h₁ := length_of_trim_reverse h
  have h₂ := length_dropWhile_le p r
  rw [hd, List.length_cons] at h₂
  omega

/-- The type that a spelling stands for. -/
def parseChars (s : List Char) : Option CppType :=
  match h : (trim s).reverse with
  | [] => none
  | '&' :: '&' :: r =>
    have := length_stripConst_lt_of_two h
    (parseChars (stripConst r.reverse).1).map (reference · (stripConst r.reverse).2 true)
  | '&' :: r =>
    have := length_stripConst_lt h
    (parseChars (stripConst r.reverse).1).map (reference · (stripConst r.reverse).2 false)
  | '*' :: r =>
    have := length_stripConst_lt h
    (parseChars (stripConst r.reverse).1).map (pointer · (stripConst r.reverse).2)
  | ']' :: r =>
    match hd : r.dropWhile (· != '['), parseSize (r.takeWhile (· != '[')).reverse with
    | _ :: element, some size =>
      have := length_element_lt h hd
      (parseChars element.reverse).map (array · size)
    | _, _ => none
  | _ => parseLeaf (trim s)
termination_by s.length

def parse? (spelling : String) : Option CppType := parseChars spelling.toList

end CppType

end CppIntrospect
