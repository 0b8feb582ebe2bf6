import CppIntrospect.Data.Datum
import CppIntrospect.Json.Number
import CppIntrospect.Text.Hexadecimal

/-! Reading JSON. A text is read in two steps. The first takes any text with the grammar of
JSON, nested to any depth. The second turns it into data, and refuses what has no place
there: strings that are no Unicode text, numbers beyond the doubles, and deep nesting. -/

namespace CppIntrospect

/-- A JSON text by its grammar alone. -/
inductive Json where
  | null
  | bool (value : Bool)
  | integer (value : Int)
  | real (inRange : Bool)
  /-- `none` if the escapes do not form Unicode text. -/
  | string (value : Option String)
  | array (items : List Json)
  | object (members : List (Option String × Json))
  deriving Repr

namespace Json

open Text

def isSpace (c : Char) : Bool := c == ' ' || c == '\n' || c == '\t' || c == '\r'

def skipSpace (s : List Char) : List Char := s.dropWhile isSpace

/-- A piece of a string: a character, or a unit of UTF-16 written as an escape. -/
inductive Piece where
  | char (c : Char)
  | unit (n : Nat)

def escaped? : Char → Option Char
  | '"' => some '"'
  | '\\' => some '\\'
  | '/' => some '/'
  | 'b' => some '\x08'
  | 'f' => some '\x0c'
  | 'n' => some '\n'
  | 'r' => some '\r'
  | 't' => some '\t'
  | _ => none

/-- The pieces of a string up to its closing quote. -/
def readPieces : List Char → Option (List Piece × List Char)
  | [] => none
  | '"' :: s => some ([], s)
  | '\\' :: 'u' :: a :: b :: c :: d :: s => do
    let n ← hexNumber? [a, b, c, d]
    let (pieces, rest) ← readPieces s
    return (.unit n :: pieces, rest)
  | '\\' :: e :: s => do
    let c ← escaped? e
    let (pieces, rest) ← readPieces s
    return (.char c :: pieces, rest)
  | c :: s => do
    if c.toNat < 0x20 ∨ c = '\\' then none
    else
      let (pieces, rest) ← readPieces s
      return (.char c :: pieces, rest)

def isHighUnit (n : Nat) : Bool := 0xD800 ≤ n && n < 0xDC00

def isLowUnit (n : Nat) : Bool := 0xDC00 ≤ n && n < 0xE000

/-- The characters of a string. Units for the halves of a character have to come in pairs. -/
def assemble : List Piece → Option (List Char)
  | [] => some []
  | .char c :: pieces => (assemble pieces).map (c :: ·)
  | .unit high :: .unit low :: pieces =>
    if isHighUnit high then
      if isLowUnit low then
        (assemble pieces).map
          (Char.ofNat (0x10000 + (high - 0xD800) * 0x400 + (low - 0xDC00)) :: ·)
      else none
    else if isLowUnit high then none
    else (assemble (.unit low :: pieces)).map (Char.ofNat high :: ·)
  | .unit n :: pieces =>
    if isHighUnit n || isLowUnit n then none else (assemble pieces).map (Char.ofNat n :: ·)

/-- A string after its opening quote. -/
def readString (s : List Char) : Option (Option String × List Char) := do
  let (pieces, rest) ← readPieces s
  return ((assemble pieces).map String.ofList, rest)

def ofNumeral (n : Numeral) : Json :=
  match n.integer? with
  | some value => integer value
  | none => real n.inRange

mutual

/-- A value at the front of a text without leading space. -/
def readValue : Nat → List Char → Option (Json × List Char)
  | 0, _ => none
  | fuel + 1, s =>
    match s with
    | 'n' :: 'u' :: 'l' :: 'l' :: s => some (null, s)
    | 't' :: 'r' :: 'u' :: 'e' :: s => some (bool true, s)
    | 'f' :: 'a' :: 'l' :: 's' :: 'e' :: s => some (bool false, s)
    | '"' :: s => (readString s).map fun (value, s) => (string value, s)
    | '[' :: s =>
      match skipSpace s with
      | ']' :: s => some (array [], s)
      | s => (readItems fuel s).map fun (items, s) => (array items, s)
    | '\x7b' :: s =>
      match skipSpace s with
      | '\x7d' :: s => some (object [], s)
      | s => (readMembers fuel s).map fun (members, s) => (object members, s)
    | s => (readNumeral s).map fun (n, s) => (ofNumeral n, s)

/-- One or more items and the closing bracket. -/
def readItems : Nat → List Char → Option (List Json × List Char)
  | 0, _ => none
  | fuel + 1, s => do
    let (item, s) ← readValue fuel s
    match skipSpace s with
    | ']' :: s => return ([item], s)
    | ',' :: s =>
      let (items, s) ← readItems fuel (skipSpace s)
      return (item :: items, s)
    | _ => none

/-- One or more members and the closing brace. -/
def readMembers : Nat → List Char → Option (List (Option String × Json) × List Char)
  | 0, _ => none
  | fuel + 1, s => do
    let '"' :: s := s | none
    let (name, s) ← readString s
    let ':' :: s := skipSpace s | none
    let (value, s) ← readValue fuel (skipSpace s)
    match skipSpace s with
    | '\x7d' :: s => return ([(name, value)], s)
    | ',' :: s =>
      let (members, s) ← readMembers fuel (skipSpace s)
      return ((name, value) :: members, s)
    | _ => none

end

/-- A whole text. A step that reads no character is followed by one that does, so twice the
length of the text is enough steps. -/
def parse? (text : String) : Option Json :=
  let s := text.toList
  match readValue (2 * s.length + 2) (skipSpace s) with
  | some (value, rest) => if (skipSpace rest).isEmpty then some value else none
  | none => none

mutual

/-- The data of a value that may hold lists and records within each other `depth` times. -/
def toDatum (depth : Nat) : Json → Option Datum
  | null => some .null
  | bool value => some (.bool value)
  | integer value => some (.integer value)
  | real inRange => if inRange then some .other else none
  | string value => value.map .text
  | array items => if depth = 0 then none else (itemsToData (depth - 1) items).map .list
  | object members => if depth = 0 then none else (membersToData (depth - 1) members).map .record

def itemsToData (depth : Nat) : List Json → Option (List Datum)
  | [] => some []
  | item :: items =>
    match toDatum depth item, itemsToData depth items with
    | some datum, some data => some (datum :: data)
    | _, _ => none

def membersToData (depth : Nat) :
    List (Option String × Json) → Option (List (String × Datum))
  | [] => some []
  | (name, value) :: members =>
    match name, toDatum depth value, membersToData depth members with
    | some name, some datum, some fields => some ((name, datum) :: fields)
    | _, _, _ => none

end

end Json

end CppIntrospect
