import CppIntrospect.Toml.Scalar
import CppIntrospect.Toml.Table

/-! Values, lines and whole texts of TOML. A text is read line by line into statements, which
then build up the tables. -/

namespace CppIntrospect.Toml

/-- A way to read a value from the front of a text. -/
abbrev Reader := List Char → Option (Datum × List Char)

/-- The items of a list after its opening bracket. A comma may follow the last one. -/
def readItems (read : Reader) (s : List Char) : Option (List Datum × List Char) :=
  match skipLines s with
  | ']' :: rest => some ([], rest)
  | s' =>
    match read s' with
    | none => none
    | some (item, rest) =>
      match skipLines rest with
      | ']' :: rest => some ([item], rest)
      | ',' :: rest =>
        if rest.length < s.length then
          (readItems read rest).map fun (items, rest) => (item :: items, rest)
        else none
      | _ => none
termination_by s.length

/-- A key, an equals sign, and a value. -/
def readPairWith (read : Reader) (s : List Char) :
    Option (List String × Datum × List Char) := do
  let (key, s) ← readKey s
  let s ← readMark '=' s
  let (value, rest) ← read (skipSpace s)
  return (key, value, rest)

/-- The pairs of a record in braces, one or more, on one line. -/
def readPairs (read : Reader) (fields : Fields) (s : List Char) :
    Option (Fields × List Char) :=
  match readPairWith read s with
  | none => none
  | some (key, value, rest) =>
    match fields.add value key with
    | none => none
    | some fields =>
      match skipSpace rest with
      | '\x7d' :: rest => some (fields, rest)
      | ',' :: rest => if rest.length < s.length then readPairs read fields rest else none
      | _ => none
termination_by s.length

/-- A record in braces, after the opening one. -/
def readRecord (read : Reader) (s : List Char) : Option (Datum × List Char) :=
  match skipSpace s with
  | '\x7d' :: rest => some (.record [], rest)
  | s => (readPairs read [] s).map fun (fields, rest) => (.record (fieldData fields), rest)

/-- A value, with at most so many lists and records within each other. -/
def readValue : Nat → Reader
  | depth, '[' :: s =>
    match depth with
    | 0 => none
    | depth + 1 => (readItems (readValue depth) s).map fun (items, rest) => (.list items, rest)
  | depth, '\x7b' :: s =>
    match depth with
    | 0 => none
    | depth + 1 => readRecord (readValue depth) s
  | _, '"' :: s => (readString ('"' :: s)).map fun (text, rest) => (.text text, rest)
  | _, '\x27' :: s => (readString ('\x27' :: s)).map fun (text, rest) => (.text text, rest)
  | _, 't' :: 'r' :: 'u' :: 'e' :: rest => some (.bool true, rest)
  | _, 'f' :: 'a' :: 'l' :: 's' :: 'e' :: rest => some (.bool false, rest)
  | _, s => readNumber s

/-- What a line of a text says. -/
inductive Statement where
  | blank
  | header (key : List String)
  | itemHeader (key : List String)
  | pair (key : List String) (value : Datum)

/-- One line, or the several lines that a value takes. -/
def readStatement : List Char → Option (Statement × List Char)
  | '[' :: '[' :: s => do
    let (key, s) ← readKey s
    let s ← readMark ']' s
    let s ← readMark ']' s
    return (.itemHeader key, ← finishLine s)
  | '[' :: s => do
    let (key, s) ← readKey s
    let s ← readMark ']' s
    return (.header key, ← finishLine s)
  | s =>
    match finishLine s with
    | some rest => some (.blank, rest)
    | none => do
      let (key, value, rest) ← readPairWith (readValue (depthLimit - 1)) s
      return (.pair key value, ← finishLine rest)

/-- All lines of a text. -/
def readStatements (s : List Char) : Option (List Statement) :=
  match skipSpace s with
  | [] => some []
  | s' =>
    match readStatement s' with
    | none => none
    | some (statement, rest) =>
      if rest.length < s.length then (readStatements rest).map (statement :: ·) else none
termination_by s.length

/-- The tables read so far, and the header under which the next pairs stand. -/
structure Document where
  root : Fields := []
  path : List String := []

namespace Document

def run (document : Document) : Statement → Option Document
  | .blank => some document
  | .pair key value => do
    return { document with root := ← document.root.within (Fields.add value key) document.path }
  | .header key => do
    let name ← key.getLast?
    return ⟨← document.root.openTable key.dropLast name, key⟩
  | .itemHeader key => do
    let name ← key.getLast?
    return ⟨← document.root.openItem key.dropLast name, key⟩

end Document

/-- The record that a text stands for. A byte order mark in front is skipped. -/
def parse? (text : String) : Option Datum := do
  let s :=
    match text.toList with
    | '\ufeff' :: s => s
    | s => s
  let statements ← readStatements s
  let document ← statements.foldlM Document.run {}
  return .record (fieldData document.root)

end CppIntrospect.Toml
