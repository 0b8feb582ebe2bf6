import CppIntrospect.Text.Hexadecimal

/-! The texts of TOML: blanks, comments, line ends, the four kinds of strings, and keys. -/

namespace CppIntrospect.Toml

open Text

def isSpace (c : Char) : Bool := c == ' ' || c == '\t'

def skipSpace (s : List Char) : List Char := s.dropWhile isSpace

/-- A character that may stand in a comment or a string: the tab, and all others that are no
control characters. -/
def isPlain (c : Char) : Bool := c == '\t' || (' ' ≤ c && c != '\x7f')

/-- A line end at the front of a text. -/
def lineEnd? : List Char → Option (List Char)
  | '\n' :: s => some s
  | '\r' :: '\n' :: s => some s
  | _ => none

/-- Skips a comment, up to the end of its line. -/
def skipComment : List Char → List Char
  | '#' :: s => s.dropWhile isPlain
  | s => s

/-- The rest of a line with nothing but blanks and a comment, and its end. -/
def finishLine (s : List Char) : Option (List Char) :=
  match skipComment (skipSpace s) with
  | [] => some []
  | s => lineEnd? s

/-- Skips blanks, line ends, and comments that end with a line, as may stand between the
items of a list. -/
def skipLines (s : List Char) : List Char :=
  match lineEnd? (skipComment (skipSpace s)) with
  | some rest => if rest.length < s.length then skipLines rest else skipSpace s
  | none => skipSpace s
termination_by s.length

/-- The character that a number stands for. -/
def scalar? (n : Nat) : Option Char := if n.isValidChar then some (Char.ofNat n) else none

def escaped? : Char → Option Char
  | 'b' => some '\x08'
  | 't' => some '\t'
  | 'n' => some '\n'
  | 'f' => some '\x0c'
  | 'r' => some '\r'
  | '"' => some '"'
  | '\\' => some '\\'
  | _ => none

/-- An escape after its backslash. -/
def readEscape : List Char → Option (Char × List Char)
  | 'u' :: a :: b :: c :: d :: s => do
    return (← scalar? (← hexNumber? [a, b, c, d]), s)
  | 'U' :: a :: b :: c :: d :: e :: f :: g :: h :: s => do
    return (← scalar? (← hexNumber? [a, b, c, d, e, f, g, h]), s)
  | e :: s => (escaped? e).map (·, s)
  | [] => none

theorem length_readEscape {s rest : List Char} {c : Char} (h : readEscape s = some (c, rest)) :
    rest.length < s.length := by
  unfold readEscape at h
  split at h
  · simp only [Option.pure_def, Option.bind_eq_bind, Option.bind_eq_some_iff, Option.some.injEq,
      Prod.mk.injEq] at h
    obtain ⟨_, _, _, _, _, rfl⟩ := h
    simp only [List.length_cons]
    omega
  · simp only [Option.pure_def, Option.bind_eq_bind, Option.bind_eq_some_iff, Option.some.injEq,
      Prod.mk.injEq] at h
    obtain ⟨_, _, _, _, _, rfl⟩ := h
    simp only [List.length_cons]
    omega
  · obtain ⟨_, _, he⟩ := Option.map_eq_some_iff.mp h
    cases he
    simp
  · cases h

/-- A string in double quotes, after the opening quote. -/
def readBasic (s : List Char) : Option (List Char × List Char) :=
  match s with
  | [] => none
  | '"' :: s => some ([], s)
  | '\\' :: s =>
    match h : readEscape s with
    | some (c, rest) =>
      have := length_readEscape h
      (readBasic rest).map fun (cs, rest) => (c :: cs, rest)
    | none => none
  | c :: s =>
    if isPlain c then (readBasic s).map fun (cs, rest) => (c :: cs, rest) else none
termination_by s.length

/-- A string in single quotes, after the opening quote. It has no escapes. -/
def readLiteral : List Char → Option (List Char × List Char)
  | [] => none
  | '\x27' :: s => some ([], s)
  | c :: s => if isPlain c then (readLiteral s).map fun (cs, rest) => (c :: cs, rest) else none

/-- After the three closing quotes: up to two more belong to the string. -/
def closing (quote : Char) : List Char → List Char × List Char
  | a :: b :: s =>
    if a = quote then if b = quote then ([quote, quote], s) else ([quote], b :: s)
    else ([], a :: b :: s)
  | [a] => if a = quote then ([quote], []) else ([], [a])
  | [] => ([], [])

/-- Skips blanks and line ends. -/
def skipBlankLines : List Char → List Char
  | '\r' :: '\n' :: s => skipBlankLines s
  | c :: s => if isSpace c || c == '\n' then skipBlankLines s else c :: s
  | [] => []

/-- A line end after a backslash and blanks: it is dropped together with all blanks and line
ends that follow. -/
def skipJoinedLines (s : List Char) : Option (List Char) :=
  (lineEnd? (skipSpace s)).map skipBlankLines

/-- A string over several lines in double quotes, after the opening quotes. The number
bounds the characters read. -/
def readBasicLines : Nat → List Char → Option (List Char × List Char)
  | 0, _ => none
  | fuel + 1, s =>
    match s with
    | [] => none
    | '"' :: '"' :: '"' :: s => some (closing '"' s)
    | '\\' :: s =>
      match skipJoinedLines s with
      | some rest => readBasicLines fuel rest
      | none => do
        let (c, rest) ← readEscape s
        let (cs, rest) ← readBasicLines fuel rest
        return (c :: cs, rest)
    | c :: s =>
      match lineEnd? (c :: s) with
      | some rest => (readBasicLines fuel rest).map fun (cs, rest) => ('\n' :: cs, rest)
      | none =>
        if isPlain c then (readBasicLines fuel s).map fun (cs, rest) => (c :: cs, rest)
        else none

/-- A string over several lines in single quotes, after the opening quotes. -/
def readLiteralLines : Nat → List Char → Option (List Char × List Char)
  | 0, _ => none
  | fuel + 1, s =>
    match s with
    | [] => none
    | '\x27' :: '\x27' :: '\x27' :: s => some (closing '\x27' s)
    | c :: s =>
      match lineEnd? (c :: s) with
      | some rest => (readLiteralLines fuel rest).map fun (cs, rest) => ('\n' :: cs, rest)
      | none =>
        if isPlain c then (readLiteralLines fuel s).map fun (cs, rest) => (c :: cs, rest)
        else none

/-- A line end right after the opening quotes does not belong to the string. -/
def skipFirstLineEnd (s : List Char) : List Char := (lineEnd? s).getD s

/-- A string of any kind. -/
def readString : List Char → Option (String × List Char)
  | '"' :: '"' :: '"' :: s =>
    (readBasicLines (s.length + 1) (skipFirstLineEnd s)).map fun (cs, rest) =>
      (String.ofList cs, rest)
  | '"' :: s => (readBasic s).map fun (cs, rest) => (String.ofList cs, rest)
  | '\x27' :: '\x27' :: '\x27' :: s =>
    (readLiteralLines (s.length + 1) (skipFirstLineEnd s)).map fun (cs, rest) =>
      (String.ofList cs, rest)
  | '\x27' :: s => (readLiteral s).map fun (cs, rest) => (String.ofList cs, rest)
  | _ => none

def isBareKeyChar (c : Char) : Bool := c.isAlphanum || c == '-' || c == '_'

/-- One part of a key: a string on one line, or plain letters, digits, dashes and
underscores. -/
def readKeyPart : List Char → Option (String × List Char)
  | '"' :: s => (readBasic s).map fun (cs, rest) => (String.ofList cs, rest)
  | '\x27' :: s => (readLiteral s).map fun (cs, rest) => (String.ofList cs, rest)
  | s =>
    match s.takeWhile isBareKeyChar with
    | [] => none
    | part => some (String.ofList part, s.dropWhile isBareKeyChar)

/-- The parts of a key, with dots between them. -/
def readKeyParts : Nat → List Char → Option (List String × List Char)
  | 0, _ => none
  | fuel + 1, s => do
    let (part, s) ← readKeyPart (skipSpace s)
    match skipSpace s with
    | '.' :: s =>
      let (parts, s) ← readKeyParts fuel s
      return (part :: parts, s)
    | s => return ([part], s)

/-- Nested lists and records, and the parts of a key, stay below this number. -/
def depthLimit : Nat := 80

/-- A key of fewer parts than the limit. -/
def readKey (s : List Char) : Option (List String × List Char) := readKeyParts (depthLimit - 1) s

end CppIntrospect.Toml
