/-! Whole numbers written in decimal digits, with an optional sign. -/

namespace CppIntrospect.Text

def isDigit (c : Char) : Bool := '0' ≤ c && c ≤ '9'

def digitValue (c : Char) : Nat := c.toNat - '0'.toNat

/-- The value of a run of digits, the most significant first. -/
def digitsValue (s : List Char) : Nat := s.foldl (fun n c => 10 * n + digitValue c) 0

/-- A number written as one or more digits and nothing else. -/
def digits? (s : List Char) : Option Nat :=
  if s.isEmpty || !s.all isDigit then none else some (digitsValue s)

/-- Digits, possibly after a plus sign. -/
def unsigned? : List Char → Option Nat
  | '+' :: s => digits? s
  | s => digits? s

/-- Digits, possibly after a plus or minus sign. -/
def signed? : List Char → Option Int
  | '+' :: s => (digits? s).map Int.ofNat
  | '-' :: s => (digits? s).map fun n => -Int.ofNat n
  | s => (digits? s).map Int.ofNat

/-- An unsigned 64-bit number; larger ones are not read. -/
def word64? (s : List Char) : Option UInt64 :=
  match unsigned? s with
  | some n => if n < UInt64.size then some (UInt64.ofNat n) else none
  | none => none

/-- Whether a number fits a signed word of 128 bits. -/
def fits128 (n : Int) : Bool :=
  -Int.ofNat (1 <<< 127) ≤ n && n < Int.ofNat (1 <<< 127)

/-- A signed 128-bit number; others are not read. -/
def integer128? (s : List Char) : Option Int :=
  match signed? s with
  | some n => if fits128 n then some n else none
  | none => none

end CppIntrospect.Text
