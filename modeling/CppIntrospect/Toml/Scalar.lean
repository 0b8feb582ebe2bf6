import CppIntrospect.Data.Datum
import CppIntrospect.Text.Decimal
import CppIntrospect.Toml.Text

/-! Numbers, dates and times of TOML. -/

namespace CppIntrospect.Toml

open Text

/-! Digits with underscores between them. -/

/-- Digits that follow a first digit; an underscore stands between two digits only. -/
def spanGrouped (digit : Char → Bool) : List Char → List Char × List Char
  | '_' :: c :: s =>
    if digit c then
      let (cs, rest) := spanGrouped digit s
      (c :: cs, rest)
    else ([], '_' :: c :: s)
  | c :: s =>
    if digit c then
      let (cs, rest) := spanGrouped digit s
      (c :: cs, rest)
    else ([], c :: s)
  | [] => ([], [])

/-- One or more digits, the underscores between them left out. -/
def readGrouped (digit : Char → Bool) : List Char → Option (List Char × List Char)
  | c :: s =>
    if digit c then
      let (cs, rest) := spanGrouped digit s
      some (c :: cs, rest)
    else none
  | [] => none

/-- A sign, true if it is a minus. -/
def readSign : List Char → Bool × List Char
  | '-' :: s => (true, s)
  | '+' :: s => (false, s)
  | s => (false, s)

/-- The digits of a decimal number: a zero, or digits that do not start with one. -/
def readDecimalDigits : List Char → Option (List Char × List Char)
  | '0' :: s => some (['0'], s)
  | s => readGrouped isDigit s

/-! Integers. -/

/-- The value of digits in a base up to sixteen. -/
def baseValue (base : Nat) (digits : List Char) : Nat :=
  digits.foldl (fun n c => base * n + (hexValue? c).getD 0) 0

def isBaseDigit (base : Nat) (c : Char) : Bool :=
  match hexValue? c with
  | some value => value < base
  | none => false

/-- An integer of 64 bits with sign. -/
def integer64? (value : Int) : Option Datum :=
  if Int64.minValue.toInt ≤ value ∧ value ≤ Int64.maxValue.toInt then some (.integer value)
  else none

def readBased (base : Nat) (s : List Char) : Option (Datum × List Char) := do
  let (digits, rest) ← readGrouped (isBaseDigit base) s
  return (← integer64? (baseValue base digits), rest)

/-- An integer: in base 16, 8 or 2 after its mark, else decimal with an optional sign. -/
def readInteger : List Char → Option (Datum × List Char)
  | '0' :: 'x' :: s => readBased 16 s
  | '0' :: 'o' :: s => readBased 8 s
  | '0' :: 'b' :: s => readBased 2 s
  | s => do
    let (negative, s) := readSign s
    let (digits, rest) ← readDecimalDigits s
    let value : Int := digitsValue digits
    return (← integer64? (if negative then -value else value), rest)

/-! Numbers with a fraction or an exponent. -/

/-- Whether digits times a power of ten reach the numbers that round beyond the largest
double. Numbers that are far off are not computed. -/
def exceedsDouble (digits : List Char) (power : Int) : Bool :=
  let significant := digits.dropWhile (· == '0')
  let magnitude := (significant.length : Int) + power
  if significant.isEmpty || magnitude < 300 then false
  else if 320 < magnitude then true
  else
    (1 <<< 1024 - 1 <<< 970) * Nat.pow 10 (-power).toNat ≤
      digitsValue significant * Nat.pow 10 power.toNat

/-- The digits after a point. -/
def readFraction : List Char → Option (List Char × List Char)
  | '.' :: s => readGrouped isDigit s
  | _ => none

def readExponent : List Char → Option (Int × List Char)
  | c :: s =>
    if c = 'e' ∨ c = 'E' then do
      let (negative, s) := readSign s
      let (digits, rest) ← readGrouped isDigit s
      let value : Int := digitsValue digits
      return (if negative then -value else value, rest)
    else none
  | [] => none

/-- A number with a fraction, an exponent, or both. One that is too large is refused, one that
is too far below zero is not. -/
def readFloat (s : List Char) : Option (Datum × List Char) := do
  let (negative, s) := readSign s
  let (whole, s) ← readDecimalDigits s
  let (fraction, exponent, rest) ←
    match readFraction s with
    | some (fraction, s) =>
      match readExponent s with
      | some (exponent, rest) => some (fraction, exponent, rest)
      | none => some (fraction, 0, s)
    | none => (readExponent s).map fun (exponent, rest) => ([], exponent, rest)
  if !negative && exceedsDouble (whole ++ fraction) (exponent - fraction.length) then none
  else return (.other, rest)

/-- Infinity and the value that is no number, with an optional sign. -/
def readSpecial (s : List Char) : Option (Datum × List Char) :=
  match (readSign s).2 with
  | 'i' :: 'n' :: 'f' :: rest => some (.other, rest)
  | 'n' :: 'a' :: 'n' :: rest => some (.other, rest)
  | _ => none

/-! Dates and times. -/

/-- A number of exactly so many digits. -/
def readFixed (count : Nat) (s : List Char) : Option (Nat × List Char) :=
  (digits? (s.take count)).bind fun value =>
    if (s.take count).length = count then some (value, s.drop count) else none

/-- A number of two digits between two bounds. -/
def readPair (low high : Nat) (s : List Char) : Option (Nat × List Char) := do
  let (value, rest) ← readFixed 2 s
  if low ≤ value ∧ value ≤ high then return (value, rest) else none

def readMark (mark : Char) : List Char → Option (List Char)
  | c :: s => if c = mark then some s else none
  | [] => none

def isLeapYear (year : Nat) : Bool := year % 4 == 0 && (year % 100 != 0 || year % 400 == 0)

def daysInMonth (year month : Nat) : Nat :=
  if month = 2 then if isLeapYear year then 29 else 28
  else if month = 4 ∨ month = 6 ∨ month = 9 ∨ month = 11 then 30
  else 31

/-- Skips a date: year, month, day. -/
def skipDate (s : List Char) : Option (List Char) := do
  let (year, s) ← readFixed 4 s
  let s ← readMark '-' s
  let (month, s) ← readPair 1 12 s
  let s ← readMark '-' s
  let (_, s) ← readPair 1 (daysInMonth year month) s
  return s

/-- Skips the digits of a part of a second. -/
def skipSecondPart : List Char → List Char
  | '.' :: c :: s => if isDigit c then s.dropWhile isDigit else '.' :: c :: s
  | s => s

/-- Skips a time of day; a minute may have a leap second. -/
def skipTime (s : List Char) : Option (List Char) := do
  let (_, s) ← readPair 0 23 s
  let s ← readMark ':' s
  let (_, s) ← readPair 0 59 s
  let s ← readMark ':' s
  let (_, s) ← readPair 0 60 s
  return skipSecondPart s

/-- Skips the distance from universal time, if there is one. -/
def skipOffset (s : List Char) : Option (List Char) :=
  match s with
  | [] => some []
  | c :: rest =>
    if c = 'Z' ∨ c = 'z' then some rest
    else if c = '+' ∨ c = '-' then do
      let (_, s) ← readPair 0 23 rest
      let s ← readMark ':' s
      let (_, s) ← readPair 0 59 s
      return s
    else some s

/-- Skips the time of day that goes with a date, if there is one. -/
def skipTimeOfDate (s : List Char) : Option (List Char) :=
  match s with
  | [] => some []
  | c :: rest =>
    if c = 'T' ∨ c = 't' ∨ c = ' ' then
      match skipTime rest with
      | some s => skipOffset s
      | none => some s
    else some s

def readDateTime (s : List Char) : Option (Datum × List Char) :=
  match (skipDate s).bind skipTimeOfDate with
  | some rest => some (.other, rest)
  | none => (skipTime s).map fun rest => (.other, rest)

/-- Any of the above. -/
def readNumber (s : List Char) : Option (Datum × List Char) :=
  readDateTime s <|> readSpecial s <|> readFloat s <|> readInteger s

end CppIntrospect.Toml
