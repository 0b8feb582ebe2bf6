import CppIntrospect.Text.Decimal

/-! Numbers of JSON. A whole number that fits 64 bits, with or without sign, is an integer.
All others are reals; of those only one thing matters, whether they are in range. -/

namespace CppIntrospect.Json

open Text

/-- A number as written: sign, digits before the point, digits after it, and the exponent
with its sign. -/
structure Numeral where
  negative : Bool
  whole : List Char
  fraction : List Char := []
  exponent : Option (Bool × List Char) := none

/-- The nearest number of 53 significant bits, a tie going to the even one. -/
def round53 (n : Nat) : Nat :=
  if n < 1 <<< 53 then n
  else
    let unit := 1 <<< (n.log2 - 52)
    let quotient := n / unit
    let twice := 2 * (n % unit)
    if twice > unit ∨ (twice = unit ∧ quotient % 2 = 1) then (quotient + 1) * unit
    else quotient * unit

/-- Whether a product of two numbers of 53 bits is rounded beyond the largest double. -/
def overflowsDouble (n : Nat) : Bool := 1 <<< 1024 - 1 <<< 970 ≤ n

/-- The leading digits, as many as fit 64 bits, and the number of digits after them. -/
def leading (significand : Nat) : List Char → Nat × Nat
  | [] => (significand, 0)
  | c :: cs =>
    let next := 10 * significand + digitValue c
    if next < UInt64.size then leading next cs else (significand, (c :: cs).length)

namespace Numeral

/-- The significand, cut to 64 bits, and the power of ten that goes with it, the written
exponent left out. -/
def scaled (n : Numeral) : Nat × Int :=
  let (significand, dropped) := leading 0 n.whole
  let (significand', rest) := leading significand n.fraction
  (significand', (dropped : Int) - ((n.fraction.length - rest : Nat) : Int))

/-- Whether the number, computed as significand times power of ten in doubles, is finite.
Exponents of more than 31 bits are not computed with. -/
def inRange (n : Numeral) : Bool :=
  let (significand, scale) := n.scaled
  match n.exponent with
  | some (false, digits) =>
    significand = 0 || (digitsValue digits < 1 <<< 31 && fits significand (scale + digitsValue digits))
  | some (true, digits) =>
    1 <<< 31 ≤ digitsValue digits || fits significand (scale - digitsValue digits)
  | none => fits significand scale
where
  fits (significand : Nat) (power : Int) : Bool :=
    significand = 0 || power < 0 ||
      (power ≤ 308 && !overflowsDouble (round53 significand * round53 (Nat.pow 10 power.toNat)))

/-- The integer that a numeral stands for. Minus zero is no integer. -/
def integer? (n : Numeral) : Option Int :=
  if !n.fraction.isEmpty || n.exponent.isSome then none
  else
    let value := digitsValue n.whole
    if n.negative then
      if 0 < value ∧ value ≤ 1 <<< 63 then some (-(value : Int)) else none
    else if value < UInt64.size then some value
    else none

end Numeral

/-- Digits from the front of a text. -/
def spanDigits (s : List Char) : List Char × List Char := (s.takeWhile isDigit, s.dropWhile isDigit)

/-- The part after the point, which has at least one digit. -/
def readFraction : List Char → Option (List Char × List Char)
  | '.' :: s =>
    match spanDigits s with
    | ([], _) => none
    | result => some result
  | s => some ([], s)

/-- The exponent, which has at least one digit. -/
def readExponent : List Char → Option (Option (Bool × List Char) × List Char)
  | c :: s =>
    if c = 'e' ∨ c = 'E' then
      let (negative, s) :=
        match s with
        | '-' :: s => (true, s)
        | '+' :: s => (false, s)
        | s => (false, s)
      match spanDigits s with
      | ([], _) => none
      | (digits, rest) => some (some (negative, digits), rest)
    else some (none, c :: s)
  | [] => some (none, [])

/-- The digits before the point: a zero, or digits that do not start with one. -/
def readWhole (s : List Char) : Option (List Char × List Char) :=
  match spanDigits s with
  | ([], _) => none
  | ('0' :: _ :: _, _) => none
  | result => some result

def readNumeral (s : List Char) : Option (Numeral × List Char) := do
  let (negative, s) :=
    match s with
    | '-' :: s => (true, s)
    | s => (false, s)
  let (whole, s) ← readWhole s
  let (fraction, s) ← readFraction s
  let (exponent, s) ← readExponent s
  return (⟨negative, whole, fraction, exponent⟩, s)

end CppIntrospect.Json
