/-! Hexadecimal digits, in either case when read and in lower case when written. -/

namespace CppIntrospect.Text

def hexValue? (c : Char) : Option Nat :=
  if '0' ≤ c ∧ c ≤ '9' then some (c.toNat - '0'.toNat)
  else if 'a' ≤ c ∧ c ≤ 'f' then some (c.toNat - 'a'.toNat + 10)
  else if 'A' ≤ c ∧ c ≤ 'F' then some (c.toNat - 'A'.toNat + 10)
  else none

/-- The digit of a number below sixteen. -/
def hexDigit (n : Nat) : Char :=
  if n < 10 then Char.ofNat ('0'.toNat + n) else Char.ofNat ('a'.toNat + (n - 10))

/-- The value of a run of digits, the most significant first. -/
def hexNumber? (s : List Char) : Option Nat :=
  s.foldl (fun n c => do return (← n) * 16 + (← hexValue? c)) (some 0)

end CppIntrospect.Text
