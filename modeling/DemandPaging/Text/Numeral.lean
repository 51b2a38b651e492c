/-!
# Numerals

Numbers as they are typed: decimal, or hexadecimal after `0x`, with an optional
plus sign before the digits.  Letters of hexadecimal digits may have either
case, and leading zeros do not matter.
-/

namespace DemandPaging

namespace Text

/-- The value of a digit in the given base. -/
def digitValue? (base : Nat) (letter : Char) : Option Nat :=
  let code := letter.toNat
  let value :=
    if '0' ≤ letter ∧ letter ≤ '9' then code - '0'.toNat
    else if 'a' ≤ letter ∧ letter ≤ 'f' then code - 'a'.toNat + 10
    else if 'A' ≤ letter ∧ letter ≤ 'F' then code - 'A'.toNat + 10
    else base
  if value < base then some value else none

/-- The number that digits denote when they follow digits that denote
`value`. -/
def digitsValue? (base value : Nat) : List Char → Option Nat
  | [] => some value
  | letter :: rest =>
    match digitValue? base letter with
    | some digit => digitsValue? base (base * value + digit) rest
    | none => none

/-- The number denoted by an optional plus sign and at least one digit. -/
def unsignedValue? (base : Nat) (letters : List Char) : Option Nat :=
  match (match letters with | '+' :: digits => digits | digits => digits) with
  | [] => none
  | digits => digitsValue? base 0 digits

/-- The number denoted by a numeral, whatever its size. -/
def numeralValue? (word : String) : Option Nat :=
  match word.toList with
  | '0' :: 'x' :: letters => unsignedValue? 16 letters
  | letters => unsignedValue? 10 letters

end Text

end DemandPaging
