import DemandPaging.Bytes

/-!
# Numbers as text

Hexadecimal texts in lower-case digits: of a number, with the fewest digits
that show it, and of a byte, with exactly two.
-/

namespace DemandPaging

namespace Text

/-- The lower-case hexadecimal digits of `number`, without leading zeros. -/
def hexDigits (number : Nat) : String :=
  String.ofList (Nat.toDigits 16 number)

/-- A number in hexadecimal, marked as such. -/
def hexadecimal (number : Nat) : String :=
  "0x" ++ hexDigits number

def hexByte (byte : UInt8) : String :=
  String.ofList [Nat.digitChar (byte.toNat / 16), Nat.digitChar (byte.toNat % 16)]

/-- A decimal number, filled up from the left with blanks to `width` places. -/
def padLeft (width number : Nat) : String :=
  let digits := toString number
  String.ofList (List.replicate (width - digits.length) ' ') ++ digits

end Text

end DemandPaging
