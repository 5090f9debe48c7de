/-
This file reads the bounded numbers that addresses are written with. A number in
an address is a run of decimal or hexadecimal digits below a bound; addresses are
cut at their separators first, and each part must be such a number.
-/

namespace Ipv4Router.Digits

/-- The value of a decimal digit. -/
def decimal? (digit : Char) : Option Nat :=
  if '0' ≤ digit ∧ digit ≤ '9' then some (digit.toNat - '0'.toNat) else none

/-- The value of a hexadecimal digit of either case. -/
def hexadecimal? (digit : Char) : Option Nat :=
  if 'a' ≤ digit ∧ digit ≤ 'f' then some (digit.toNat - 'a'.toNat + 10)
  else if 'A' ≤ digit ∧ digit ≤ 'F' then some (digit.toNat - 'A'.toNat + 10)
  else decimal? digit

/-- The number with the given digits in a base; none if some character is not a digit. -/
def value? (digit? : Char → Option Nat) (base : Nat) (digits : List Char) : Option Nat :=
  digits.foldlM (fun number digit => (digit? digit).map (base * number + ·)) 0

/-- A decimal number of one to `longest` digits that is at most `bound`. Leading zeros are
allowed. -/
def decimalUpTo? (longest bound : Nat) (digits : List Char) : Option Nat :=
  if digits.isEmpty || longest < digits.length then none
  else (value? decimal? 10 digits).filter (· ≤ bound)

/-- The parts of a text between the separators. -/
def parts (separator : Char) : List Char → List (List Char)
  | [] => [[]]
  | character :: rest =>
    if character = separator then [] :: parts separator rest
    else
      match parts separator rest with
      | [] => [[character]]
      | first :: others => (character :: first) :: others

/-- The two hexadecimal digits of an octet, in lower case. -/
def hexadecimalOctet (octet : UInt8) : String :=
  let digit (value : Nat) : Char := (Nat.digitChar value)
  String.ofList [digit (octet.toNat / 16), digit (octet.toNat % 16)]

end Ipv4Router.Digits
