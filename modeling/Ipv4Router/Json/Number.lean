/-
This file reads JSON numbers. A number is kept as its digits; only numbers without
sign, fraction and exponent that fit 64 bits are whole numbers. Any other number is
taken as a double, and is refused if it is too great for one.
-/

import Ipv4Router.Address.Digits
import Ipv4Router.Json.Reader

namespace Ipv4Router.Json

/-- A number by its digits. -/
structure Number where
  negative : Bool
  whole : List Nat
  fraction : List Nat
  exponent : Option Int
deriving DecidableEq

/-! ### Reading -/

/-- The character is a decimal digit. -/
def isDigit (character : Char) : Bool := (Digits.decimal? character).isSome

/-- The digits at the front of a text, and the text after them. -/
def readDigits (text : List Char) : List Nat × List Char :=
  ((text.takeWhile isDigit).filterMap Digits.decimal?, text.dropWhile isDigit)

/-- Reads at least one digit. -/
def readSomeDigits : Reader (List Nat)
  | [] => .error .unfinished
  | character :: text =>
    if isDigit character then .ok (readDigits (character :: text)) else .error .malformed

/-- Reads the digits before the point; a zero among them stands alone. -/
def readWholeDigits : Reader (List Nat)
  | '0' :: character :: text =>
    if isDigit character then .error .malformed else .ok ([0], character :: text)
  | text => readSomeDigits text

/-- Reads the digits after the point, if there is a point. -/
def readFraction : Reader (List Nat)
  | '.' :: text => readSomeDigits text
  | text => .ok ([], text)

/-- The number that decimal digits write after a number that stands before them, unless it is
above a bound. No number beyond the bound is worked out, however many digits there are. -/
def ofDigits? (bound : Nat) : (before : Nat) → (digits : List Nat) → Option Nat
  | before, [] => if before ≤ bound then some before else none
  | before, digit :: digits =>
    if before ≤ bound then ofDigits? bound (10 * before + digit) digits else none

/-- An exponent beyond this one outweighs any number of digits. -/
def greatestExponent : Nat := 2147483647

/-- The size of an exponent. All sizes beyond the greatest one count as the one after it. -/
def exponentSize (digits : List Nat) : Nat :=
  (ofDigits? greatestExponent 0 digits).getD (greatestExponent + 1)

/-- Reads the exponent after its letter. -/
def readSignedExponent : Reader Int
  | '+' :: text => do
    let (digits, text) ← readSomeDigits text
    return (Int.ofNat (exponentSize digits), text)
  | '-' :: text => do
    let (digits, text) ← readSomeDigits text
    return (-Int.ofNat (exponentSize digits), text)
  | text => do
    let (digits, text) ← readSomeDigits text
    return (Int.ofNat (exponentSize digits), text)

/-- Reads the exponent, if there is one. -/
def readExponent : Reader (Option Int)
  | 'e' :: text | 'E' :: text => do
    let (exponent, text) ← readSignedExponent text
    return (some exponent, text)
  | text => .ok (none, text)

/-- Reads a number after its sign. -/
def readUnsigned (negative : Bool) : Reader Number := fun text => do
  let (whole, text) ← readWholeDigits text
  let (fraction, text) ← readFraction text
  let (exponent, text) ← readExponent text
  return (⟨negative, whole, fraction, exponent⟩, text)

/-- Reads a number. -/
def readNumber : Reader Number
  | '-' :: text => readUnsigned true text
  | text => readUnsigned false text

/-! ### Value -/

namespace Number

/-- The greatest whole number. -/
def greatest : Nat := 18446744073709551615

/-- The number as a whole number. -/
def natural? (number : Number) : Option Nat :=
  if number.negative || !number.fraction.isEmpty || number.exponent.isSome then none
  else ofDigits? greatest 0 number.whole

/-- Takes digits into a significand as long as it fits 64 bits, and counts those left out. -/
def takeWhole (digits : List Nat) : Nat × Nat :=
  digits.foldl
    (fun (significand, leftOut) digit =>
      if 0 < leftOut || greatest < 10 * significand + digit then (significand, leftOut + 1)
      else (10 * significand + digit, 0))
    (0, 0)

/-- Takes digits after the point into a significand as long as it fits 64 bits, and counts those
taken. -/
def takeFraction : (significand taken : Nat) → List Nat → Nat × Nat
  | significand, taken, [] => (significand, taken)
  | significand, taken, digit :: rest =>
    if greatest < 10 * significand + digit then (significand, taken)
    else takeFraction (10 * significand + digit) (taken + 1) rest

/-- The number is taken as a double, and its first 64 bits of digits scaled by the power of ten
are beyond the greatest one. -/
def isTooGreat (number : Number) : Bool :=
  let (whole, leftOut) := takeWhole number.whole
  let (significand, taken) := takeFraction whole 0 number.fraction
  let exponent := number.exponent.getD 0 + Int.ofNat leftOut - Int.ofNat taken
  if significand = 0 || exponent < 0 then false
  else if 308 < exponent then true
  else (Float.ofNat significand * Float.ofScientific 1 false exponent.toNat).isInf

end Number

end Ipv4Router.Json
