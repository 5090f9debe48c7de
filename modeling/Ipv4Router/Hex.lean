/-
This file writes octet strings as text, two hexadecimal digits for each octet, and
reads them back.
-/

import Ipv4Router.Address.Digits
import Ipv4Router.Octets

namespace Ipv4Router.Hex

/-- The octets in hexadecimal. -/
def text (octets : Octets) : String :=
  octets.foldl (fun written octet => written ++ Digits.hexadecimalOctet octet) ""

/-- Reads pairs of digits behind octets that were read before, the last of these first. -/
def readPairs? (done : Octets) : List Char → Option Octets
  | [] => some done.reverse
  | [_] => none
  | high :: low :: rest =>
    match Digits.value? Digits.hexadecimal? 16 [high, low] with
    | some value => readPairs? (UInt8.ofNat value :: done) rest
    | none => none

/-- Reads octets. -/
def octets? (written : String) : Option Octets := readPairs? [] written.toList

end Ipv4Router.Hex
