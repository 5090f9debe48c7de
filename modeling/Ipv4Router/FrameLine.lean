/-
This file writes a frame on an interface as one line of text: the name of the
interface, a blank and the octets in hexadecimal. The program exchanges frames with
the outside in this form.
-/

import Ipv4Router.Hex

namespace Ipv4Router.FrameLine

/-- The line of a frame on an interface, without a line end. -/
def text (interface : String) (frame : Octets) : String := s!"{interface} {Hex.text frame}"

/-- Reads the interface and the frame of a line. Line ends are no part of it. -/
def read? (line : String) : Option (String × Octets) :=
  let written := line.toList.filter fun character => character != '\n' && character != '\r'
  match Digits.parts ' ' written with
  | [interface, octets] =>
    (Hex.octets? (String.ofList octets)).map fun frame => (String.ofList interface, frame)
  | _ => none

end Ipv4Router.FrameLine
