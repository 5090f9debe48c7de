/-
This file lays text out in columns. Tables and interface lines are printed with
left-aligned columns of fixed width; a cell longer than its column is not cut.
-/

namespace Ipv4Router.Column

/-- The text, followed by as many spaces as bring it to `width` characters. -/
def left (width : Nat) (text : String) : String :=
  text ++ String.ofList (List.replicate (width - text.length) ' ')

end Ipv4Router.Column
