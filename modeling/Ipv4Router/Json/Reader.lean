/-
This file defines what it means to read a JSON text from the front. A reader takes
the characters that are left and yields a value with the characters after it, or the
first fault of the text. Faults are told apart by their nature: the text is no JSON,
it is JSON of another shape than expected, or it ends too early.
-/

namespace Ipv4Router.Json

/-- Why a text cannot be read. -/
inductive Fault
  | malformed
  | unexpected
  | unfinished
deriving DecidableEq

/-- Reads a value from the front of a text. -/
abbrev Reader (Value : Type) := List Char → Except Fault (Value × List Char)

/-- The characters that may stand between the parts of a text. -/
def isBlank (character : Char) : Bool :=
  character == ' ' || character == '\n' || character == '\t' || character == '\r'

/-- The text from its first character that is not blank. -/
def skipBlanks (text : List Char) : List Char := text.dropWhile isBlank

/-- Reads the letters of a word. -/
def readWord : (word : List Char) → List Char → Except Fault (List Char)
  | [], text => .ok text
  | _ :: _, [] => .error .unfinished
  | letter :: word, character :: text =>
    if character = letter then readWord word text else .error .malformed

/-- Reads a whole text as one value; nothing but blanks may follow it. -/
def readWhole {Value : Type} (reader : Reader Value) (text : List Char) : Except Fault Value := do
  let (value, rest) ← reader text
  if (skipBlanks rest).isEmpty then return value else throw .malformed

end Ipv4Router.Json
