/-
This file reads JSON strings. A string that is used must consist of characters: the
escapes of a character beyond the basic plane come in pairs. A string that is skipped
may hold either half alone.
-/

import Ipv4Router.Address.Digits
import Ipv4Router.Json.Reader

namespace Ipv4Router.Json

/-! ### Escapes -/

/-- The number of octets of a text in UTF-8. -/
def utf8Length (text : List Char) : Nat :=
  text.foldl (fun length character => length + character.utf8Size) 0

/-- Reads four hexadecimal digits. The text must go on for four octets. -/
def readHexWord : Reader Nat := fun text =>
  let digits := text.take 4
  if utf8Length digits < 4 then .error .unfinished
  else
    match Digits.value? Digits.hexadecimal? 16 digits with
    | some value => .ok (value, text.drop 4)
    | none => .error .malformed

/-- The character that a letter stands for after a backslash. -/
def escaped? : Char → Option Char
  | '"' => some '"'
  | '\\' => some '\\'
  | '/' => some '/'
  | 'b' => some '\x08'
  | 'f' => some '\x0c'
  | 'n' => some '\n'
  | 'r' => some '\r'
  | 't' => some '\t'
  | _ => none

/-- The first half of a pair. -/
def isLeading (word : Nat) : Bool := 0xd800 ≤ word && word < 0xdc00

/-- The second half of a pair. -/
def isTrailing (word : Nat) : Bool := 0xdc00 ≤ word && word < 0xe000

/-- Reads one character of a text. -/
def readExactly (wanted : Char) : List Char → Except Fault (List Char)
  | [] => .error .unfinished
  | character :: rest => if character = wanted then .ok rest else .error .malformed

/-- Reads the character of one escaped word, or of a pair of words. -/
def readUnicodeEscape : Reader Char := fun text => do
  let (first, text) ← readHexWord text
  if isTrailing first then throw .malformed
  if isLeading first then
    let text ← readExactly '\\' text
    let text ← readExactly 'u' text
    let (second, text) ← readHexWord text
    if isTrailing second then
      return (Char.ofNat (0x10000 + 0x400 * (first - 0xd800) + (second - 0xdc00)), text)
    else throw .malformed
  else return (Char.ofNat first, text)

/-- Reads what follows a backslash, as the characters that it stands for. -/
def readEscape : Reader (List Char)
  | [] => .error .unfinished
  | 'u' :: text => do
    let (character, text) ← readUnicodeEscape text
    return ([character], text)
  | letter :: text =>
    match escaped? letter with
    | some character => .ok ([character], text)
    | none => .error .malformed

/-- Reads what follows a backslash without asking what it stands for. -/
def skipEscape : Reader (List Char)
  | [] => .error .unfinished
  | 'u' :: text => do
    let (_, text) ← readHexWord text
    return ([], text)
  | letter :: text => if (escaped? letter).isSome then .ok ([], text) else .error .malformed

/-! ### Strings -/

/-- Reads characters up to the closing quote, in at most `fuel` steps. -/
def readCharacters (escape : Reader (List Char)) :
    (fuel : Nat) → (done : List Char) → Reader (List Char)
  | 0, _, _ => .error .unfinished
  | _ + 1, _, [] => .error .unfinished
  | fuel + 1, done, character :: text =>
    if character = '"' then .ok (done.reverse, text)
    else if character = '\\' then do
      let (characters, text) ← escape text
      readCharacters escape fuel (characters ++ done) text
    else if character < ' ' then .error .malformed
    else readCharacters escape fuel (character :: done) text

/-- Reads a string after its opening quote. -/
def readQuoted : Reader String := fun text => do
  let (characters, text) ← readCharacters readEscape (text.length + 1) [] text
  return (String.ofList characters, text)

/-- Skips a string after its opening quote. -/
def skipQuoted (text : List Char) : Except Fault (List Char) := do
  let (_, text) ← readCharacters skipEscape (text.length + 1) [] text
  return text

end Ipv4Router.Json
