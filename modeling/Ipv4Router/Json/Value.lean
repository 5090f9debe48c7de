/-
This file reads JSON values of a known type. A value of another type is a fault of
shape, unless it is itself malformed or cut short.
-/

import Ipv4Router.Json.Skipping

namespace Ipv4Router.Json

/-- The fault of a value that has another type than expected. -/
def mismatch (text : List Char) : Fault :=
  let shape (read : Except Fault (List Char)) : Fault :=
    match read with
    | .ok _ => .unexpected
    | .error fault => fault
  match text with
  | [] => .unfinished
  | 'n' :: text => shape (readWord ['u', 'l', 'l'] text)
  | 't' :: text => shape (readWord ['r', 'u', 'e'] text)
  | 'f' :: text => shape (readWord ['a', 'l', 's', 'e'] text)
  | '"' :: text => shape ((readQuoted text).map Prod.snd)
  | '[' :: _ => .unexpected
  | '{' :: _ => .unexpected
  | character :: text =>
    if character = '-' || isDigit character then
      match readNumber (character :: text) with
      | .ok (number, _) =>
        if number.natural?.isNone && number.isTooGreat then .malformed else .unexpected
      | .error fault => fault
    else .malformed

/-- Reads a string. -/
def readText : Reader String := fun text =>
  match skipBlanks text with
  | '"' :: rest => readQuoted rest
  | other => .error (mismatch other)

/-- Reads a string that writes a value in a notation of its own. -/
def readWritten {Value : Type} (ofText? : String → Option Value) : Reader Value := fun text => do
  let (written, rest) ← readText text
  match ofText? written with
  | some value => return (value, rest)
  | none => throw .unexpected

/-- Reads a truth value. -/
def readBool : Reader Bool := fun text =>
  match skipBlanks text with
  | 't' :: rest => do return (true, ← readWord ['r', 'u', 'e'] rest)
  | 'f' :: rest => do return (false, ← readWord ['a', 'l', 's', 'e'] rest)
  | other => .error (mismatch other)

/-- Reads a whole number up to a bound. -/
def readNatural (bound : Nat) : Reader Nat := fun text =>
  let text := skipBlanks text
  match readNumber text with
  | .ok (number, rest) =>
    match number.natural? with
    | some value => if value ≤ bound then .ok (value, rest) else .error .unexpected
    | none => .error (mismatch text)
  | .error _ => .error (mismatch text)

/-- Reads a value, or none where `null` stands. -/
def readNullable {Value : Type} (reader : Reader Value) : Reader (Option Value) := fun text => do
  match skipBlanks text with
  | 'n' :: rest => return (none, ← readWord ['u', 'l', 'l'] rest)
  | other =>
    let (value, rest) ← reader other
    return (some value, rest)

/-! ### Lists -/

/-- The text of the next item of a list, or the text after the end of the list. -/
inductive NextItem
  | item (text : List Char)
  | ended (text : List Char)

/-- Looks for the next item of a list. Items are separated by commas. -/
def nextItem (isFirst : Bool) (text : List Char) : Except Fault NextItem :=
  match skipBlanks text with
  | [] => .error .unfinished
  | ']' :: rest => .ok (.ended rest)
  | character :: rest =>
    if isFirst then .ok (.item (character :: rest))
    else if character = ',' then
      match skipBlanks rest with
      | [] => .error .unfinished
      | ']' :: _ => .error .malformed
      | other => .ok (.item other)
    else .error .malformed

/-- Reads the items of a list, in at most `fuel` steps. -/
def readItems {Value : Type} (reader : Reader Value) :
    (fuel : Nat) → (done : List Value) → Reader (List Value)
  | 0, _, _ => .error .unfinished
  | fuel + 1, done, text => do
    match ← nextItem done.isEmpty text with
    | .ended rest => return (done.reverse, rest)
    | .item text =>
      let (value, rest) ← reader text
      readItems reader fuel (value :: done) rest

/-- Reads a list. -/
def readList {Value : Type} (reader : Reader Value) : Reader (List Value) := fun text =>
  match skipBlanks text with
  | '[' :: rest => readItems reader (rest.length + 1) [] rest
  | other => .error (mismatch other)

end Ipv4Router.Json
