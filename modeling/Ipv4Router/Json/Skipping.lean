/-
This file skips JSON values that nobody asked for. Nesting is kept on a list of open
brackets, so values may be nested to any depth; numbers may have any size.
-/

import Ipv4Router.Json.Number
import Ipv4Router.Json.Quoted

namespace Ipv4Router.Json

/-- What an open bracket holds. -/
inductive Bracket
  | list
  | object
deriving DecidableEq

/-- What may come next: a value, the first item of a bracket or its end, or what follows a
value. -/
inductive Stage
  | value
  | opened
  | finished
deriving DecidableEq

namespace Bracket

/-- The character that closes the bracket. -/
def closing : Bracket → Char
  | list => ']'
  | object => '}'

end Bracket

/-- Skips a number. One that is cut short is not a number. -/
def skipNumber (text : List Char) : Except Fault (List Char) :=
  match readNumber text with
  | .ok (_, rest) => .ok rest
  | .error _ => .error .malformed

/-- Skips the key of an item and the colon after it, where items have keys. -/
def skipKey (bracket : Bracket) (text : List Char) : Except Fault (List Char) := do
  match bracket with
  | .list => return text
  | .object =>
    let text ← readExactly '"' (skipBlanks text)
    let text ← skipQuoted text
    readExactly ':' (skipBlanks text)

/-- Skips the value at the front of a text and all that the open brackets hold, in at most `fuel`
steps. -/
def skipNested : (fuel : Nat) → Stage → List Bracket → List Char → Except Fault (List Char)
  | 0, _, _, _ => .error .unfinished
  | _ + 1, .finished, [], text => .ok text
  | fuel + 1, .value, brackets, text =>
    match skipBlanks text with
    | [] => .error .unfinished
    | 'n' :: text => do skipNested fuel .finished brackets (← readWord ['u', 'l', 'l'] text)
    | 't' :: text => do skipNested fuel .finished brackets (← readWord ['r', 'u', 'e'] text)
    | 'f' :: text => do skipNested fuel .finished brackets (← readWord ['a', 'l', 's', 'e'] text)
    | '"' :: text => do skipNested fuel .finished brackets (← skipQuoted text)
    | '[' :: text => skipNested fuel .opened (.list :: brackets) text
    | '{' :: text => skipNested fuel .opened (.object :: brackets) text
    | character :: text =>
      if character = '-' || isDigit character then do
        skipNested fuel .finished brackets (← skipNumber (character :: text))
      else .error .malformed
  | _ + 1, .opened, [], text => .ok text
  | fuel + 1, .opened, bracket :: brackets, text =>
    match skipBlanks text with
    | [] => .error .unfinished
    | character :: text =>
      if character = bracket.closing then skipNested fuel .finished brackets text
      else do skipNested fuel .value (bracket :: brackets) (← skipKey bracket (character :: text))
  | fuel + 1, .finished, bracket :: brackets, text =>
    match skipBlanks text with
    | [] => .error .unfinished
    | character :: text =>
      if character = ',' then do
        skipNested fuel .value (bracket :: brackets) (← skipKey bracket text)
      else if character = bracket.closing then skipNested fuel .finished brackets text
      else .error .malformed

/-- Skips the value at the front of a text. -/
def skipValue (text : List Char) : Except Fault (List Char) :=
  skipNested (2 * text.length + 3) .value [] text

end Ipv4Router.Json
