/-
This file reads JSON records with known fields. A record is written as an object, in
which fields may stand in any order, none twice, and unknown ones are skipped; or as
a list of the values of its fields in their order, of which the last may be missing.
-/

import Ipv4Router.Json.Value

namespace Ipv4Router.Json

/-- A field of a record: whether a draft of the record has it already, and how it is read into
one. -/
structure RecordField (Draft : Type) where
  name : String
  isSet : Draft → Bool
  read : Draft → Reader Draft

namespace RecordField

/-- A field that a draft holds once it is read. -/
def of {Draft Value : Type} (name : String) (get? : Draft → Option Value)
    (set : Draft → Value → Draft) (reader : Reader Value) : RecordField Draft where
  name
  isSet := fun draft => (get? draft).isSome
  read := fun draft text => do
    let (value, rest) ← reader text
    return (set draft value, rest)

end RecordField

/-! ### Objects -/

/-- The text of the next key of an object after its opening quote, or the text after the end of the
object. -/
inductive NextKey
  | key (text : List Char)
  | ended (text : List Char)

/-- Looks for the next key of an object. Fields are separated by commas. -/
def nextKey (isFirst : Bool) (text : List Char) : Except Fault NextKey :=
  match skipBlanks text with
  | [] => .error .unfinished
  | '}' :: rest => .ok (.ended rest)
  | character :: rest =>
    if isFirst then
      if character = '"' then .ok (.key rest) else .error .malformed
    else if character = ',' then
      match skipBlanks rest with
      | [] => .error .unfinished
      | '"' :: rest => .ok (.key rest)
      | _ => .error .malformed
    else .error .malformed

/-- Reads the fields of an object into a draft, in at most `fuel` steps. -/
def readFields {Draft : Type} (fields : List (RecordField Draft)) :
    (fuel : Nat) → (isFirst : Bool) → Draft → Reader Draft
  | 0, _, _, _ => .error .unfinished
  | fuel + 1, isFirst, draft, text => do
    match ← nextKey isFirst text with
    | .ended rest => return (draft, rest)
    | .key text =>
      let (name, text) ← readQuoted text
      match fields.find? (·.name == name) with
      | some field =>
        if field.isSet draft then throw .unexpected
        let text ← readExactly ':' (skipBlanks text)
        let (draft, text) ← field.read draft text
        readFields fields fuel false draft text
      | none =>
        let text ← readExactly ':' (skipBlanks text)
        let text ← skipValue text
        readFields fields fuel false draft text

/-! ### Lists of values -/

/-- Reads the end of a list, before which no item may stand. -/
def readEnd (text : List Char) : Except Fault (List Char) :=
  match skipBlanks text with
  | [] => .error .unfinished
  | ']' :: rest => .ok rest
  | _ => .error .malformed

/-- Reads the values of the fields in their order into a draft, until the list ends. -/
def readInOrder {Draft : Type} :
    (fields : List (RecordField Draft)) → (isFirst : Bool) → Draft → Reader Draft
  | [], _, draft, text => do return (draft, ← readEnd text)
  | field :: fields, isFirst, draft, text => do
    match ← nextItem isFirst text with
    | .ended rest => return (draft, rest)
    | .item text =>
      let (draft, text) ← field.read draft text
      readInOrder fields false draft text

/-! ### Records -/

/-- Reads a record. A draft that lacks a field which it must have makes no record. -/
def readRecord {Draft Value : Type} (fields : List (RecordField Draft)) (blank : Draft)
    (finish? : Draft → Option Value) : Reader Value := fun text => do
  let (draft, rest) ← match skipBlanks text with
    | '{' :: rest => readFields fields (rest.length + 1) true blank rest
    | '[' :: rest => readInOrder fields true blank rest
    | other => .error (mismatch other)
  match finish? draft with
  | some value => return (value, rest)
  | none => throw .unexpected

end Ipv4Router.Json
