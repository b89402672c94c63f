import ZZ9000.Formats.Json

/-!
This module contains the lookup of a name in the JSON text of a release from `fw_release.c`. Every
byte of the text is read through a check of the length that the caller gives.
-/

namespace ZZRel

open Formats
open JsonByte

inductive JsonFault where
  /-- A byte behind the text is read. -/
  | overrun
  | outOfFuel
  deriving DecidableEq, Repr

def readJson (json : List UInt8) (i : Nat) : Except JsonFault UInt8 :=
  match json[i]? with
  | some c => .ok c
  | none => .error .overrun

/-- `memcmp` may read all of the bytes. -/
def readJsonBytes (json : List UInt8) (start count : Nat) : Except JsonFault (List UInt8) :=
  if start + count ≤ json.length then
    .ok ((json.drop start).take count)
  else
    .error .overrun

/-- The buffer of the caller, if there is one, and what `scan_string` has done to it. -/
structure StringScan where
  i : Nat
  n : Nat
  out : Option (Nat → UInt8)
  ok : Bool

namespace StringScan

def advance (s : StringScan) : StringScan := { s with i := s.i + 1 }

/-- Only three escapes are decoded. -/
def checkEscape (s : StringScan) (c : UInt8) : StringScan :=
  if c ≠ quote ∧ c ≠ backslash ∧ c ≠ slash then { s with ok := false } else s

def store (s : StringScan) (size : Nat) (c : UInt8) : StringScan :=
  match s.out with
  | none => s
  | some out =>
    if s.n + 1 < size then
      { s with out := some (Function.update out s.n c), n := s.n + 1 }
    else
      { s with ok := false }

def terminate (s : StringScan) (size : Nat) : StringScan :=
  match s.out with
  | none => s
  | some out =>
    if s.n < size then
      { s with out := some (Function.update out s.n 0) }
    else
      { s with ok := false }

end StringScan

/-- The loop of `scan_string`. The first result is whether the string ends. -/
def scanStringLoop (json : List UInt8) (size fuel : Nat) (s : StringScan)
    : Except JsonFault (Bool × StringScan) :=
  match fuel with
  | 0 => .error .outOfFuel
  | fuel + 1 =>
    if s.i < json.length then do
      let c ← readJson json s.i
      let s := s.advance
      if c = quote then
        return (true, s.terminate size)
      else if c = backslash then
        if s.i ≥ json.length then
          return (false, s)
        else do
          let c ← readJson json s.i
          scanStringLoop json size fuel ((s.advance.checkEscape c).store size c)
      else
        scanStringLoop json size fuel (s.store size c)
    else
      return (false, s)

def scanString (json : List UInt8) (pos : Nat) (out : Option (Nat → UInt8)) (size : Nat) (ok : Bool)
    : Except JsonFault (Bool × StringScan) :=
  scanStringLoop json size (json.length + 1) { i := pos + 1, n := 0, out, ok }

/-- The index of the next byte that is not a blank. -/
def skipBlanks (json : List UInt8) (fuel j : Nat) : Except JsonFault Nat :=
  match fuel with
  | 0 => .error .outOfFuel
  | fuel + 1 =>
    if j < json.length then do
      let c ← readJson json j
      if JsonByte.isBlank c then skipBlanks json fuel (j + 1) else return j
    else
      return j

/-- `j < len && json[j] == c` -/
def isJsonByte (json : List UInt8) (j : Nat) (c : UInt8) : Except JsonFault Bool :=
  if j < json.length then do
    let c' ← readJson json j
    return c' == c
  else
    return false

/-- What a turn of the loop does: it goes on, or the function returns. -/
inductive JsonTurn where
  | next (i : Nat) (depth : Int)
  | done (found : Bool) (out : Nat → UInt8)

/-- The value of the name, from behind the colon. -/
def jsonValue (json : List UInt8) (j : Nat) (out : Nat → UInt8) (size : Nat) (ok : Bool)
    : Except JsonFault JsonTurn := do
  let j ← skipBlanks json (json.length + 1) j
  let isString ← isJsonByte json j quote
  if isString then do
    let scanned ← scanString json j (some out) size ok
    return .done (scanned.1 && scanned.2.ok) (scanned.2.out.getD out)
  else
    return .done false out

/-- The branch of the loop for a string. -/
def jsonStringTurn (json key : List UInt8) (out : Nat → UInt8) (size i : Nat) (depth : Int)
    : Except JsonFault JsonTurn := do
  let start := i + 1
  let scanned ← scanString json i none 0 true
  if scanned.1 then do
    let i := scanned.2.i
    let j ← skipBlanks json (json.length + 1) i
    let isKey ← isJsonByte json j colon
    if !isKey || depth ≠ 1 || i - start - 1 ≠ key.length then
      return .next i depth
    else do
      let name ← readJsonBytes json start key.length
      if name ≠ key then
        return .next i depth
      else
        jsonValue json (j + 1) out size scanned.2.ok
  else
    return .done false out

/-- The body of the loop of `fwrel_json_top_string`. -/
def jsonTurn (json key : List UInt8) (out : Nat → UInt8) (size i : Nat) (depth : Int)
    : Except JsonFault JsonTurn := do
  let c ← readJson json i
  if c = openBrace ∨ c = openBracket then
    return .next (i + 1) (depth + 1)
  else if c = closeBrace ∨ c = closeBracket then
    return .next (i + 1) (depth - 1)
  else if c = quote then
    jsonStringTurn json key out size i depth
  else
    return .next (i + 1) depth

def jsonTopStringLoop (json key : List UInt8) (out : Nat → UInt8) (size fuel i : Nat) (depth : Int)
    : Except JsonFault (Bool × (Nat → UInt8)) :=
  match fuel with
  | 0 => .error .outOfFuel
  | fuel + 1 =>
    if i < json.length then do
      match ← jsonTurn json key out size i depth with
      | .next i depth => jsonTopStringLoop json key out size fuel i depth
      | .done found out => return (found, out)
    else
      return (false, out)

/-- `fwrel_json_top_string` with the bytes of the text up to its length. -/
def jsonTopString (json key : List UInt8) (out : Nat → UInt8) (size : Nat)
    : Except JsonFault (Bool × (Nat → UInt8)) :=
  jsonTopStringLoop json key out size (json.length + 1) 0 0

end ZZRel
