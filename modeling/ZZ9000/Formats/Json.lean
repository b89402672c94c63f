import Mathlib.Data.List.Basic

/-!
This module contains the concrete syntax of JSON texts: trees that keep every byte that a text may
have where the grammar leaves a choice, and the text that they are written as.
-/

namespace Formats

namespace JsonByte

def quote : UInt8 := 34
def backslash : UInt8 := 92
def slash : UInt8 := 47
def comma : UInt8 := 44
def colon : UInt8 := 58
def openBracket : UInt8 := 91
def closeBracket : UInt8 := 93
def openBrace : UInt8 := 123
def closeBrace : UInt8 := 125

def isBlank (c : UInt8) : Bool := c == 32 || c == 9 || c == 13 || c == 10

/-- Neither a string nor a level of nesting starts or ends here. -/
def isInert (c : UInt8) : Bool :=
  c != quote && c != openBracket && c != closeBracket && c != openBrace && c != closeBrace

end JsonByte

open JsonByte

/-- Blanks between two tokens. -/
structure JsonBlanks where
  text : List UInt8
  blank : ∀ c ∈ text, isBlank c = true

/-- A part of a string. The bytes of a character that is not in ASCII are parts of their own. -/
inductive JsonPiece where
  | plain (c : UInt8) (h : 32 ≤ c ∧ c ≠ quote ∧ c ≠ backslash)
  /-- One of the escapes of two bytes. -/
  | escape (c : UInt8) (h : c ∈ [quote, backslash, slash, 98, 102, 110, 114, 116])
  | unicode (digits : Fin 4 → Fin 16) (upper : Fin 4 → Bool)

def jsonHexDigit (digit : Fin 16) (upper : Bool) : UInt8 :=
  if digit.val < 10 then
    48 + UInt8.ofNat digit.val
  else if upper then
    55 + UInt8.ofNat digit.val
  else
    87 + UInt8.ofNat digit.val

def JsonPiece.text : JsonPiece → List UInt8
  | plain c _ => [c]
  | escape c _ => [backslash, c]
  | unicode digits upper =>
    backslash :: 117 :: List.ofFn fun i => jsonHexDigit (digits i) (upper i)

/-- A string without its quotes. -/
abbrev JsonString := List JsonPiece

def JsonString.raw (s : JsonString) : List UInt8 := s.flatMap JsonPiece.text

def JsonString.text (s : JsonString) : List UInt8 := quote :: s.raw ++ [quote]

def jsonDigits (digits : List (Fin 10)) : List UInt8 :=
  digits.map fun d : Fin 10 => 48 + UInt8.ofNat d.val

/-- `first` is the first digit less one, and there is none for zero. -/
structure JsonNumber where
  negative : Bool
  whole : Option (Fin 9 × List (Fin 10))
  fraction : Option (Fin 10 × List (Fin 10))
  /-- The letter is `E`, and the sign. -/
  exponent : Option (Bool × Option Bool × Fin 10 × List (Fin 10))

def JsonNumber.wholeText (n : JsonNumber) : List UInt8 :=
  n.whole.elim [48] fun whole => (49 + UInt8.ofNat whole.1.val) :: jsonDigits whole.2

def JsonNumber.fractionText (n : JsonNumber) : List UInt8 :=
  n.fraction.elim [] fun fraction => 46 :: jsonDigits (fraction.1 :: fraction.2)

def JsonNumber.exponentText (n : JsonNumber) : List UInt8 :=
  n.exponent.elim [] fun exponent =>
    [if exponent.1 then 69 else 101]
      ++ exponent.2.1.elim [] (fun negative => [if negative then 45 else 43])
      ++ jsonDigits (exponent.2.2.1 :: exponent.2.2.2)

def JsonNumber.text (n : JsonNumber) : List UInt8 :=
  (if n.negative then [45] else []) ++ n.wholeText ++ n.fractionText ++ n.exponentText

inductive JsonScalar where
  | true
  | false
  | null
  | number (n : JsonNumber)

def JsonScalar.text : JsonScalar → List UInt8
  | true => [116, 114, 117, 101]
  | false => [102, 97, 108, 115, 101]
  | null => [110, 117, 108, 108]
  | number n => n.text

mutual

inductive Json where
  | scalar (s : JsonScalar)
  | string (s : JsonString)
  | emptyArray (inside : JsonBlanks)
  | array (elements : JsonElements)
  | emptyObject (inside : JsonBlanks)
  | object (members : JsonMembers)

inductive JsonElements where
  | last (before : JsonBlanks) (value : Json) (after : JsonBlanks)
  | cons (before : JsonBlanks) (value : Json) (after : JsonBlanks) (rest : JsonElements)

inductive JsonMembers where
  | last (before : JsonBlanks) (name : JsonString) (afterName beforeValue : JsonBlanks)
    (value : Json) (after : JsonBlanks)
  | cons (before : JsonBlanks) (name : JsonString) (afterName beforeValue : JsonBlanks)
    (value : Json) (after : JsonBlanks) (rest : JsonMembers)

end

mutual

def Json.text : Json → List UInt8
  | .scalar s => s.text
  | .string s => s.text
  | .emptyArray inside => openBracket :: inside.text ++ [closeBracket]
  | .array elements => openBracket :: elements.text ++ [closeBracket]
  | .emptyObject inside => openBrace :: inside.text ++ [closeBrace]
  | .object members => openBrace :: members.text ++ [closeBrace]

def JsonElements.text : JsonElements → List UInt8
  | .last before value after => before.text ++ value.text ++ after.text
  | .cons before value after rest =>
    before.text ++ value.text ++ after.text ++ comma :: rest.text

def JsonMembers.text : JsonMembers → List UInt8
  | .last before name afterName beforeValue value after =>
    before.text ++ name.text ++ afterName.text ++ colon :: beforeValue.text ++ value.text
      ++ after.text
  | .cons before name afterName beforeValue value after rest =>
    before.text ++ name.text ++ afterName.text ++ colon :: beforeValue.text ++ value.text
      ++ after.text ++ comma :: rest.text

end

/-- The value of the first member whose name is written as `name`. -/
def JsonMembers.lookup (name : List UInt8) : JsonMembers → Option Json
  | .last _ name' _ _ value _ => if name'.raw = name then some value else none
  | .cons _ name' _ _ value _ rest =>
    if name'.raw = name then some value else rest.lookup name

/-- A text whose top level is an object. -/
structure JsonDocument where
  before : JsonBlanks
  /-- There may be no members, but blanks. -/
  members : JsonBlanks ⊕ JsonMembers
  after : JsonBlanks

namespace JsonDocument

def inside (doc : JsonDocument) : List UInt8 := doc.members.elim JsonBlanks.text JsonMembers.text

def text (doc : JsonDocument) : List UInt8 :=
  doc.before.text ++ openBrace :: doc.inside ++ closeBrace :: doc.after.text

def lookup (name : List UInt8) (doc : JsonDocument) : Option Json :=
  doc.members.elim (fun _ => none) (JsonMembers.lookup name)

end JsonDocument

section Bytes

theorem JsonBlanks.inert (blanks : JsonBlanks)
    : ∀ c ∈ blanks.text, isInert c = true := by
  intro c mem
  have blank := blanks.blank c mem
  unfold isBlank at blank
  simp only [Bool.or_eq_true, beq_iff_eq] at blank
  rcases blank with ((space | tab) | cr) | lf
  . rw [space]; decide
  . rw [tab]; decide
  . rw [cr]; decide
  . rw [lf]; decide

/-- What numbers and the three names are made of. -/
def IsScalarByte (c : UInt8) : Prop := isInert c = true ∧ isBlank c = false

theorem isScalarByte_of_mem_jsonDigits {digits : List (Fin 10)}
    : ∀ c ∈ jsonDigits digits, IsScalarByte c := by
  intro c mem
  cases List.mem_map.mp mem with | intro d h =>
  rw [← h.2]
  have all : ∀ d : Fin 10, IsScalarByte (48 + UInt8.ofNat d.val) := by
    unfold IsScalarByte
    decide
  exact all d

theorem JsonNumber.isScalarByte (n : JsonNumber)
    : ∀ c ∈ n.text, IsScalarByte c := by
  have sign : ∀ c ∈ (if n.negative then [45] else []), IsScalarByte c := by
    intro c mem
    split at mem
    . rw [List.mem_singleton.mp mem]
      exact ⟨rfl, rfl⟩
    . cases mem
  have whole : ∀ c ∈ n.wholeText, IsScalarByte c := by
    intro c mem
    unfold wholeText at mem
    cases hwhole : n.whole with
    | none =>
      rw [hwhole] at mem
      rw [List.mem_singleton.mp mem]
      exact ⟨rfl, rfl⟩
    | some whole =>
      rw [hwhole] at mem
      cases List.mem_cons.mp mem with
      | inl first =>
        have all : ∀ d : Fin 9, IsScalarByte (49 + UInt8.ofNat d.val) := by
          unfold IsScalarByte
          decide
        rw [first]
        exact all whole.1
      | inr rest => exact isScalarByte_of_mem_jsonDigits c rest
  have fraction : ∀ c ∈ n.fractionText, IsScalarByte c := by
    intro c mem
    unfold fractionText at mem
    cases hfraction : n.fraction with
    | none =>
      rw [hfraction] at mem
      cases mem
    | some fraction =>
      rw [hfraction] at mem
      cases List.mem_cons.mp mem with
      | inl point =>
        rw [point]
        exact ⟨rfl, rfl⟩
      | inr digits => exact isScalarByte_of_mem_jsonDigits c digits
  have exponent : ∀ c ∈ n.exponentText, IsScalarByte c := by
    intro c mem
    unfold exponentText at mem
    cases hexponent : n.exponent with
    | none =>
      rw [hexponent] at mem
      cases mem
    | some exponent =>
      rw [hexponent] at mem
      cases List.mem_append.mp mem with
      | inl front =>
        cases List.mem_append.mp front with
        | inl letter =>
          rw [List.mem_singleton.mp letter]
          cases exponent.1 with
          | false => exact ⟨rfl, rfl⟩
          | true => exact ⟨rfl, rfl⟩
        | inr sign =>
          cases hsign : exponent.2.1 with
          | none =>
            rw [hsign] at sign
            cases sign
          | some negative =>
            rw [hsign] at sign
            rw [List.mem_singleton.mp sign]
            cases negative with
            | false => exact ⟨rfl, rfl⟩
            | true => exact ⟨rfl, rfl⟩
      | inr digits => exact isScalarByte_of_mem_jsonDigits c digits
  unfold JsonNumber.text
  intro c mem
  simp only [List.mem_append] at mem
  rcases mem with ((hsign | hwhole) | hfraction) | hexponent
  . exact sign c hsign
  . exact whole c hwhole
  . exact fraction c hfraction
  . exact exponent c hexponent

theorem isScalarByte_of_all {text : List UInt8}
    (h : text.all (fun c => isInert c && !isBlank c) = true)
    : ∀ c ∈ text, IsScalarByte c := by
  intro c mem
  have found := List.all_eq_true.mp h c mem
  simp only [Bool.and_eq_true, Bool.not_eq_true'] at found
  exact found

theorem JsonScalar.isScalarByte (s : JsonScalar)
    : ∀ c ∈ s.text, IsScalarByte c := by
  cases s with
  | true => exact isScalarByte_of_all (by decide)
  | false => exact isScalarByte_of_all (by decide)
  | null => exact isScalarByte_of_all (by decide)
  | number n => exact n.isScalarByte

theorem JsonScalar.text_ne_nil (s : JsonScalar)
    : s.text ≠ [] := by
  cases s with
  | true => exact List.cons_ne_nil _ _
  | false => exact List.cons_ne_nil _ _
  | null => exact List.cons_ne_nil _ _
  | number n =>
    have whole : n.wholeText ≠ [] := by
      unfold JsonNumber.wholeText
      cases n.whole with
      | none => exact List.cons_ne_nil _ _
      | some whole => exact List.cons_ne_nil _ _
    intro h
    unfold JsonScalar.text JsonNumber.text at h
    simp only [List.append_eq_nil_iff] at h
    exact whole h.1.1.2

/-- A value starts with no blank, and with a quote only if it is a string. -/
theorem Json.exists_text_eq_cons (v : Json)
    : ∃ c rest, v.text = c :: rest ∧ isBlank c = false
        ∧ (c = quote → ∃ s, v = .string s) := by
  cases v with
  | scalar s =>
    cases htext : s.text with
    | nil => exact absurd htext s.text_ne_nil
    | cons c rest =>
      have byte := s.isScalarByte c (by rw [htext]; exact List.mem_cons_self)
      refine ⟨c, rest, htext, byte.2, ?_⟩
      intro hquote
      rw [hquote] at byte
      exact absurd byte.1 (by decide)
  | string s => exact ⟨quote, _, rfl, rfl, fun _ => ⟨s, rfl⟩⟩
  | emptyArray inside => exact ⟨openBracket, _, rfl, rfl, fun h => absurd h (by decide)⟩
  | array elements => exact ⟨openBracket, _, rfl, rfl, fun h => absurd h (by decide)⟩
  | emptyObject inside => exact ⟨openBrace, _, rfl, rfl, fun h => absurd h (by decide)⟩
  | object members => exact ⟨openBrace, _, rfl, rfl, fun h => absurd h (by decide)⟩

end Bytes

end Formats
