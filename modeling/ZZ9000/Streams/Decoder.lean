import Mathlib.Data.List.Basic

/-!
This module contains decoders that are called again and again with pieces of a compressed stream and
write into a circular window: what a history of calls has read and written, and what it means that a
decoder implements a code.
-/

namespace Streams

inductive DecodeStatus where
  | failed
  | done
  | needsMoreInput
  | hasMoreOutput
deriving DecidableEq, Repr

/-- What one call did. `read` elements of its input were used. -/
structure Decoded (σ β : Type) where
  state : σ
  read : Nat
  output : List β
  status : DecodeStatus

/--
A decoder with its window as part of its state. A call gets a piece of the stream and the position in
the window that it writes to; it writes up to the end of the window.
-/
structure Decoder (σ α β : Type) where
  init : σ
  decode : σ → List α → Nat → Decoded σ β

namespace Decoder

variable {σ α β : Type}

/-- The calls since `init` have left the state `s`, read `input` and written `output`. -/
inductive Session (D : Decoder σ α β) (window : Nat) : σ → List α → List β → Prop where
  | init : D.Session window D.init [] []
  | call {s : σ} {input : List α} {output : List β} (piece : List α)
      (h : D.Session window s input output)
      (hstatus : (D.decode s piece (output.length % window)).status = .needsMoreInput ∨
        (D.decode s piece (output.length % window)).status = .hasMoreOutput)
      : D.Session window (D.decode s piece (output.length % window)).state
          (input ++ piece.take (D.decode s piece (output.length % window)).read)
          (output ++ (D.decode s piece (output.length % window)).output)

/-- No stream of the code goes on after the end of another one. -/
def PrefixFree (code : List α → Option (List β)) : Prop :=
  ∀ {w w' : List α} {t t' : List β}, code w = some t → code w' = some t' → w <+: w' → w = w'

/--
The decoder implements `code`: it finishes only at the end of a stream, asks for input only within one,
stops for space only after output, and on a stream it neither fails nor reads past its end.
-/
structure Implements (D : Decoder σ α β) (window : Nat) (code : List α → Option (List β)) : Prop where
  prefixFree : PrefixFree code
  done : ∀ {s input output}, D.Session window s input output → ∀ piece,
    (D.decode s piece (output.length % window)).status = .done →
    code (input ++ piece.take (D.decode s piece (output.length % window)).read)
      =
    some (output ++ (D.decode s piece (output.length % window)).output)
  needsMoreInput : ∀ {s input output}, D.Session window s input output → ∀ piece,
    (D.decode s piece (output.length % window)).status = .needsMoreInput →
    piece.length ≤ (D.decode s piece (output.length % window)).read ∧ code (input ++ piece) = none
  hasMoreOutput : ∀ {s input output}, D.Session window s input output → ∀ piece,
    (D.decode s piece (output.length % window)).status = .hasMoreOutput →
    (D.decode s piece (output.length % window)).output ≠ []
  proceeds : ∀ {s input output}, D.Session window s input output → ∀ piece,
    ∀ {w t}, code w = some t → (w <+: input ++ piece ∨ input ++ piece <+: w) →
    (D.decode s piece (output.length % window)).status ≠ .failed ∧
      input ++ piece.take (D.decode s piece (output.length % window)).read <+: w ∧
      output ++ (D.decode s piece (output.length % window)).output <+: t

end Decoder

end Streams
