import Mathlib.Data.Nat.Bitwise
import ZZ9000.FwRelease.ChunkedLemmas

/-!
This module contains bodies in chunked transfer encoding and proves that the decoder delivers exactly
their chunks and stops at their end.
-/

namespace ZZRel

open Streams

/-- The byte that spells a digit, in upper or lower case. -/
def hexByte (digit : Fin 16 × Bool) : UInt8 :=
  if digit.1.val < 10 then
    48 + UInt8.ofNat digit.1.val
  else
    (if digit.2 then 65 else 97) + UInt8.ofNat (digit.1.val - 10)

def hexNumber (n : Nat) (digits : List (Fin 16 × Bool)) : Nat :=
  match digits with
  | [] => n
  | digit :: digits => hexNumber (16 * n + digit.1.val) digits

/-- A spelling of the size of a chunk and its extension. -/
structure ChunkSize (size : Nat) where
  digits : List (Fin 16 × Bool)
  nonempty : digits ≠ []
  short : digits.length ≤ 7
  spells : hexNumber 0 digits = size
  ext : List UInt8
  starts : ∀ b ∈ ext.head?, b = 59 ∨ b = 32 ∨ b = 9
  noCr : cr ∉ ext

def ChunkSize.encode {size : Nat} (s : ChunkSize size) : List UInt8 :=
  s.digits.map hexByte ++ s.ext ++ [cr, lf]

structure EncodedChunk where
  content : List UInt8
  nonempty : content ≠ []
  size : ChunkSize content.length

def EncodedChunk.encode (chunk : EncodedChunk) : List UInt8 :=
  chunk.size.encode ++ chunk.content ++ [cr, lf]

/-- A line after the last chunk. -/
structure TrailerLine where
  first : UInt8
  rest : List UInt8
  notCr : first ≠ cr
  noLf : lf ∉ rest

def TrailerLine.encode (line : TrailerLine) : List UInt8 := line.first :: line.rest ++ [cr, lf]

structure ChunkedBody where
  chunks : List EncodedChunk
  last : ChunkSize 0
  trailers : List TrailerLine

namespace ChunkedBody

def content (body : ChunkedBody) : List UInt8 := body.chunks.flatMap EncodedChunk.content

/-- The encoded body without its last byte. -/
def encodeOpen (body : ChunkedBody) : List UInt8 :=
  body.chunks.flatMap EncodedChunk.encode ++ body.last.encode
    ++ body.trailers.flatMap TrailerLine.encode ++ [cr]

def encode (body : ChunkedBody) : List UInt8 := body.encodeOpen ++ [lf]

end ChunkedBody

section Size

theorem hexValue_hexByte (digit : Fin 16 × Bool)
    : hexValue (hexByte digit) = some digit.1.val := by
  have h : ∀ (value : Fin 16) (upper : Bool), hexValue (hexByte (value, upper)) = some value.val := by
    decide
  apply h

theorem hexValue_ext {b : UInt8} (h : b = 59 ∨ b = 32 ∨ b = 9) : hexValue b = none := by
  rcases h with h | h | h <;> rw [h] <;> decide

theorem hexNumber_lt {n k : Nat} (digits : List (Fin 16 × Bool)) (h : n < 16 ^ k)
    : hexNumber n digits < 16 ^ (k + digits.length) := by
  induction digits generalizing n k with
  | nil => exact h
  | cons digit digits ih =>
    have hnext : 16 * n + digit.1.val < 16 ^ (k + 1) := by
      rw [Nat.pow_succ]
      have := digit.1.isLt
      omega
    have := ih hnext
    rw [List.length_cons, Nat.add_comm digits.length, ← Nat.add_assoc]
    exact this

theorem shiftLeft_or_digit {n h : Nat} (hn : n < 2 ^ 28) (hh : h < 16)
    : (UInt32.ofNat n <<< 4) ||| UInt32.ofNat h = UInt32.ofNat (16 * n + h) := by
  have hor : 2 ^ 4 * n + h = 2 ^ 4 * n ||| h := Nat.two_pow_add_eq_or_of_lt hh n
  apply UInt32.toNat_inj.mp
  rw [UInt32.toNat_or, UInt32.toNat_shiftLeft]
  rw [UInt32.toNat_ofNat', UInt32.toNat_ofNat', UInt32.toNat_ofNat']
  have hfour : (4 : UInt32).toNat % 32 = 4 := by decide
  rw [hfour, Nat.shiftLeft_eq, Nat.mod_eq_of_lt (show n < 2 ^ 32 by omega)]
  rw [Nat.mod_eq_of_lt (show n * 2 ^ 4 < 2 ^ 32 by omega)]
  rw [Nat.mod_eq_of_lt (show h < 2 ^ 32 by omega)]
  rw [Nat.mod_eq_of_lt (show 16 * n + h < 2 ^ 32 by omega)]
  rw [Nat.mul_comm n, ← hor]
  omega

/-- The state in front of a chunk, after some digits of its size. -/
def sizeState (n digits : Nat) : Chunked := ⟨.size, UInt32.ofNat n, digits⟩

theorem run_digits {n k : Nat} (digits : List (Fin 16 × Bool)) (h : n < 16 ^ k)
    (hshort : k + digits.length ≤ 7)
    : chunkedMachine.Run (sizeState n k) (digits.map hexByte) []
        (sizeState (hexNumber n digits) (k + digits.length)) := by
  induction digits generalizing n k with
  | nil => exact Machine.Run.nil
  | cons digit digits ih =>
    rw [List.length_cons] at hshort ⊢
    have hlt := digit.1.isLt
    have hn : n < 2 ^ 28 := by
      calc n < 16 ^ k := h
        _ ≤ 16 ^ 7 := Nat.pow_le_pow_right (by decide) (by omega)
        _ = 2 ^ 28 := by decide
    have hstep : chunkedMachine.step (sizeState n k) (hexByte digit)
        = (sizeState (16 * n + digit.1.val) (k + 1), []) := by
      rw [step_of_not_data (by simp [sizeState])]
      unfold chunkedControl sizeState
      simp only [hexValue_hexByte]
      rw [if_neg (by omega), shiftLeft_or_digit hn hlt]
    have hnext : 16 * n + digit.1.val < 16 ^ (k + 1) := by
      rw [Nat.pow_succ]
      omega
    have hrest := ih hnext (by omega)
    rw [Nat.add_comm digits.length, ← Nat.add_assoc]
    exact Machine.Run.cons hstep hrest

theorem run_ext (n digits : Nat) (ext : List UInt8) (h : cr ∉ ext)
    : chunkedMachine.Run ⟨.ext, UInt32.ofNat n, digits⟩ (ext ++ [cr]) []
        ⟨.sizeLf, UInt32.ofNat n, digits⟩ := by
  induction ext with
  | nil =>
    apply Machine.Run.single
    rw [step_of_not_data (by simp)]
    rfl
  | cons b ext ih =>
    rw [List.mem_cons, not_or] at h
    have hstep : chunkedMachine.step ⟨.ext, UInt32.ofNat n, digits⟩ b
        = (⟨.ext, UInt32.ofNat n, digits⟩, []) := by
      rw [step_of_not_data (by simp)]
      unfold chunkedControl
      simp only
      rw [if_neg (Ne.symm h.1)]
    exact Machine.Run.cons hstep (ih h.2)

/-- The state behind a size line. -/
def sizedState (size : Nat) : Chunked :=
  ⟨if size = 0 then .trailer else .data, UInt32.ofNat size, 0⟩

theorem run_sizeLf {size : Nat} (digits : Nat) (h : size < 2 ^ 32)
    : chunkedMachine.Run ⟨.sizeLf, UInt32.ofNat size, digits⟩ [lf] [] (sizedState size) := by
  apply Machine.Run.single
  rw [step_of_not_data (by simp)]
  by_cases hzero : size = 0
  . rw [hzero]
    rfl
  . have hremaining : UInt32.ofNat size ≠ 0 := by
      intro heq
      have := congrArg UInt32.toNat heq
      rw [UInt32.toNat_ofNat', Nat.mod_eq_of_lt h] at this
      exact hzero this
    unfold chunkedControl sizedState
    simp only
    rw [if_neg (by simp), if_pos hremaining, if_neg hzero]

theorem run_size {size : Nat} (s : ChunkSize size)
    : chunkedMachine.Run chunkedInit s.encode [] (sizedState size) := by
  have hdigits := run_digits (n := 0) (k := 0) s.digits (by decide)
    (by have := s.short; omega)
  have hsize := hexNumber_lt (n := 0) (k := 0) s.digits (by decide)
  rw [Nat.zero_add] at hdigits hsize
  rw [s.spells] at hdigits hsize
  have hpositive := List.length_pos_iff.mpr s.nonempty
  have hsmall : size < 2 ^ 32 := by
    calc size < 16 ^ s.digits.length := hsize
      _ ≤ 16 ^ 7 := Nat.pow_le_pow_right (by decide) s.short
      _ < 2 ^ 32 := by decide
  have hcr : chunkedMachine.Run (sizeState size s.digits.length) (s.ext ++ [cr]) []
      ⟨.sizeLf, UInt32.ofNat size, s.digits.length⟩ := by
    cases hext : s.ext with
    | nil =>
      apply Machine.Run.single
      rw [step_of_not_data (by simp [sizeState])]
      unfold chunkedControl sizeState
      have hvalue : hexValue cr = none := by decide
      simp only [hvalue]
      rw [if_neg (by omega)]
      rfl
    | cons b ext =>
      have hstarts := s.starts b (by rw [hext]; rfl)
      have hnoCr := s.noCr
      rw [hext, List.mem_cons, not_or] at hnoCr
      have hstep : chunkedMachine.step (sizeState size s.digits.length) b
          = (⟨.ext, UInt32.ofNat size, s.digits.length⟩, []) := by
        rw [step_of_not_data (by simp [sizeState])]
        unfold chunkedControl sizeState
        simp only [hexValue_ext hstarts]
        rw [if_neg (by omega), if_neg (Ne.symm hnoCr.1), if_pos hstarts]
      exact Machine.Run.cons hstep (run_ext size _ ext hnoCr.2)
  have hlf := run_sizeLf s.digits.length hsmall
  have hall := (hdigits.append hcr).append hlf
  have hinit : sizeState 0 0 = chunkedInit := rfl
  rw [hinit] at hall
  unfold ChunkSize.encode
  simpa using hall

end Size

section Body

theorem sound_init : chunkedInit.Sound := by
  intro h
  cases h

theorem run_crlf
    : chunkedMachine.Run ⟨.dataCr, 0, 0⟩ [cr, lf] [] chunkedInit := by
  apply Machine.Run.silent (t := ⟨.dataLf, 0, 0⟩)
  . rw [step_of_not_data (by simp)]
    rfl
  . apply Machine.Run.single
    rw [step_of_not_data (by simp)]
    rfl

theorem run_chunk (chunk : EncodedChunk)
    : chunkedMachine.Run chunkedInit chunk.encode chunk.content chunkedInit := by
  have hsize := run_size chunk.size
  have hpositive := List.length_pos_iff.mpr chunk.nonempty
  have hlt := hexNumber_lt (n := 0) (k := 0) chunk.size.digits (by decide)
  rw [chunk.size.spells, Nat.zero_add] at hlt
  have hsmall : chunk.content.length < 2 ^ 32 := by
    calc chunk.content.length < 16 ^ chunk.size.digits.length := hlt
      _ ≤ 16 ^ 7 := Nat.pow_le_pow_right (by decide) chunk.size.short
      _ < 2 ^ 32 := by decide
  have hstate : sizedState chunk.content.length
      = ⟨.data, UInt32.ofNat chunk.content.length, 0⟩ := by
    unfold sizedState
    rw [if_neg (by omega)]
  rw [hstate] at hsize
  have hdata := run_data (c := ⟨.data, UInt32.ofNat chunk.content.length, 0⟩) chunk.content rfl
    hpositive (by
      simp only
      rw [UInt32.toNat_ofNat', Nat.mod_eq_of_lt hsmall])
  simp only [UInt32.sub_self, if_true] at hdata
  have hall := (hsize.append hdata).append run_crlf
  unfold EncodedChunk.encode
  simpa using hall

theorem run_trailerLine (rest : List UInt8) (h : lf ∉ rest)
    : chunkedMachine.Run ⟨.trailerLine, 0, 0⟩ (rest ++ [cr, lf]) [] ⟨.trailer, 0, 0⟩ := by
  induction rest with
  | nil =>
    apply Machine.Run.silent (t := ⟨.trailerLine, 0, 0⟩)
    . rw [step_of_not_data (by simp)]
      rfl
    . apply Machine.Run.single
      rw [step_of_not_data (by simp)]
      rfl
  | cons b rest ih =>
    rw [List.mem_cons, not_or] at h
    apply Machine.Run.silent (t := ⟨.trailerLine, 0, 0⟩)
    . rw [step_of_not_data (by simp)]
      unfold chunkedControl
      simp only
      rw [if_neg (Ne.symm h.1)]
    . exact ih h.2

theorem run_trailer (line : TrailerLine)
    : chunkedMachine.Run ⟨.trailer, 0, 0⟩ line.encode [] ⟨.trailer, 0, 0⟩ := by
  unfold TrailerLine.encode
  apply Machine.Run.silent (t := ⟨.trailerLine, 0, 0⟩)
  . rw [step_of_not_data (by simp)]
    unfold chunkedControl
    simp only
    rw [if_neg line.notCr]
  . exact run_trailerLine line.rest line.noLf

theorem run_encodeOpen (body : ChunkedBody)
    : chunkedMachine.Run chunkedInit body.encodeOpen body.content ⟨.trailerLf, 0, 0⟩ := by
  have hchunks : chunkedMachine.Run chunkedInit (body.chunks.flatMap EncodedChunk.encode)
      body.content chunkedInit := Machine.Run.flatMap fun chunk _ => run_chunk chunk
  have hlast := run_size body.last
  have htrailers : chunkedMachine.Run ⟨.trailer, 0, 0⟩ (body.trailers.flatMap TrailerLine.encode)
      (body.trailers.flatMap fun _ => []) ⟨.trailer, 0, 0⟩ :=
    Machine.Run.flatMap fun line _ => run_trailer line
  have hcr : chunkedMachine.Run ⟨.trailer, 0, 0⟩ [cr] [] ⟨.trailerLf, 0, 0⟩ := by
    apply Machine.Run.single
    rw [step_of_not_data (by simp)]
    rfl
  have hall := ((hchunks.append hlast).append htrailers).append hcr
  have hnothing : (body.trailers.flatMap fun _ => ([] : List UInt8)) = [] := by simp
  rw [hnothing, List.append_nil, List.append_nil, List.append_nil] at hall
  exact hall

theorem run_encode (body : ChunkedBody)
    : chunkedMachine.Run chunkedInit body.encode body.content ⟨.done, 0, 0⟩ := by
  have hlf : chunkedMachine.Run ⟨.trailerLf, 0, 0⟩ [lf] [] ⟨.done, 0, 0⟩ := by
    apply Machine.Run.single
    rw [step_of_not_data (by simp)]
    rfl
  have hall := (run_encodeOpen body).append hlf
  rw [List.append_nil] at hall
  exact hall

/-- The decoder is done at the end of a body and not before. -/
theorem state_of_prefix (body : ChunkedBody) {data rest : List UInt8}
    (h : data ++ rest = body.encode)
    : chunkedResult (chunkedMachine.state chunkedInit data)
        = if rest = [] then .done else .more := by
  cases List.eq_nil_or_concat rest with
  | inl hrest =>
    rw [hrest, List.append_nil] at h
    rw [if_pos hrest, h, (run_encode body).1]
    rfl
  | inr hrest =>
    obtain ⟨init, last, hrest⟩ := hrest
    rw [hrest, List.concat_eq_append, if_neg (by simp)]
    rw [hrest, List.concat_eq_append, ← List.append_assoc] at h
    have hopen : data ++ init = body.encodeOpen := List.append_inj_left' h rfl
    have hrun := run_encodeOpen body
    rw [← hopen] at hrun
    apply chunkedResult_eq_more.mpr
    intro hhalted
    have hstate := hrun.1
    rw [Machine.state_append, ((halted hhalted).run init).1] at hstate
    rw [hstate] at hhalted
    simp at hhalted

end Body

/-- The sink is not called again after it failed. -/
def LastRefused (sink : Sink) (given : List (List UInt8)) : Prop :=
  ∀ before block after, given = before ++ block :: after → sink before block = true → after = []

theorem lastRefused_chunkedFeedAll (sink : Sink) (pieces : List (List UInt8))
    : LastRefused sink (chunkedFeedAll sink chunkedInit [] pieces).2 := by
  obtain ⟨blocks, hgiven, hfed⟩ := chunkedFeedAll_fed sink [] pieces sound_init
  rw [hgiven]
  intro before block after hsplit hrefused
  cases hfed with
  | inl hfed =>
    have := hfed.1.not_refused hsplit
    rw [List.nil_append, hrefused] at this
    cases this
  | inr hfed => exact hfed.1.last hsplit hrefused

theorem prefix_chunkedFeedAll (sink : Sink) (pieces : List (List UInt8))
    : (chunkedFeedAll sink chunkedInit [] pieces).2.flatten
        <+: (chunkedFeedAll accept chunkedInit [] pieces).2.flatten := by
  obtain ⟨blocks, hgiven, hfed⟩ := chunkedFeedAll_fed sink [] pieces sound_init
  rw [hgiven, (chunkedFeedAll_accept pieces sound_init).2, List.nil_append]
  cases hfed with
  | inl hfed => rw [hfed.2.2]
  | inr hfed => exact hfed.2.2

/--
However a body is split over the calls, the sink gets exactly the chunks and the call that supplies
the last byte reports the end. Two ways to split the same bytes give the same output and state. A
sink that fails gets a part of that and nothing after it failed, and a decoder that is done or has
failed stays so and gives its sink nothing more.
-/
theorem chunked_decodes
    : (∀ (body : ChunkedBody) (pieces : List (List UInt8)), pieces.flatten = body.encode →
        (chunkedFeedAll accept chunkedInit [] pieces).2.flatten = body.content ∧
        ∀ before piece after, pieces = before ++ piece :: after →
          (chunkedFeed accept (chunkedFeedAll accept chunkedInit [] before).1
            (chunkedFeedAll accept chunkedInit [] before).2 piece).1
            = if after.flatten = [] then .done else .more) ∧
      (∀ pieces pieces' : List (List UInt8), pieces.flatten = pieces'.flatten →
        (chunkedFeedAll accept chunkedInit [] pieces).2.flatten
            = (chunkedFeedAll accept chunkedInit [] pieces').2.flatten ∧
          (chunkedFeedAll accept chunkedInit [] pieces).1
            = (chunkedFeedAll accept chunkedInit [] pieces').1) ∧
      (∀ (sink : Sink) (pieces : List (List UInt8)),
        (chunkedFeedAll sink chunkedInit [] pieces).2.flatten
            <+: (chunkedFeedAll accept chunkedInit [] pieces).2.flatten ∧
          LastRefused sink (chunkedFeedAll sink chunkedInit [] pieces).2 ∧
          ∀ later, chunkedResult (chunkedFeedAll sink chunkedInit [] pieces).1 ≠ .more →
            chunkedFeedAll sink chunkedInit [] (pieces ++ later)
              = chunkedFeedAll sink chunkedInit [] pieces) := by
  refine ⟨?_, ?_, ?_⟩
  . intro body pieces h
    refine ⟨?_, ?_⟩
    . rw [(chunkedFeedAll_accept pieces sound_init).2, h]
      exact (run_encode body).2
    . intro before piece after hsplit
      have hbefore := (chunkedFeedAll_accept before sound_init).1
      have hpiece := chunkedFeedAll_accept (before ++ [piece]) sound_init
      rw [chunkedFeedAll_append] at hpiece
      have hdata : (before ++ [piece]).flatten ++ after.flatten = body.encode := by
        rw [← h, hsplit]
        simp
      rw [← state_of_prefix body hdata, ← hpiece.1]
      rfl
  . intro pieces pieces' h
    obtain ⟨hstate, houtput⟩ := chunkedFeedAll_accept pieces sound_init
    obtain ⟨hstate', houtput'⟩ := chunkedFeedAll_accept pieces' sound_init
    rw [hstate, houtput, hstate', houtput', h]
    trivial
  . intro sink pieces
    refine ⟨prefix_chunkedFeedAll sink pieces, lastRefused_chunkedFeedAll sink pieces, ?_⟩
    intro later h
    rw [chunkedFeedAll_append]
    apply chunkedFeedAll_halted
    by_contra hmore
    exact h (chunkedResult_eq_more.mpr hmore)

theorem hexZero_lt : 0 < 16 := by decide
theorem hexFive_lt : 5 < 16 := by decide

/-- One chunk of five bytes with an extension, and a trailer line. -/
def helloBody : ChunkedBody where
  chunks := [{
    content := [104, 101, 108, 108, 111]
    nonempty := by decide
    size := {
      digits := [(⟨0, hexZero_lt⟩, false), (⟨5, hexFive_lt⟩, true)]
      nonempty := by decide
      short := by decide
      spells := by decide
      ext := [59, 120]
      starts := fun _ h => .inl (Option.some.inj h).symm
      noCr := by decide
    }
  }]
  last := {
    digits := [(⟨0, hexZero_lt⟩, false)]
    nonempty := by decide
    short := by decide
    spells := by decide
    ext := []
    starts := nofun
    noCr := by decide
  }
  trailers := [{ first := 88, rest := [58, 49], notCr := by decide, noLf := by decide }]

theorem chunked_decodes_hello
    : (chunkedFeedAll accept chunkedInit [] [helloBody.encode.take 7, helloBody.encode.drop 7]).2.flatten
          = [104, 101, 108, 108, 111] ∧
        (chunkedFeed accept (chunkedFeedAll accept chunkedInit [] [helloBody.encode.take 7]).1
          (chunkedFeedAll accept chunkedInit [] [helloBody.encode.take 7]).2
          (helloBody.encode.drop 7)).1 = .done := by
  obtain ⟨hcontent, hresult⟩ := chunked_decodes.1 helloBody
    [helloBody.encode.take 7, helloBody.encode.drop 7] (by decide)
  refine ⟨hcontent, ?_⟩
  exact hresult [helloBody.encode.take 7] (helloBody.encode.drop 7) [] rfl

end ZZRel
