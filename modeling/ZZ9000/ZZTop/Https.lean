import ZZ9000.FwRelease.HttpHead

/-!
This module contains one request of the HTTPS client from `https.c`.
-/

namespace ZZTop

open ZZRel

def httpsHeadMax : Nat := 8192
def httpsIoBytes : Nat := 8192
def zztopRelease : List UInt8 := ascii "3.1"

inductive HttpsResult where
  | ok
  | stopped
  | cancelled
  | sinkFailed
  | httpStatus
  | failed
deriving DecidableEq, Repr

inductive SinkAnswer where
  | continues
  | done
  | failed
deriving DecidableEq, Repr

/-- `begin` tells whether to abort. `data` decides by the blocks given before and the next one. -/
structure HttpsSink where
  begin : Option Nat → Bool
  data : List (List UInt8) → List UInt8 → SinkAnswer

/-- Why a read or a write ends the request. -/
inductive ConnFailure where
  | failed
  | cancelled
deriving DecidableEq, Repr

def ConnFailure.result (failure : ConnFailure) : HttpsResult :=
  match failure with
  | .failed => .failed
  | .cancelled => .cancelled

/--
What the server sends until it closes. The next read fails or gives at most one byte more than the
first answer says, and none only at the end.
-/
structure Conn where
  stream : List UInt8
  write : Option ConnFailure
  answers : Nat → Except ConnFailure Nat

namespace Conn

def read (c : Conn) (size : Nat) : Except ConnFailure (List UInt8 × Conn) :=
  match c.answers 0 with
  | .error failure => .error failure
  | .ok limit =>
    let n := min (limit + 1) size
    .ok (c.stream.take n,
      { c with stream := c.stream.drop n, answers := fun i => c.answers (i + 1) })

theorem read_ok {c c' : Conn} {size : Nat} {piece : List UInt8}
    (h : c.read size = .ok (piece, c'))
    : c.stream = piece ++ c'.stream ∧ piece.length ≤ size ∧
        (piece = [] → 0 < size → c.stream = []) ∧ c'.answers = fun i => c.answers (i + 1) := by
  unfold read at h
  split at h
  next => cases h
  next limit =>
    simp only [Except.ok.injEq, Prod.mk.injEq] at h
    obtain ⟨hpiece, hc⟩ := h
    rw [← hpiece, ← hc]
    refine ⟨(List.take_append_drop _ _).symm, ?_, ?_, rfl⟩
    . rw [List.length_take]
      omega
    . intro hnil hsize
      have hlength := congrArg List.length hnil
      rw [List.length_take, List.length_nil] at hlength
      apply List.length_eq_zero_iff.mp
      omega

end Conn

def blankLine : List UInt8 := [cr, lf, cr, lf]

/-- `strstr` for the blank line. A NUL ends the text. -/
def findBlankLine (text : List UInt8) : Option Nat :=
  match text with
  | [] => none
  | b :: rest =>
    if b = 0 then
      none
    else if (b :: rest).take 4 = blankLine then
      some 0
    else
      (findBlankLine rest).map (· + 1)

/-- The response head, up to the blank line: the bytes read and where the blank line is. -/
def readHead (c : Conn) (have_ : List UInt8) : Except HttpsResult (List UInt8 × Nat × Conn) :=
  if have_.length ≥ httpsHeadMax - 1 then
    .error .failed
  else
    match c.read (httpsHeadMax - 1 - have_.length) with
    | .error failure => .error failure.result
    | .ok ([], _) => .error .failed
    | .ok (b :: piece, c) =>
      match findBlankLine (have_ ++ b :: piece) with
      | some found => .ok (have_ ++ b :: piece, found, c)
      | none => readHead c (have_ ++ b :: piece)
termination_by httpsHeadMax - have_.length
decreasing_by
  rw [List.length_append, List.length_cons]
  omega

def bodySink (sink : HttpsSink) : Sink := fun given block => sink.data given block ≠ .continues

/-- What the sink answered last. -/
def sinkRc (sink : HttpsSink) (given : List (List UInt8)) : SinkAnswer :=
  match given.getLast? with
  | none => .continues
  | some block => sink.data given.dropLast block

/-- The variables of the body loop. -/
structure BodyState where
  chunked : Chunked
  remaining : Nat
  given : List (List UInt8)

inductive BodyStep where
  | returns (result : HttpsResult) (given : List (List UInt8))
  | reads (state : BodyState)

/-- One round of the body loop up to its read. -/
def bodyStep (sink : HttpsSink) (head : HttpHead) (s : BodyState) (piece : List UInt8) : BodyStep :=
  if piece ≠ [] then
    if head.chunked then
      let (rc, chunked, given) := chunkedFeed (bodySink sink) s.chunked s.given piece
      match sinkRc sink given with
      | .done => .returns .stopped given
      | .failed => .returns .sinkFailed given
      | .continues =>
        match rc with
        | .error => .returns .failed given
        | .done => .returns .ok given
        | .more => .reads { s with chunked, given }
    else
      let n :=
        if head.contentLength.isSome ∧ piece.length > s.remaining then s.remaining else piece.length
      let given := s.given ++ [piece.take n]
      match sinkRc sink given with
      | .done => .returns .stopped given
      | .failed => .returns .sinkFailed given
      | .continues =>
        if head.contentLength.isSome then
          let remaining := s.remaining - n
          if remaining = 0 then .returns .ok given else .reads { s with remaining, given }
        else
          .reads { s with given }
  else if head.contentLength = some 0 ∧ head.chunked = false then
    .returns .ok s.given
  else
    .reads s

def bodyLoop (sink : HttpsSink) (head : HttpHead) (s : BodyState) (piece : List UInt8) (c : Conn)
    : HttpsResult × List (List UInt8) :=
  match bodyStep sink head s piece with
  | .returns result given => (result, given)
  | .reads s =>
    match _hread : c.read httpsIoBytes with
    | .error failure => (failure.result, s.given)
    | .ok ([], _) =>
      if head.chunked = false ∧ head.contentLength = none then (.ok, s.given) else (.failed, s.given)
    | .ok (b :: piece, c) => bodyLoop sink head s (b :: piece) c
termination_by c.stream.length
decreasing_by
  rw [(Conn.read_ok _hread).1, List.length_append, List.length_cons]
  omega

def requestText (host path accept : List UInt8) : List UInt8 :=
  ascii "GET " ++ path ++ ascii " HTTP/1.1\r\nHost: " ++ host ++ ascii "\r\nUser-Agent: ZZTop/"
    ++ zztopRelease ++ ascii " (AmigaOS)\r\nAccept: " ++ accept
    ++ ascii "\r\nConnection: close\r\n\r\n"

/-- What a request did. `status` is 0 where no response head was read. -/
structure Response where
  result : HttpsResult
  status : Nat := 0
  nextUrl : List UInt8 := []
  given : List (List UInt8) := []
deriving DecidableEq, Repr

def redirect (host location : List UInt8) : List UInt8 :=
  if location.head? = some 47 then ascii "https://" ++ host ++ location else location

/-- What follows a response head. `piece` is what was read behind it. -/
def respond (sink : HttpsSink) (host : List UInt8) (nextSize : Nat) (head : HttpHead)
    (piece : List UInt8) (c : Conn) : Response :=
  if 300 ≤ head.status ∧ head.status < 400 ∧ head.location ≠ [] then
    let nextUrl := redirect host head.location
    if nextUrl.length ≥ nextSize then
      { result := .failed, status := head.status }
    else
      { result := .ok, status := head.status, nextUrl }
  else if head.status ≠ 200 then
    { result := .httpStatus, status := head.status }
  else if sink.begin (if head.chunked then none else head.contentLength) then
    { result := .sinkFailed, status := head.status }
  else
    let s := { chunked := chunkedInit, remaining := head.contentLength.getD 0, given := [] }
    let (result, given) := bodyLoop sink head s piece c
    { result, status := head.status, given }

def request (c : Conn) (sink : HttpsSink) (host path accept : List UInt8) (nextSize : Nat)
    : Response :=
  if (requestText host path accept).length ≥ httpsHeadMax then
    { result := .failed }
  else
    match c.write with
    | some failure => { result := failure.result }
    | none =>
      match readHead c [] with
      | .error result => { result }
      | .ok (text, found, c) =>
        match httpParseHead (text.take found) with
        | none => { result := .failed }
        | some head => respond sink host nextSize head (text.drop (found + blankLine.length)) c

end ZZTop
