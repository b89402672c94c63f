import ZZ9000.FwRelease.ChunkedBody
import ZZ9000.FwRelease.HttpHeadLemmas
import ZZ9000.ZZTop.Https

/-!
This module proves what a request delivers, however its reads split what the server sends.
-/

namespace ZZTop

open Streams ZZRel

section BlankLine

/-- No NUL and no blank line begins in the text, also not one that ends after it. -/
def Unblanked (text : List UInt8) : Prop :=
  match text with
  | [] => True
  | b :: text => b ≠ 0 ∧ (b :: text ++ blankLine).take 4 ≠ blankLine ∧ Unblanked text

theorem unblanked_append {line text : List UInt8} (hline : ∀ b ∈ line, Plain b)
    (h : Unblanked text)
    : Unblanked (line ++ text) := by
  induction line with
  | nil => exact h
  | cons b line ih =>
    rw [List.forall_mem_cons] at hline
    refine ⟨hline.1.1, ?_, ih hline.2⟩
    intro hblank
    exact hline.1.2.1 (List.cons_eq_cons.mp hblank).1

theorem unblanked_crlf {b : UInt8} {text : List UInt8} (hb : b ≠ cr) (h : Unblanked (b :: text))
    : Unblanked (cr :: lf :: b :: text) := by
  refine ⟨by decide, ?_, by decide, ?_, h⟩
  . intro hblank
    apply hb
    have hlf := (List.cons_eq_cons.mp hblank).2
    exact (List.cons_eq_cons.mp (List.cons_eq_cons.mp hlf).2).1
  . intro hblank
    simp [blankLine, cr, lf] at hblank

theorem findBlankLine_unblanked {text : List UInt8} (h : Unblanked text) (rest : List UInt8)
    (k : Nat)
    : findBlankLine ((text ++ (blankLine ++ rest)).take k)
        = if text.length + 4 ≤ k then some text.length else none := by
  induction text generalizing k with
  | nil =>
    rw [List.nil_append, List.length_nil]
    match k with
    | 0 | 1 | 2 | 3 => rfl
    | k + 4 =>
      rw [if_pos (by omega)]
      rfl
  | cons b text ih =>
    obtain ⟨hnul, hblank, hrest⟩ := h
    cases k with
    | zero => rfl
    | succ k =>
      rw [List.cons_append, List.take_succ_cons]
      unfold findBlankLine
      rw [if_neg hnul, if_neg, ih hrest, List.length_cons]
      . split <;> split <;> first | rfl | omega
      . intro hfound
        apply hblank
        have hk : 3 ≤ k := by
          have := congrArg List.length hfound
          rw [List.length_take, List.length_cons, List.length_take] at this
          simp [blankLine] at this
          omega
        rw [List.take_succ_cons, List.take_take, Nat.min_eq_left hk, ← List.append_assoc] at hfound
        rw [List.take_append_of_le_length (by simp [blankLine])] at hfound
        exact hfound

theorem unblanked_fields (fields : List HttpField)
    : Unblanked (fields.flatMap fun field => cr :: lf :: field.encode) := by
  induction fields with
  | nil => trivial
  | cons field fields ih =>
    rw [List.flatMap_cons]
    have hfield := unblanked_append field.plain_encode ih
    cases hencode : field.encode with
    | nil => exact absurd hencode field.encode_ne_nil
    | cons b rest =>
      rw [hencode] at hfield
      apply unblanked_crlf _ hfield
      have := field.plain_encode b (by rw [hencode]; exact List.mem_cons_self)
      exact this.2.1

theorem unblanked_head (head : OkHead) : Unblanked head.encode := by
  unfold OkHead.encode
  exact unblanked_append head.plain_statusLine (unblanked_fields head.fields)

end BlankLine

/-- No read fails. -/
def Conn.Reads (c : Conn) : Prop := ∀ i, ∃ limit, c.answers i = .ok limit

theorem Conn.Reads.read {c : Conn} (h : c.Reads) (size : Nat)
    : ∃ piece c', c.read size = .ok (piece, c') ∧ c'.Reads := by
  obtain ⟨limit, hlimit⟩ := h 0
  unfold Conn.read
  rw [hlimit]
  exact ⟨_, _, rfl, fun i => h (i + 1)⟩

section Head

theorem readHead_ok {head : OkHead} {rest : List UInt8} (hfits : head.encode.length + 4 ≤ httpsHeadMax - 1)
    (n : Nat) {c : Conn} (have_ : List UInt8) (hn : head.encode.length + 4 - have_.length ≤ n)
    (hreads : c.Reads) (hstream : have_ ++ c.stream = head.encode ++ (blankLine ++ rest))
    (hshort : have_.length < head.encode.length + 4)
    : ∃ text c', readHead c have_ = .ok (text, head.encode.length, c') ∧
        text ++ c'.stream = head.encode ++ (blankLine ++ rest) ∧
        head.encode.length + 4 ≤ text.length ∧ c'.Reads := by
  induction n generalizing c have_ with
  | zero => omega
  | succ n ih =>
    unfold readHead
    rw [if_neg (by omega)]
    obtain ⟨piece, c', hread, hreads'⟩ := hreads.read (httpsHeadMax - 1 - have_.length)
    obtain ⟨hsplit, hsize, hnil, _⟩ := Conn.read_ok hread
    rw [hread]
    cases piece with
    | nil =>
      have hempty := hnil rfl (by omega)
      have := congrArg List.length hstream
      rw [hempty] at this
      simp [blankLine] at this
      omega
    | cons b piece =>
      simp only
      have htext : (have_ ++ b :: piece) ++ c'.stream = head.encode ++ (blankLine ++ rest) := by
        rw [List.append_assoc, ← hsplit]
        exact hstream
      have htake : have_ ++ b :: piece
          = (head.encode ++ (blankLine ++ rest)).take (have_ ++ b :: piece).length := by
        rw [← htext, List.take_left]
      have hfind := findBlankLine_unblanked (unblanked_head head) rest (have_ ++ b :: piece).length
      rw [← htake] at hfind
      rw [hfind]
      by_cases hend : head.encode.length + 4 ≤ (have_ ++ b :: piece).length
      . rw [if_pos hend]
        exact ⟨_, _, rfl, htext, hend, hreads'⟩
      . rw [if_neg hend]
        apply ih
        . rw [List.length_append, List.length_cons]
          omega
        . exact hreads'
        . exact htext
        . omega

end Head

section Body

/-- A sink that always continues. -/
structure HttpsSink.Continues (sink : HttpsSink) : Prop where
  begin : ∀ total, sink.begin total = false
  data : ∀ given block, sink.data given block = .continues

variable {sink : HttpsSink} {head : HttpHead}

theorem bodySink_continues (h : sink.Continues) : bodySink sink = accept := by
  funext given block
  unfold bodySink accept
  rw [h.data]
  rfl

theorem sinkRc_continues (h : sink.Continues) (given : List (List UInt8))
    : sinkRc sink given = .continues := by
  unfold sinkRc
  split
  next => rfl
  next => apply h.data

/-- What the rest of a body comes to if nothing follows `data` but the end of the connection. -/
def framed (head : HttpHead) (s : BodyState) (data : List UInt8) : HttpsResult × List UInt8 :=
  if head.chunked then
    (if chunkedResult (chunkedMachine.state s.chunked data) = .done then .ok else .failed,
      chunkedMachine.output s.chunked data)
  else if head.contentLength.isSome then
    (if s.remaining ≤ data.length then .ok else .failed, data.take s.remaining)
  else
    (.ok, data)

/-- More of the body is expected, or the body has no byte. -/
structure BodyState.Ready (head : HttpHead) (s : BodyState) : Prop where
  sound : s.chunked.Sound
  more : chunkedResult s.chunked = .more
  empty : head.contentLength.isSome = true → (s.remaining = 0 ↔ head.contentLength = some 0)

/-- What one round tells about the body. -/
def BodyStep.Sound (head : HttpHead) (s : BodyState) (piece : List UInt8) (step : BodyStep) : Prop :=
  match step with
  | .returns result given =>
    ∀ rest, ∃ out, framed head s (piece ++ rest) = (result, out) ∧
      given.flatten = s.given.flatten ++ out
  | .reads s' =>
    s'.Ready head ∧ (head.chunked = false → head.contentLength.isSome = true → 0 < s'.remaining) ∧
      ∃ out, s'.given.flatten = s.given.flatten ++ out ∧
        ∀ rest, framed head s (piece ++ rest)
          = ((framed head s' rest).1, out ++ (framed head s' rest).2)

theorem sound_bodyStep_nil {s : BodyState} (h : s.Ready head)
    : (bodyStep sink head s []).Sound head s [] := by
  unfold bodyStep
  rw [if_neg (by simp)]
  split
  next hempty =>
    intro rest
    have hsized : head.contentLength.isSome = true := by
      rw [hempty.1]
      rfl
    refine ⟨[], ?_, (List.append_nil _).symm⟩
    unfold framed
    rw [if_neg (by rw [hempty.2]; decide), if_pos hsized]
    rw [(h.empty hsized).mpr hempty.1, if_pos (Nat.zero_le _), List.take_zero]
  next hempty =>
    refine ⟨h, ?_, [], (List.append_nil _).symm, fun rest => rfl⟩
    intro hchunked hsized
    apply Nat.pos_of_ne_zero
    intro hzero
    exact hempty ⟨(h.empty hsized).mp hzero, hchunked⟩

theorem framed_chunked {s : BodyState} (hchunked : head.chunked = true) (piece rest : List UInt8)
    : framed head s (piece ++ rest)
        = (if chunkedResult (chunkedMachine.state (chunkedMachine.state s.chunked piece) rest) = .done
            then .ok else .failed,
          chunkedMachine.output s.chunked piece
            ++ chunkedMachine.output (chunkedMachine.state s.chunked piece) rest) := by
  unfold framed
  rw [if_pos hchunked, Machine.state_append, Machine.output_append]

theorem framed_halted {s : BodyState} (hchunked : head.chunked = true) (piece rest : List UInt8)
    (h : chunkedResult (chunkedMachine.state s.chunked piece) ≠ .more)
    : framed head s (piece ++ rest)
        = (if chunkedResult (chunkedMachine.state s.chunked piece) = .done then .ok else .failed,
          chunkedMachine.output s.chunked piece) := by
  have hhalted := Decidable.not_not.mp (mt chunkedResult_eq_more.mpr h)
  have hrun := (halted hhalted).run rest
  rw [framed_chunked hchunked, hrun.1, hrun.2, List.append_nil]

theorem sound_bodyStep_chunked {s : BodyState} {piece : List UInt8} (hsink : sink.Continues)
    (h : s.Ready head) (hpiece : piece ≠ []) (hchunked : head.chunked = true)
    : (bodyStep sink head s piece).Sound head s piece := by
  obtain ⟨hstate, hgiven⟩ := chunkedLoop_accept s.given piece h.sound
  unfold bodyStep chunkedFeed
  rw [if_pos hpiece, if_pos hchunked, bodySink_continues hsink]
  simp only [sinkRc_continues hsink]
  cases hresult : chunkedResult (chunkedLoop accept s.chunked s.given piece).1 with
  | error =>
    rw [hstate] at hresult
    intro rest
    refine ⟨_, ?_, hgiven⟩
    rw [framed_halted hchunked _ _ (by rw [hresult]; decide), hresult]
    rfl
  | done =>
    rw [hstate] at hresult
    intro rest
    refine ⟨_, ?_, hgiven⟩
    rw [framed_halted hchunked _ _ (by rw [hresult]; decide), hresult]
    rfl
  | more =>
    refine ⟨⟨?_, hresult, h.empty⟩, ?_, _, hgiven, ?_⟩
    . simp only
      rw [hstate]
      exact sound_state piece h.sound
    . intro hplain
      rw [hchunked] at hplain
      cases hplain
    . intro rest
      rw [framed_chunked hchunked]
      unfold framed
      rw [if_pos hchunked, hstate]

theorem sound_bodyStep_plain {s : BodyState} {piece : List UInt8} (hsink : sink.Continues)
    (h : s.Ready head) (hpiece : piece ≠ []) (hplain : head.chunked = false)
    : (bodyStep sink head s piece).Sound head s piece := by
  have hchunked : ¬head.chunked = true := by
    rw [hplain]
    decide
  unfold bodyStep
  rw [if_pos hpiece, if_neg hchunked]
  simp only [sinkRc_continues hsink]
  by_cases hsized : head.contentLength.isSome = true
  . rw [if_pos hsized]
    have hframed : ∀ (s : BodyState) data, framed head s data
        = (if s.remaining ≤ data.length then .ok else .failed, data.take s.remaining) := by
      intro s data
      unfold framed
      rw [if_neg hchunked, if_pos hsized]
    have hn : (if head.contentLength.isSome = true ∧ piece.length > s.remaining then s.remaining
        else piece.length) = min piece.length s.remaining := by
      rw [hsized]
      simp only [true_and]
      split <;> omega
    rw [hn]
    by_cases hdone : s.remaining ≤ piece.length
    . rw [Nat.min_eq_right hdone, if_pos (Nat.sub_self _)]
      intro rest
      refine ⟨piece.take s.remaining, ?_, by simp⟩
      rw [hframed, List.take_append_of_le_length hdone, if_pos]
      rw [List.length_append]
      omega
    . rw [Nat.min_eq_left (by omega), if_neg (by omega), List.take_length]
      refine ⟨⟨h.sound, h.more, ?_⟩, ?_, piece, by simp, ?_⟩
      . intro hsome
        have hempty := h.empty hsome
        refine ⟨?_, ?_⟩
        . simp only
          omega
        . intro hzero
          have := hempty.mpr hzero
          omega
      . intro _ _
        simp only
        omega
      . intro rest
        rw [hframed, hframed, List.length_append, List.take_append, List.take_of_length_le (by omega)]
        simp only
        congr 2
        apply propext
        omega
  . rw [if_neg hsized, if_neg (fun h => hsized h.1)]
    refine ⟨⟨h.sound, h.more, h.empty⟩, fun _ hsome => absurd hsome hsized, piece, ?_, ?_⟩
    . simp
    . intro rest
      unfold framed
      rw [if_neg hchunked, if_neg hsized, if_neg hchunked, if_neg hsized]

theorem sound_bodyStep {s : BodyState} (piece : List UInt8) (hsink : sink.Continues)
    (h : s.Ready head)
    : (bodyStep sink head s piece).Sound head s piece := by
  by_cases hpiece : piece = []
  . rw [hpiece]
    exact sound_bodyStep_nil h
  . cases hchunked : head.chunked with
    | true => exact sound_bodyStep_chunked hsink h hpiece hchunked
    | false => exact sound_bodyStep_plain hsink h hpiece hchunked

/-- A body that is not complete at the end of the connection. -/
theorem framed_nil {s : BodyState} (h : s.Ready head)
    (hremaining : head.chunked = false → head.contentLength.isSome = true → 0 < s.remaining)
    : framed head s []
        = (if head.chunked = false ∧ head.contentLength = none then .ok else .failed, []) := by
  unfold framed
  cases hchunked : head.chunked with
  | true =>
    rw [if_pos rfl, Machine.state_nil, h.more]
    rfl
  | false =>
    cases hlength : head.contentLength with
    | none => rfl
    | some n =>
      have := hremaining hchunked (by rw [hlength]; rfl)
      simp
      omega

theorem bodyLoop_framed (hsink : sink.Continues) (n : Nat) {s : BodyState} (piece : List UInt8)
    {c : Conn} (h : s.Ready head) (hn : c.stream.length < n) (hreads : c.Reads)
    : ∃ out, framed head s (piece ++ c.stream) = ((bodyLoop sink head s piece c).1, out) ∧
        (bodyLoop sink head s piece c).2.flatten = s.given.flatten ++ out := by
  induction n generalizing s piece c with
  | zero => omega
  | succ n ih =>
    have hsound := sound_bodyStep piece hsink h
    unfold bodyLoop
    split
    next result given hstep =>
      rw [hstep] at hsound
      exact hsound c.stream
    next s' hstep =>
      rw [hstep] at hsound
      obtain ⟨hready, hremaining, out, hgiven, hframed⟩ := hsound
      obtain ⟨piece', c', hread, hreads'⟩ := hreads.read httpsIoBytes
      split
      next failure herror =>
        rw [hread] at herror
        cases herror
      next c'' hclosed =>
        obtain ⟨_, _, hnil, _⟩ := Conn.read_ok hclosed
        have hall := hframed []
        rw [framed_nil hready hremaining] at hall
        rw [hnil rfl (by decide), hall]
        refine ⟨out, ?_, ?_⟩
        . rw [List.append_nil]
          split <;> rfl
        . rw [← hgiven]
          split <;> rfl
      next b rest c'' hmore =>
        rw [hread] at hmore
        simp only [Except.ok.injEq, Prod.mk.injEq] at hmore
        rw [hmore.1, hmore.2] at hread
        rw [hmore.2] at hreads'
        obtain ⟨hsplit, _⟩ := Conn.read_ok hread
        have hlength := congrArg List.length hsplit
        rw [List.length_append, List.length_cons] at hlength
        obtain ⟨out', hframed', hgiven'⟩ := ih (b :: rest) hready (by omega) hreads'
        refine ⟨out ++ out', ?_, ?_⟩
        . rw [hsplit, hframed, hframed']
        . rw [hgiven', hgiven, List.append_assoc]

end Body

section Request

variable {sink : HttpsSink} {host path accept : List UInt8} {nextSize : Nat} {head : OkHead}

/-- The variables of the body loop at its start. -/
def bodyStart (head : HttpHead) : BodyState where
  chunked := chunkedInit
  remaining := head.contentLength.getD 0
  given := []

theorem ready_bodyStart (head : HttpHead) : (bodyStart head).Ready head := by
  refine ⟨sound_init, rfl, ?_⟩
  intro hsized
  obtain ⟨n, hn⟩ := Option.isSome_iff_exists.mp hsized
  unfold bodyStart
  rw [hn]
  simp

/-- The head as the parser sees it. -/
def parsed (head : OkHead) (location : List UInt8) : HttpHead where
  status := 200
  contentLength := head.contentLength
  chunked := head.chunked
  location

/-- The server sends a head and something behind it, and no read or write fails. -/
structure Serves (c : Conn) (head : OkHead) (rest : List UInt8) : Prop where
  write : c.write = none
  reads : c.Reads
  stream : c.stream = head.encode ++ (blankLine ++ rest)

theorem request_head {c : Conn} {rest : List UInt8} (hserves : Serves c head rest)
    (htext : (requestText host path accept).length < httpsHeadMax)
    (hfits : head.encode.length + 4 ≤ httpsHeadMax - 1)
    : ∃ piece c', piece ++ c'.stream = rest ∧ c'.Reads ∧
        request c sink host path accept nextSize
          = match httpParseHead head.encode with
            | none => { result := .failed }
            | some head => respond sink host nextSize head piece c' := by
  obtain ⟨text, c', hhead, htotal, hlength, hreads'⟩ :=
    readHead_ok hfits (head.encode.length + 4) [] (Nat.sub_le _ _) hserves.reads hserves.stream
      (by simp)
  have hfound : text.take head.encode.length = head.encode := by
    have := congrArg (List.take head.encode.length) htotal
    rwa [List.take_append_of_le_length (by omega), List.take_left] at this
  have hblank : head.encode.length + blankLine.length ≤ text.length := hlength
  refine ⟨text.drop (head.encode.length + blankLine.length), c', ?_, hreads', ?_⟩
  . have := congrArg (List.drop (head.encode.length + blankLine.length)) htotal
    rw [List.drop_append_of_le_length hblank] at this
    rw [this, ← List.append_assoc]
    apply List.drop_left'
    exact List.length_append
  . unfold request
    rw [if_neg (by omega), hserves.write]
    simp only
    rw [hhead]
    dsimp only
    congr 1
    rw [hfound]

/-- What a request came to. -/
def Response.delivery (response : Response) : HttpsResult × List UInt8 :=
  (response.result, response.given.flatten)

theorem request_framed {c : Conn} {rest : List UInt8} (hsink : sink.Continues)
    (htext : (requestText host path accept).length < httpsHeadMax)
    (hsupported : ∀ field ∈ head.fields, field.Supported)
    (hfits : head.encode.length + 4 ≤ httpsHeadMax - 1) (hserves : Serves c head rest)
    : (request c sink host path accept nextSize).delivery
        = framed (parsed head []) (bodyStart (parsed head [])) rest := by
  obtain ⟨piece, c', hrest, hreads, hrequest⟩ := request_head hserves htext hfits
  obtain ⟨location, hparse⟩ := httpParseHead_encode hsupported
  obtain ⟨out, hframed, hgiven⟩ := bodyLoop_framed hsink (c'.stream.length + 1) piece
    (ready_bodyStart (parsed head location)) (Nat.lt_succ_self _) hreads
  rw [hrequest, hparse]
  unfold respond
  simp only
  rw [if_neg (by omega), if_neg (by simp), hsink.begin]
  simp only [Bool.false_eq_true, if_false]
  rw [hrest] at hframed
  have hany : framed (parsed head []) (bodyStart (parsed head [])) rest
      = framed (parsed head location) (bodyStart (parsed head location)) rest := rfl
  rw [hany, hframed]
  have hnothing : (bodyStart (parsed head location)).given.flatten = [] := rfl
  rw [hnothing, List.nil_append] at hgiven
  rw [← hgiven]
  rfl

/--
With a sink that continues, a request delivers the body that the head frames, whatever follows it,
fails where the connection closes within a framed body, and does not see how the reads split what the
server sends.
-/
theorem request_delivers (hsink : sink.Continues)
    (htext : (requestText host path accept).length < httpsHeadMax)
    (hsupported : ∀ field ∈ head.fields, field.Supported)
    (hfits : head.encode.length + 4 ≤ httpsHeadMax - 1)
    : (∀ c body extra, head.chunked = false → head.contentLength = some body.length →
        Serves c head (body ++ extra) →
        (request c sink host path accept nextSize).delivery = (.ok, body)) ∧
      (∀ c (body : ChunkedBody) extra, head.chunked = true →
        Serves c head (body.encode ++ extra) →
        (request c sink host path accept nextSize).delivery = (.ok, body.content)) ∧
      (∀ c body, head.chunked = false → head.contentLength = none → Serves c head body →
        (request c sink host path accept nextSize).delivery = (.ok, body)) ∧
      (∀ c n part, head.chunked = false → head.contentLength = some n → part.length < n →
        Serves c head part →
        (request c sink host path accept nextSize).result = .failed) ∧
      (∀ c (body : ChunkedBody) part missing, head.chunked = true →
        part ++ missing = body.encode → missing ≠ [] → Serves c head part →
        (request c sink host path accept nextSize).result = .failed) ∧
      (∀ c c' rest, Serves c head rest → Serves c' head rest →
        (request c sink host path accept nextSize).delivery
          = (request c' sink host path accept nextSize).delivery) := by
  have hframed {c : Conn} {rest : List UInt8} (hserves : Serves c head rest) :=
    @request_framed sink host path accept nextSize head c rest hsink htext hsupported hfits hserves
  refine ⟨?_, ?_, ?_, ?_, ?_, ?_⟩
  . intro c body extra hchunked hlength hserves
    rw [hframed hserves]
    unfold framed parsed bodyStart
    simp only [hchunked, hlength]
    simp
  . intro c body extra hchunked hserves
    have hrun := run_encode body
    have hdone := (halted (c := ⟨.done, 0, 0⟩) (.inl rfl)).run extra
    have hstart : (bodyStart (parsed head [])).chunked = chunkedInit := rfl
    rw [hframed hserves, framed_chunked hchunked, hstart, hrun.1, hrun.2, hdone.1, hdone.2]
    rw [List.append_nil]
    rfl
  . intro c body hchunked hlength hserves
    rw [hframed hserves]
    unfold framed parsed
    simp only [hchunked, hlength]
    rfl
  . intro c n part hchunked hlength hshort hserves
    have hdelivery := congrArg Prod.fst (hframed hserves)
    unfold framed parsed bodyStart at hdelivery
    simp only [hchunked, hlength] at hdelivery
    simp [Nat.not_le.mpr hshort] at hdelivery
    exact hdelivery
  . intro c body part missing hchunked hsplit hmissing hserves
    have hdelivery := congrArg Prod.fst (hframed hserves)
    have hmore := state_of_prefix body hsplit
    rw [if_neg hmissing] at hmore
    have hstart : (bodyStart (parsed head [])).chunked = chunkedInit := rfl
    have hparsed : (parsed head []).chunked = true := hchunked
    unfold framed at hdelivery
    rw [if_pos hparsed, hstart, hmore] at hdelivery
    exact hdelivery
  . intro c c' rest hserves hserves'
    rw [hframed hserves, hframed hserves']

end Request

theorem plain_of_isDigit {b : UInt8} (h : isDigit b = true) : Plain b ∧ isBlank b = false := by
  have hne : ∀ b', isDigit b' = false → b ≠ b' := by
    intro b' hb' heq
    rw [heq, hb'] at h
    cases h
  refine ⟨⟨hne 0 (by decide), hne cr (by decide), hne lf (by decide)⟩, ?_⟩
  unfold isBlank
  rw [beq_false_of_ne (hne 32 (by decide)), beq_false_of_ne (hne 9 (by decide))]
  rfl

/-- A head whose only field is a content length. -/
def lengthHead (value : List UInt8) (h : value.all isDigit = true) : OkHead where
  version := 49
  reason := ascii " OK"
  fields := [{
    name := ascii "Content-Length"
    value
    before := [32]
    after := []
    nameOk := List.all_iff_forall_prop.mp (by decide)
    valueOk := fun b hb => (plain_of_isDigit (List.all_eq_true.mp h b hb)).1
    first := fun b hb =>
      (plain_of_isDigit (List.all_eq_true.mp h b (List.mem_of_mem_head? hb))).2
    last := fun b hb =>
      (plain_of_isDigit (List.all_eq_true.mp h b (List.mem_of_getLast? hb))).2
    beforeOk := List.all_iff_forall_prop.mp (by decide)
    afterOk := List.all_iff_forall_prop.mp (by decide)
  }]
  versionOk := by decide
  reasonOk := List.all_iff_forall_prop.mp (by decide)

/-- A server that sends a head and a text, read at most four bytes at a time. -/
def slowConn (head : OkHead) (rest : List UInt8) : Conn where
  stream := head.encode ++ (blankLine ++ rest)
  write := none
  answers := fun _ => .ok 3

theorem serves_slowConn (head : OkHead) (rest : List UInt8)
    : Serves (slowConn head rest) head rest := by
  refine ⟨rfl, ?_, rfl⟩
  intro i
  exact ⟨3, rfl⟩

def openSink : HttpsSink where
  begin := fun _ => false
  data := fun _ _ => .continues

theorem request_delivers_hello
    : (request (slowConn (lengthHead [53] (by decide)) (ascii "hello" ++ ascii "rest")) openSink
        (ascii "host") (ascii "/") (ascii "*/*") 1168).delivery = (.ok, ascii "hello") := by
  have hsupported : ∀ field ∈ (lengthHead [53] (by decide)).fields, field.Supported := by
    intro field hfield
    rw [List.mem_singleton.mp hfield]
    refine ⟨fun _ => by decide, ?_, ?_⟩ <;> intro hnamed <;> revert hnamed <;> decide
  exact (request_delivers ⟨fun _ => rfl, fun _ _ => rfl⟩ (by decide) hsupported (by decide)).1
    _ (ascii "hello") (ascii "rest") (by decide) (by decide) (serves_slowConn _ _)

/-- A content length of ten digits is refused, whatever number it is. -/
theorem request_refuses_ten_digits
    : ¬∀ (head : OkHead) (c : Conn) (body extra : List UInt8),
        (∀ field ∈ head.fields, field.Named contentLengthName ∧ field.value.all isDigit = true) →
        head.encode.length + 4 ≤ httpsHeadMax - 1 → head.chunked = false →
        head.contentLength = some body.length → Serves c head (body ++ extra) →
        (request c openSink (ascii "host") (ascii "/") (ascii "*/*") 1168).delivery
          = (.ok, body) := by
  intro h
  have hserves := serves_slowConn (lengthHead (ascii "0000000005") (by decide))
    (ascii "hello" ++ [])
  have hdelivery := h _ _ (ascii "hello") [] (by
    intro field hfield
    rw [List.mem_singleton.mp hfield]
    decide) (by decide) (by decide) (by decide) hserves
  obtain ⟨piece, c', _, _, hrequest⟩ := @request_head openSink (ascii "host") (ascii "/")
    (ascii "*/*") 1168 _ _ _ hserves (by decide) (by decide)
  have hparse : httpParseHead (lengthHead (ascii "0000000005") (by decide)).encode = none := by
    decide
  rw [hrequest, hparse] at hdelivery
  cases congrArg Prod.fst hdelivery

end ZZTop
