import ZZ9000.ZZRun.AppFiles

/-!
This module shows what a reply to a read or write request of an app says: which bytes are in the
data area, which bytes were written, and where the file is.
-/

namespace ZZRun

open Concurrency Streams

namespace OpenFile

variable (file : OpenFile)

theorem length_next (n : Nat)
    : (file.next n).length = min n (file.bytes.length - file.position) := by
  unfold next
  simp

theorem length_next_of_le {n : Nat} (h : file.position + n ≤ file.bytes.length)
    : (file.next n).length = n := by
  rw [length_next]
  omega

theorem position_advance {n : Nat} (h : file.position + n ≤ file.bytes.length)
    : (file.advance n).position = file.position + n :=
  Nat.min_eq_left h

theorem advance_zero : file.advance 0 = file := by
  have := file.inRange
  unfold advance
  congr
  omega

theorem advance_advance (n k : Nat) : (file.advance n).advance k = file.advance (n + k) := by
  unfold advance
  congr 1
  dsimp only
  omega

theorem advance_next (n : Nat) : file.advance (file.next n).length = file.advance n := by
  have := file.inRange
  unfold advance
  rw [length_next]
  congr 1
  omega

theorem next_length_next (n : Nat) : file.next (file.next n).length = file.next n := by
  unfold next
  rw [List.length_take, List.length_drop]
  rw [List.take_eq_take_iff, List.length_drop]
  omega

theorem next_append {n : Nat} (h : file.position + n ≤ file.bytes.length) (k : Nat)
    : file.next n ++ (file.advance n).next k = file.next (n + k) := by
  unfold next
  rw [file.position_advance h]
  rw [List.take_add, List.drop_drop]
  rfl

theorem position_add_le_of_next (n : Nat)
    : file.position + (file.next n).length ≤ file.bytes.length := by
  have := file.inRange
  rw [length_next]
  omega

theorem atEnd_advance_iff (n : Nat)
    : (file.advance n).atEnd = true ↔ file.bytes.length ≤ file.position + n := by
  unfold atEnd advance
  rw [beq_iff_eq]
  dsimp only
  omega

/-- `Read` only returns less than it is asked for at the end of the file. -/
theorem atEnd_of_next_lt {n : Nat} (h : (file.next n).length < n)
    : (file.advance (file.next n).length).atEnd = true := by
  rw [atEnd_advance_iff]
  rw [length_next] at h ⊢
  omega

theorem write_nil : file.write [] = file := by
  unfold write
  congr 1
  rw [List.append_nil, List.length_nil, Nat.add_zero]
  apply List.take_append_drop

/-- Two writes are one. -/
theorem write_write (data data' : List UInt8)
    : (file.write data).write data' = file.write (data ++ data') := by
  have hrange := file.inRange
  have hhead : (file.bytes.take file.position ++ data).length = file.position + data.length := by
    rw [List.length_append, List.length_take]
    omega
  unfold write
  congr 1
  . dsimp only
    rw [List.take_append_of_le_length (Nat.le_of_eq hhead.symm)]
    rw [List.take_of_length_le (Nat.le_of_eq hhead)]
    rw [List.drop_append, hhead]
    rw [List.drop_eq_nil_of_le (by omega)]
    rw [Nat.add_sub_cancel_left, List.drop_drop]
    rw [List.length_append]
    simp only [List.nil_append, List.append_assoc, Nat.add_assoc]
  . rw [List.length_append]
    dsimp only
    omega

end OpenFile

section Triples

open Coroutine

variable {abi : FileAbi}

/-- No loop over chunks goes on forever. -/
abbrev fileContract (abi : FileAbi) : Contract (FileWorld abi) FileMark Empty :=
  .solo (fun _ _ => True) (fun _ _ => False)

/-- The others do not break it. -/
def FileStable (I : FileWorld abi → Prop) : Prop :=
  ∀ w superseded, I w → I (w.happen superseded)

/-- What is published is as `K` says. -/
def Replied (K : FileReply → FileWorld abi → Prop) (w : FileWorld abi) : Prop :=
  ∀ reply, w.reply = some reply → K reply w

variable {I : FileWorld abi → Prop}

theorem triple_fileAccess (hI : FileStable I)
    : Triple (fileContract abi) I (fileAccess abi) (fun _ => I) := by
  unfold fileAccess
  apply triple_bind (triple_answer (fun w _ hw => hw))
  intro a
  apply triple_bind (triple_modify_solo (fun w hw => hI w a.superseded hw))
  intro _
  exact triple_pure (fun w hw => hw)

theorem triple_fileRequestIsCurrent (hI : FileStable I)
    : Triple (fileContract abi) I (fileRequestIsCurrent abi)
        (fun b w => I w ∧ b = w.current) := by
  unfold fileRequestIsCurrent
  apply triple_bind (triple_fileAccess hI)
  intro _
  apply triple_bind (J := fun w' w => I w ∧ w' = w) (triple_read (fun w hw => ⟨hw, rfl⟩))
  intro w'
  apply triple_pure
  intro w hw
  rw [hw.2]
  exact ⟨hw.1, rfl⟩

theorem triple_fileReply (hI : FileStable I) (hnone : ∀ w, I w → w.reply = none)
    {K : FileReply → FileWorld abi → Prop} {req : FileRequest} {err : Int} {outN : Nat}
    (hK : ∀ w, I w → w.current = true →
      K (req.reply err outN) { w with reply := some (req.reply err outN) })
    : Triple (fileContract abi) I (fileReply abi req err outN) (fun _ => Replied K) := by
  unfold fileReply
  apply triple_bind (triple_fileRequestIsCurrent hI)
  intro current
  apply triple_ite
  . intro hcurrent
    apply triple_modify_solo
    rintro w ⟨hw, heq⟩ reply hreply
    rw [hcurrent] at heq
    rw [← Option.some.inj hreply]
    exact hK w hw heq.symm
  . intro _
    apply triple_pure
    rintro w ⟨hw, _⟩ reply hreply
    rw [hnone w hw] at hreply
    contradiction

/-- A request that is not current any more gets no reply. -/
theorem triple_giveUp (hnone : ∀ w, I w → w.reply = none) {K : FileReply → FileWorld abi → Prop}
    : Triple (fileContract abi) I (pure () : FileService abi Unit) (fun _ => Replied K) := by
  apply triple_pure
  intro w hw reply hreply
  rw [hnone w hw] at hreply
  contradiction

end Triples

section Read

open Coroutine

variable {abi : FileAbi} {w₀ : FileWorld abi} {index : Fin abi.fdCount} {file : OpenFile}

/--
The file has been read up to `taken`, and what is up to `done` is in the data area. The latter is
so as long as the request is current.
-/
structure Reading (w₀ : FileWorld abi) (index : Fin abi.fdCount) (file : OpenFile)
    (taken done : Nat) (cut : Bool) (w : FileWorld abi) : Prop where
  reply : w.reply = none
  cut : w.cut = cut
  files : w.files = Function.update w₀.files index (some (file.advance taken))
  data : w.current = true → w.data = store w₀.data 0 (file.next done)

theorem Reading.at_index {taken done : Nat} {cut : Bool} {w : FileWorld abi}
    (h : Reading w₀ index file taken done cut w)
    : w.files index = some (file.advance taken) := by
  rw [h.files, Function.update_self]

theorem stable_reading (taken done : Nat) (cut : Bool)
    : FileStable (Reading w₀ index file taken done cut) := by
  intro w superseded h
  cases superseded with
  | none => exact h
  | some data => exact ⟨h.reply, h.cut, h.files, nofun⟩

theorem triple_fileCopyDataIfCurrent {done : Nat} {data : List UInt8}
    (hrange : file.position + done ≤ file.bytes.length)
    (hdata : (file.advance done).next data.length = data)
    : Triple (fileContract abi) (Reading w₀ index file (done + data.length) done false)
        (fileCopyDataIfCurrent abi done data)
        (fun copied w => w.reply = none
          ∧ (copied = true →
            Reading w₀ index file (done + data.length) (done + data.length) false w)) := by
  unfold fileCopyDataIfCurrent
  apply triple_bind (triple_fileRequestIsCurrent (stable_reading _ _ _))
  intro current
  apply triple_ite
  . intro hcurrent
    apply triple_bind (J := fun _ =>
      Reading w₀ index file (done + data.length) (done + data.length) false)
    . apply triple_modify_solo
      rintro w ⟨h, heq⟩
      rw [hcurrent] at heq
      refine ⟨h.reply, h.cut, h.files, fun _ => ?_⟩
      dsimp only
      rw [h.data heq.symm]
      rw [← file.next_append hrange, hdata, store_append]
      rw [file.length_next_of_le hrange, Nat.zero_add]
    . intro _
      exact triple_pure (fun w h => ⟨h.reply, fun _ => h⟩)
  . intro _
    exact triple_pure (fun w h => ⟨h.1.reply, nofun⟩)

theorem Reading.cutShort {done : Nat} {w : FileWorld abi}
    (h : Reading w₀ index file done done false w)
    : Reading w₀ index file done done (!(file.advance done).atEnd) (w.cutShort index) := by
  unfold FileWorld.cutShort
  rw [h.at_index]
  exact ⟨h.reply, rfl, h.files, h.data⟩

theorem triple_ctrlCSet {done : Nat}
    : Triple (fileContract abi) (Reading w₀ index file done done false) (ctrlCSet abi index)
        (fun ctrlC => Reading w₀ index file done done
          (ctrlC && !(file.advance done).atEnd)) := by
  unfold ctrlCSet
  apply triple_bind (triple_fileAccess (stable_reading _ _ _))
  intro a
  apply triple_ite
  . intro _
    apply triple_bind (triple_modify_solo (fun w h => h.cutShort))
    intro _
    exact triple_pure (fun w h => h)
  . intro _
    exact triple_pure (fun w h => h)

theorem zzFromIo_eq_zzOk_iff (ioErr : IoErr) : zzFromIo ioErr = zzOk ↔ ioErr = .none := by
  cases ioErr <;> decide

/-- What `serve_read` has after a `Read`. -/
def ReadResult (w₀ : FileWorld abi) (index : Fin abi.fdCount) (file : OpenFile) (done n : Nat)
    (result : Except Int (List UInt8)) (w : FileWorld abi) : Prop :=
  match result with
  | .error err =>
    Reading w₀ index file done done (decide (err = zzOk) && !(file.advance done).atEnd) w
  | .ok data =>
    data = (file.advance done).next n ∧ Reading w₀ index file (done + data.length) done false w

theorem triple_fileRead {done n : Nat}
    : Triple (fileContract abi) (Reading w₀ index file done done false) (fileRead abi index n)
        (ReadResult w₀ index file done n) := by
  unfold fileRead
  apply triple_bind (triple_fileAccess (stable_reading _ _ _))
  intro a
  apply triple_bind (J := fun w' w => Reading w₀ index file done done false w ∧ w' = w)
    (triple_read (fun w h => ⟨h, rfl⟩))
  intro w'
  apply triple_of_fact (p := w'.files index = some (file.advance done))
  . rintro w ⟨h, rfl⟩
    exact h.at_index
  intro hfile
  rw [hfile]
  apply triple_ite
  . intro _
    apply triple_bind (triple_modify_solo (J := Reading w₀ index file done done
      (decide (zzFromIo a.ioErr = zzOk) && !(file.advance done).atEnd)) ?_)
    . intro _
      exact triple_pure (fun w h => h)
    . rintro w ⟨h, _⟩
      split
      next heq =>
        rw [decide_eq_true ((zzFromIo_eq_zzOk_iff _).mpr heq), Bool.true_and]
        exact h.cutShort
      next hne =>
        rw [decide_eq_false (fun heq => hne ((zzFromIo_eq_zzOk_iff _).mp heq)), Bool.false_and]
        exact h
  . intro _
    apply triple_bind (triple_modify_solo (J := fun w => ReadResult w₀ index file done n
      (.ok ((file.advance done).next n)) w) ?_)
    . intro _
      exact triple_pure (fun w h => h)
    . rintro w ⟨h, _⟩
      refine ⟨rfl, h.reply, h.cut, ?_, h.data⟩
      dsimp only
      rw [h.files, Function.update_idem]
      rw [OpenFile.advance_advance]
      rw [← file.advance_advance done ((file.advance done).next n).length]
      rw [OpenFile.advance_next, OpenFile.advance_advance]

/-- A reply with less than was asked for means the end of the file. -/
def ShortMeansEnd (req : FileRequest) (file : OpenFile) (reply : FileReply) : Prop :=
  reply.err = zzOk → reply.outN < req.length → (file.advance reply.outN).atEnd = true

/-- The bytes of the reply are the next ones of the file, which is behind them now. -/
structure ReadExact (w₀ : FileWorld abi) (index : Fin abi.fdCount) (file : OpenFile)
    (req : FileRequest) (reply : FileReply) (w : FileWorld abi) : Prop where
  count : reply.outN ≤ req.length
  range : file.position + reply.outN ≤ file.bytes.length
  data : load w.data 0 reply.outN = file.next reply.outN
  beyond : ∀ i, reply.outN ≤ i → w.data i = w₀.data i
  files : w.files = Function.update w₀.files index (some (file.advance reply.outN))

def ReadReplied (w₀ : FileWorld abi) (index : Fin abi.fdCount) (file : OpenFile)
    (req : FileRequest) (reply : FileReply) (w : FileWorld abi) : Prop :=
  ReadExact w₀ index file req reply w ∧ (ShortMeansEnd req file reply ↔ w.cut = false)

theorem triple_readReply {req : FileRequest} {done : Nat} {err : Int} {cut : Bool}
    (hcount : done ≤ req.length) (hrange : file.position + done ≤ file.bytes.length)
    (hcut : (err = zzOk → done < req.length → (file.advance done).atEnd = true) ↔ cut = false)
    : Triple (fileContract abi) (Reading w₀ index file done done cut) (fileReply abi req err done)
        (fun _ => Replied (ReadReplied w₀ index file req)) := by
  apply triple_fileReply (stable_reading _ _ _) (fun w h => h.reply)
  intro w h hcurrent
  have hlength := file.length_next_of_le hrange
  refine ⟨⟨hcount, hrange, ?_, ?_, h.files⟩, ?_⟩
  . dsimp only [FileRequest.reply]
    have hload := @load_store _ w₀.data 0 (file.next done)
    rw [hlength] at hload
    rw [h.data hcurrent]
    exact hload
  . intro i hi
    dsimp only [FileRequest.reply] at hi ⊢
    rw [h.data hcurrent]
    apply store_of_ge
    omega
  . rw [h.cut]
    exact hcut

theorem chunk_bounds {left : Nat} (hleft : left ≠ 0)
    : 0 < (if left > zzrunReadChunk then zzrunReadChunk else left)
      ∧ (if left > zzrunReadChunk then zzrunReadChunk else left) ≤ left
      ∧ ((if left > zzrunReadChunk then zzrunReadChunk else left) = left
        ∨ (if left > zzrunReadChunk then zzrunReadChunk else left) = zzrunReadChunk) := by
  have hchunk : 0 < zzrunReadChunk := by
    decide
  split
  . exact ⟨hchunk, by omega, .inr rfl⟩
  . exact ⟨by omega, le_rfl, .inl rfl⟩

/-- A whole chunk takes one pass. -/
theorem passes_after {left passes n : Nat} (hleft : left ≠ 0)
    (hpasses : left + zzrunReadChunk ≤ (passes + 1) * zzrunReadChunk)
    (hn : n = if left > zzrunReadChunk then zzrunReadChunk else left)
    : left - n + zzrunReadChunk ≤ passes * zzrunReadChunk := by
  rw [Nat.succ_mul] at hpasses
  split at hn
  . omega
  . have hpos : 0 < passes := by
      apply Nat.pos_of_ne_zero
      intro hzero
      rw [hzero, Nat.zero_mul] at hpasses
      omega
    have := Nat.le_mul_of_pos_left zzrunReadChunk hpos
    omega

/-- By induction on the passes. All that are left but one take a whole chunk. -/
theorem triple_readChunks {req : FileRequest} {passes left done : Nat}
    (hlength : done + left = req.length) (hrange : file.position + done ≤ file.bytes.length)
    (hpasses : left + zzrunReadChunk ≤ passes * zzrunReadChunk)
    : Triple (fileContract abi) (Reading w₀ index file done done false)
        (readChunks abi req index passes left done)
        (fun _ => Replied (ReadReplied w₀ index file req)) := by
  induction passes generalizing left done with
  | zero =>
    unfold zzrunReadChunk at hpasses
    omega
  | succ passes ih =>
    unfold readChunks
    apply triple_ite
    . intro hleft
      exact triple_readReply (by omega) hrange ⟨fun _ => rfl, fun _ _ hlt => absurd hlt (by omega)⟩
    intro hleft
    apply triple_bind (triple_fileRequestIsCurrent (stable_reading _ _ _))
    intro current
    apply triple_ite
    . intro _
      apply triple_bind (triple_of_pre (fun w h => h.1) triple_ctrlCSet)
      intro ctrlC
      apply triple_ite
      . intro hctrlC
        rw [hctrlC, Bool.true_and]
        apply triple_readReply (by omega) hrange
        rw [Bool.not_eq_false']
        exact ⟨fun h => h rfl (by omega), fun h _ _ => h⟩
      intro hctrlC
      rw [Bool.eq_false_iff.mpr hctrlC, Bool.false_and]
      apply triple_bind triple_fileRead
      intro result
      cases result with
      | error err =>
        apply triple_readReply (by omega) hrange
        rw [Bool.and_eq_false_iff, Bool.not_eq_false', decide_eq_false_iff_not]
        have hlt : done < req.length := by
          omega
        constructor
        . intro h
          by_cases herr : err = zzOk
          . exact .inr (h herr hlt)
          . exact .inl herr
        . rintro (herr | hend) heq _
          . exact absurd heq herr
          . exact hend
      | ok data =>
        apply triple_of_fact (fun w h => h.1)
        intro hdata
        apply triple_of_pre (fun w h => h.2)
        have hchunk := chunk_bounds hleft
        have hcount : data.length ≤ if left > zzrunReadChunk then zzrunReadChunk else left := by
          rw [hdata, OpenFile.length_next]
          exact Nat.min_le_left _ _
        have hshort (hlt : data.length < if left > zzrunReadChunk then zzrunReadChunk else left)
            : (file.advance (done + data.length)).atEnd = true := by
          rw [hdata] at hlt ⊢
          rw [← OpenFile.advance_advance]
          exact OpenFile.atEnd_of_next_lt _ hlt
        have hrange' : file.position + (done + data.length) ≤ file.bytes.length := by
          have h := (file.advance done).position_add_le_of_next
            (if left > zzrunReadChunk then zzrunReadChunk else left)
          rw [← hdata, file.position_advance hrange] at h
          exact Nat.add_assoc _ _ _ ▸ h
        apply triple_ite
        . intro hzero
          rw [hzero] at hshort ⊢
          exact triple_readReply (by omega) hrange ⟨fun _ => rfl, fun _ _ _ => hshort (by omega)⟩
        intro hpos
        have hnext : (file.advance done).next data.length = data := by
          rw [hdata]
          apply OpenFile.next_length_next
        apply triple_bind (triple_fileCopyDataIfCurrent hrange hnext)
        intro copied
        apply triple_ite
        . intro hcopied
          apply triple_of_pre (fun w h => h.2 hcopied)
          apply triple_ite
          . intro hlt
            exact triple_readReply (by omega) hrange' ⟨fun _ => rfl, fun _ _ _ => hshort hlt⟩
          . intro hfull
            have hwhole : data.length = if left > zzrunReadChunk then zzrunReadChunk else left := by
              omega
            apply ih (by omega) hrange'
            exact passes_after hleft hpasses hwhole
        . intro _
          exact triple_giveUp (fun w h => h.1)
    . intro _
      exact triple_giveUp (fun w h => h.1.reply)

end Read

section Write

open Coroutine

variable {abi : FileAbi} {w₀ : FileWorld abi} {index : Fin abi.fdCount} {file : OpenFile}

/-- The first `done` staged bytes have been written, as long as the request is current. -/
structure Writing (w₀ : FileWorld abi) (index : Fin abi.fdCount) (file : OpenFile) (done : Nat)
    (w : FileWorld abi) : Prop where
  reply : w.reply = none
  data : w.current = true → w.data = w₀.data
  files : w.current = true →
    w.files = Function.update w₀.files index (some (file.write (load w₀.data 0 done)))

theorem stable_writing (done : Nat) : FileStable (Writing w₀ index file done) := by
  intro w superseded h
  cases superseded with
  | none => exact h
  | some data => exact ⟨h.reply, nofun, nofun⟩

/-- What is in `file_io_buffer` is what was staged. -/
def Buffered (w₀ : FileWorld abi) (index : Fin abi.fdCount) (file : OpenFile) (done n : Nat)
    (data : List UInt8) (w : FileWorld abi) : Prop :=
  Writing w₀ index file done w ∧ data.length = n ∧
    (w.current = true → data = load w₀.data done n)

theorem triple_fileStaged {done n : Nat}
    : Triple (fileContract abi) (Writing w₀ index file done) (fileStaged abi done n)
        (Buffered w₀ index file done n) := by
  unfold fileStaged
  apply triple_bind (triple_fileAccess (stable_writing done))
  intro _
  apply triple_bind (J := fun w' w => Writing w₀ index file done w ∧ w' = w)
    (triple_read (fun w h => ⟨h, rfl⟩))
  intro w'
  apply triple_pure
  rintro w ⟨h, rfl⟩
  refine ⟨h, length_load _, ?_⟩
  intro hcurrent
  rw [h.data hcurrent]

/-- What `serve_write` has after a `Write`. -/
def WriteResult (w₀ : FileWorld abi) (index : Fin abi.fdCount) (file : OpenFile) (done n : Nat)
    (result : Except Int Nat) (w : FileWorld abi) : Prop :=
  match result with
  | .error _ => Writing w₀ index file done w
  | .ok k => k ≤ n ∧ Writing w₀ index file (done + k) w

theorem triple_fileWrite {done n : Nat} {data : List UInt8}
    : Triple (fileContract abi) (Buffered w₀ index file done n data) (fileWrite abi index data)
        (WriteResult w₀ index file done n) := by
  have hstable : FileStable (Buffered w₀ index file done n data) := by
    intro w superseded h
    cases superseded with
    | none => exact h
    | some data => exact ⟨stable_writing done w (some data) h.1, h.2.1, nofun⟩
  unfold fileWrite
  apply triple_bind (triple_fileAccess hstable)
  intro a
  apply triple_bind (J := fun w' w => Buffered w₀ index file done n data w ∧ w' = w)
    (triple_read (fun w h => ⟨h, rfl⟩))
  intro w'
  split
  next =>
    apply triple_pure
    exact fun w h => h.1.1
  next file' hfile =>
    apply triple_ite
    . intro _
      apply triple_pure
      exact fun w h => h.1.1
    . intro _
      apply triple_bind (triple_modify_solo (J := fun w => WriteResult w₀ index file done n
        (.ok (data.take a.count).length) w) ?_)
      . intro _
        exact triple_pure (fun w h => h)
      . rintro w ⟨⟨h, hlength, hdata⟩, rfl⟩
        refine ⟨?_, h.reply, h.data, ?_⟩
        . rw [List.length_take, hlength]
          exact Nat.min_le_right _ _
        . intro hcurrent
          dsimp only at hcurrent ⊢
          have hfiles := h.files hcurrent
          rw [hfiles, Function.update_self] at hfile
          rw [hfiles, Function.update_idem]
          rw [← Option.some.inj hfile, OpenFile.write_write]
          rw [hdata hcurrent, take_load, length_load]
          rw [load_add, Nat.zero_add]

/-- The bytes that the reply counts are those that were written. -/
structure WriteExact (w₀ : FileWorld abi) (index : Fin abi.fdCount) (file : OpenFile)
    (req : FileRequest) (reply : FileReply) (w : FileWorld abi) : Prop where
  count : reply.outN ≤ req.length
  data : w.data = w₀.data
  files : w.files
    = Function.update w₀.files index (some (file.write (load w₀.data 0 reply.outN)))

theorem triple_writeReply {req : FileRequest} {done : Nat} (err : Int)
    (hcount : done ≤ req.length)
    : Triple (fileContract abi) (Writing w₀ index file done) (fileReply abi req err done)
        (fun _ => Replied (WriteExact w₀ index file req)) := by
  apply triple_fileReply (stable_writing done) (fun w h => h.reply)
  intro w h hcurrent
  exact ⟨hcount, h.data hcurrent, h.files hcurrent⟩

theorem triple_writeChunks {req : FileRequest} {passes left done : Nat}
    (hlength : done + left = req.length)
    (hpasses : left + zzrunReadChunk ≤ passes * zzrunReadChunk)
    : Triple (fileContract abi) (Writing w₀ index file done)
        (writeChunks abi req index passes left done)
        (fun _ => Replied (WriteExact w₀ index file req)) := by
  induction passes generalizing left done with
  | zero =>
    unfold zzrunReadChunk at hpasses
    omega
  | succ passes ih =>
    unfold writeChunks
    apply triple_ite
    . intro hleft
      exact triple_writeReply zzOk (by omega)
    intro hleft
    have hchunk := chunk_bounds hleft
    have hcurrent (done : Nat)
        : Triple (fileContract abi) (Writing w₀ index file done) (fileRequestIsCurrent abi)
          (fun b w => Writing w₀ index file done w ∧ b = w.current) :=
      triple_fileRequestIsCurrent (stable_writing done)
    apply triple_bind (hcurrent done)
    intro current
    apply triple_ite
    . intro _
      apply triple_bind (triple_of_pre (fun w h => h.1) (hcurrent done))
      intro current
      apply triple_ite
      . intro _
        apply triple_bind (triple_of_pre (fun w h => h.1) triple_fileStaged)
        intro data
        apply triple_bind triple_fileWrite
        intro result
        cases result with
        | error err => exact triple_writeReply err (by omega)
        | ok n =>
          apply triple_of_fact (fun w h => h.1)
          intro hn
          apply triple_of_pre (fun w h => h.2)
          apply triple_ite
          . intro hzero
            rw [hzero]
            exact triple_writeReply zzEnospc (by omega)
          intro hpos
          apply triple_bind (hcurrent (done + n))
          intro current
          apply triple_ite
          . intro _
            apply triple_of_pre (fun w h => h.1)
            apply triple_ite
            . intro _
              exact triple_writeReply zzOk (by omega)
            . intro hfull
              have hwhole : n = if left > zzrunReadChunk then zzrunReadChunk else left := by
                omega
              exact ih (by omega) (passes_after hleft hpasses hwhole)
          . intro _
            exact triple_giveUp (fun w h => h.1.reply)
      . intro _
        exact triple_giveUp (fun w h => h.1.reply)
    . intro _
      exact triple_giveUp (fun w h => h.1.reply)

end Write

section Requests

open Coroutine

variable {abi : FileAbi}

/-- The request names no open file, or more bytes than the data area has. -/
structure Refused (w₀ : FileWorld abi) (reply : FileReply) (w : FileWorld abi) : Prop where
  err : reply.err ≠ zzOk
  count : reply.outN = 0
  data : w.data = w₀.data
  files : w.files = w₀.files
  cut : w.cut = w₀.cut

/-- A request for an open file is served as `K` says. -/
def AsServed (w₀ : FileWorld abi) (req : FileRequest)
    (K : Fin abi.fdCount → OpenFile → FileReply → FileWorld abi → Prop) (reply : FileReply)
    (w : FileWorld abi) : Prop :=
  match slotIndex abi req.fd with
  | none => Refused w₀ reply w
  | some index =>
    match w₀.files index with
    | none => Refused w₀ reply w
    | some file =>
      if req.length > abi.dataBytes then Refused w₀ reply w else K index file reply w

/-- Whether a request is refused does not depend on what it is promised. -/
theorem asServed_cases (w₀ : FileWorld abi) (req : FileRequest) (reply : FileReply)
    (w : FileWorld abi)
    : (∀ K, AsServed w₀ req K reply w ↔ Refused w₀ reply w)
      ∨ ∃ index file, ∀ K, AsServed w₀ req K reply w ↔ K index file reply w := by
  unfold AsServed
  cases slotIndex abi req.fd with
  | none => exact .inl (fun _ => Iff.rfl)
  | some index =>
    dsimp only
    cases w₀.files index with
    | none => exact .inl (fun _ => Iff.rfl)
    | some file =>
      by_cases hlength : req.length > abi.dataBytes
      . left
        intro K
        dsimp only
        rw [if_pos hlength]
      . right
        refine ⟨index, file, ?_⟩
        intro K
        dsimp only
        rw [if_neg hlength]

theorem AsServed.mono {w₀ w : FileWorld abi} {req : FileRequest} {reply : FileReply}
    {K L : Fin abi.fdCount → OpenFile → FileReply → FileWorld abi → Prop}
    (h : AsServed w₀ req K reply w) (hKL : ∀ index file, K index file reply w → L index file reply w)
    : AsServed w₀ req L reply w := by
  cases asServed_cases w₀ req reply w with
  | inl hrefused =>
    rw [hrefused] at h ⊢
    exact h
  | inr hserved =>
    obtain ⟨index, file, hserved⟩ := hserved
    rw [hserved] at h ⊢
    exact hKL index file h

/-- Nothing has happened to the request yet. -/
structure Pending (w₀ w : FileWorld abi) : Prop where
  reply : w.reply = none
  cut : w.cut = w₀.cut
  files : w.files = w₀.files
  data : w.current = true → w.data = w₀.data

theorem stable_pending (w₀ : FileWorld abi) : FileStable (Pending w₀) := by
  intro w superseded h
  cases superseded with
  | none => exact h
  | some data => exact ⟨h.reply, h.cut, h.files, nofun⟩

theorem triple_refuse {w₀ : FileWorld abi} {req : FileRequest} {err : Int}
    {K : FileReply → FileWorld abi → Prop} (herr : err ≠ zzOk)
    (hK : ∀ reply w, Refused w₀ reply w → K reply w)
    : Triple (fileContract abi) (Pending w₀) (fileReply abi req err 0) (fun _ => Replied K) := by
  apply triple_fileReply (stable_pending w₀) (fun w h => h.reply)
  intro w h hcurrent
  exact hK _ _ ⟨herr, rfl, h.data hcurrent, h.files, h.cut⟩

theorem triple_serveFile {w₀ : FileWorld abi} {req : FileRequest}
    {K : Fin abi.fdCount → OpenFile → FileReply → FileWorld abi → Prop}
    {serve : Fin abi.fdCount → FileService abi Unit}
    (hserve : ∀ index file, w₀.files index = some file →
      Triple (fileContract abi) (Pending w₀) (serve index) (fun _ => Replied (K index file)))
    : Triple (fileContract abi) (Pending w₀) (serveFile abi req serve)
        (fun _ => Replied (AsServed w₀ req K)) := by
  unfold serveFile AsServed
  cases slotIndex abi req.fd with
  | none => exact triple_refuse (by decide) (fun _ _ h => h)
  | some index =>
    apply triple_bind (J := fun w' w => Pending w₀ w ∧ w' = w) (triple_read (fun w h => ⟨h, rfl⟩))
    intro w'
    apply triple_of_fact (p := w'.files = w₀.files)
    . rintro w ⟨h, rfl⟩
      exact h.files
    intro hfiles
    rw [hfiles]
    apply triple_of_pre (fun w h => h.1)
    dsimp only
    cases hfile : w₀.files index with
    | none => exact triple_refuse (by decide) (fun _ _ h => h)
    | some file =>
      dsimp only
      by_cases hlength : req.length > abi.dataBytes
      . simp only [Option.isNone_some, Bool.false_eq_true, if_false, if_pos hlength]
        exact triple_refuse (by decide) (fun _ _ h => h)
      . simp only [Option.isNone_some, Bool.false_eq_true, if_false, if_neg hlength]
        exact hserve index file hfile

theorem filePasses_le (length : Nat)
    : length + zzrunReadChunk ≤ filePasses length * zzrunReadChunk := by
  unfold filePasses zzrunReadChunk
  omega

theorem triple_serveRead {w₀ : FileWorld abi} (hcut : w₀.cut = false) (req : FileRequest)
    : Triple (fileContract abi) (Pending w₀) (serveRead abi req)
        (fun _ => Replied (AsServed w₀ req (fun index file => ReadReplied w₀ index file req))) := by
  apply triple_serveFile
  intro index file hfile
  have hrange : file.position + 0 ≤ file.bytes.length := file.inRange
  apply triple_of_pre ?_ (triple_readChunks (Nat.zero_add _) hrange (filePasses_le _))
  intro w h
  refine ⟨h.reply, h.cut.trans hcut, ?_, ?_⟩
  . rw [h.files, file.advance_zero, ← hfile, Function.update_eq_self]
  . intro hcurrent
    rw [h.data hcurrent]
    rfl

theorem triple_serveWrite (w₀ : FileWorld abi) (req : FileRequest)
    : Triple (fileContract abi) (Pending w₀) (serveWrite abi req)
        (fun _ => Replied (AsServed w₀ req (fun index file => WriteExact w₀ index file req))) := by
  apply triple_serveFile
  intro index file hfile
  apply triple_of_pre ?_ (triple_writeChunks (Nat.zero_add _) (filePasses_le _))
  intro w h
  refine ⟨h.reply, h.data, ?_⟩
  intro _
  have hnone : load w₀.data 0 0 = [] := rfl
  rw [h.files, hnone, file.write_nil, ← hfile, Function.update_eq_self]

/-- What a read request is promised. -/
def ReadPromise (w₀ : FileWorld abi) (index : Fin abi.fdCount) (file : OpenFile)
    (req : FileRequest) (reply : FileReply) (w : FileWorld abi) : Prop :=
  ReadExact w₀ index file req reply w ∧ ShortMeansEnd req file reply

theorem readPromise_iff {w₀ w : FileWorld abi} {req : FileRequest} {reply : FileReply}
    (hcut : w₀.cut = false)
    (h : AsServed w₀ req (fun index file => ReadReplied w₀ index file req) reply w)
    : AsServed w₀ req (fun index file => ReadPromise w₀ index file req) reply w
        ↔ w.cut = false := by
  cases asServed_cases w₀ req reply w with
  | inl hrefused =>
    rw [hrefused] at h ⊢
    exact ⟨fun _ => h.cut.trans hcut, fun _ => h⟩
  | inr hserved =>
    obtain ⟨index, file, hserved⟩ := hserved
    rw [hserved] at h ⊢
    exact ⟨fun hpromise => h.2.mp hpromise.2, fun hcut => ⟨h.1, h.2.mpr hcut⟩⟩

/-- The loops end, and a request that gets a reply is served as it is promised. -/
theorem appFiles_exact {w₀ : FileWorld abi} (hreply : w₀.reply = none) (hcut : w₀.cut = false)
    (req : FileRequest) (answers : List FileAnswer) {marks : Trace (FileWorld abi) FileMark}
    {w : FileWorld abi} {stop : Stop (FileWorld abi) FileMark Empty FileAnswer Unit}
    : ((serveRead abi req).exec w₀ answers = some (marks, w, stop) →
        marks = [] ∧ ∀ reply, w.reply = some reply →
          AsServed w₀ req (fun index file => ReadExact w₀ index file req) reply w
            ∧ (AsServed w₀ req (fun index file => ReadPromise w₀ index file req) reply w
              ↔ w.cut = false))
      ∧ ((serveWrite abi req).exec w₀ answers = some (marks, w, stop) →
        marks = [] ∧ ∀ reply, w.reply = some reply →
          AsServed w₀ req (fun index file => WriteExact w₀ index file req) reply w) := by
  have hpending : Pending w₀ w₀ := ⟨hreply, rfl, rfl, fun _ => rfl⟩
  constructor
  . intro hexec
    have h := exec_of_triple (triple_serveRead hcut req) hpending hexec (fun _ _ => trivial)
    obtain ⟨a, -, hreplied⟩ := h.2
    refine ⟨List.eq_nil_iff_forall_not_mem.mpr h.1, ?_⟩
    intro reply heq
    have hserved := hreplied reply heq
    exact ⟨hserved.mono (fun _ _ h => h.1), readPromise_iff hcut hserved⟩
  . intro hexec
    have h := exec_of_triple (triple_serveWrite w₀ req) hpending hexec (fun _ _ => trivial)
    obtain ⟨a, -, hreplied⟩ := h.2
    exact ⟨List.eq_nil_iff_forall_not_mem.mpr h.1, hreplied⟩

/-- One file of five bytes is open. -/
def greeting : FileWorld ⟨16, 8, 65536⟩ where
  files := fun index =>
    if index.val = 0 then some ⟨[0x68, 0x65, 0x6c, 0x6c, 0x6f], 1, by decide⟩ else none
  data := fun _ => 0

def greetingRequest : FileRequest := ⟨6, 16, 8⟩

/-- The read comes to the end of the file. -/
theorem appFiles_exact_greeting
    : ∃ marks w stop, (serveRead _ greetingRequest).exec greeting (List.replicate 5 {})
        = some (marks, w, stop)
      ∧ w.reply = some (greetingRequest.reply zzOk 4)
      ∧ AsServed greeting greetingRequest
        (fun index file => ReadPromise greeting index file greetingRequest)
        (greetingRequest.reply zzOk 4) w := by
  have hends : (serveRead _ greetingRequest).ends greeting (List.replicate 5 {})
      (fun _ w => w.reply == some (greetingRequest.reply zzOk 4) && w.cut == false) = true := by
    decide +kernel
  obtain ⟨marks, w, _, hexec, htest⟩ := exists_of_ends hends
  rw [Bool.and_eq_true, beq_iff_eq, beq_iff_eq] at htest
  have h := (appFiles_exact rfl rfl greetingRequest (List.replicate 5 {})).1 hexec
  exact ⟨marks, w, _, hexec, htest.1, (h.2 _ htest.1).2.mpr htest.2⟩

/-- Ctrl-C is set before the first chunk: the reply says that the file ends where it begins. -/
theorem serveRead_ctrlC
    : ∃ marks w stop, (serveRead _ greetingRequest).exec greeting [{}, { ctrlC := true }, {}]
        = some (marks, w, stop)
      ∧ w.reply = some (greetingRequest.reply zzOk 0)
      ∧ ¬AsServed greeting greetingRequest
        (fun index file => ReadPromise greeting index file greetingRequest)
        (greetingRequest.reply zzOk 0) w := by
  have hends : (serveRead _ greetingRequest).ends greeting [{}, { ctrlC := true }, {}]
      (fun _ w => w.reply == some (greetingRequest.reply zzOk 0)) = true := by
    decide +kernel
  obtain ⟨marks, w, _, hexec, htest⟩ := exists_of_ends hends
  rw [beq_iff_eq] at htest
  refine ⟨marks, w, _, hexec, htest, ?_⟩
  intro h
  have hend := h.2 rfl (by decide)
  revert hend
  decide

end Requests

end ZZRun
