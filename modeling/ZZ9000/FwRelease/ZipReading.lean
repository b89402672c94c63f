import ZZ9000.FwRelease.ZipOpening

/-!
This module contains that the ZIP readers read archives and nothing else, wherever their input is cut
into pieces.
-/

namespace ZZRel

open Streams

section Explained

variable {ι : Type} {D : Decoder ι UInt8 UInt8} {code : List UInt8 → Option (List UInt8)}
variable {cb : ZipCallbacks} {bundle : Bool} {g : ZipSpot} {r : ZipRun ι} {data : List UInt8}

/-- An archive does not end outside of the data of an entry. -/
theorem not_rest_nil (h : ZipSim D code bundle g r) (hstate : r.zip.state ≠ .data)
    (o : List ZipAtom)
    : ¬g.Rest code cb bundle [] o := by
  intro hrest
  cases h with
  | header _ _ htaken hneed hlength hsig =>
    simp only [ZipSpot.Rest, List.append_nil] at hrest
    exact absurd (length_lt_of_archive hrest (.inl (List.prefix_refl _)) hsig hlength)
      (Nat.lt_irrefl _)
  | name header got htaken _ _ hheader hlt hskip hname =>
    simp only [ZipSpot.Rest, List.append_nil, htaken] at hrest
    have hle := length_of_header hheader hrest (.inr (List.prefix_append _ _))
    rw [List.length_append, hheader.length_eq] at hle
    omega
  | skip _ _ _ hmethod hplain htarget hsizes hlt hskip hcrc =>
    obtain ⟨body, trailer, content, w', o', heq, _, hdata, _⟩ := hrest
    obtain ⟨_, hcsize, _⟩ := store_cases hdata hmethod
    have hlength := congrArg List.length heq
    rw [List.append_nil, List.length_append] at hlength
    omega
  | stored hdata => exact hstate hdata
  | inflate hdata => exact hstate hdata
  | descriptor htaken _ _ _ hmethod hdescribed hcode hholds hfine hlt hneed =>
    obtain ⟨trailer, w', o', heq, _, hdata, _⟩ := hrest
    obtain ⟨crc, usize, htrailer, _⟩ := (deflate_cases hdata hmethod).2.2 hdescribed
    rw [List.append_nil] at heq
    have hle := need_le_trailer htrailer (.inl ⟨w', heq.symm⟩) hneed
    have hlength := congrArg List.length heq
    rw [List.length_append] at hlength
    omega

/-- Outside of the data of an entry the loop ends with the input. -/
theorem explains_outside {state : ZipState} {round : Round (ZipRun ι) ZipResult}
    (hs : ZipSim D code bundle g r) (hstate : r.zip.state = state) (hne : state ≠ .data)
    (h : data ≠ [] → (zipMeaning D code cb bundle).Explains g r data round)
    : (zipMeaning D code cb bundle).Explains g r data
        (if data = [] ∧ state ≠ .data then .waits r else round) := by
  split
  . next hempty =>
    rw [hempty.1]
    exact explains_waits hs (not_rest_nil hs (by rw [hstate]; exact hne))
  . next hdata => exact h fun hempty => hdata ⟨hempty, hne⟩

theorem zip_explained (hD : D.Implements tinflLzDictSize code)
    : (zipMeaning D code cb bundle).Explained := by
  intro g r data hs
  have hs' := hs
  dsimp only [zipReader]
  unfold zipRound
  cases hs with
  | header hstate hboundary htaken hneed hlength hsig =>
    rw [hstate, if_neg (by decide)]
    rw [← htaken] at hlength hsig hs' ⊢
    exact explains_outside hs' hstate (by decide)
      (explains_headerRound hstate hboundary hneed hlength hsig)
  | name header got htaken hstate hboundary hheader hlt hskip hname =>
    rw [hstate, if_neg (by decide)]
    rw [htaken] at hs' ⊢
    exact explains_outside hs' hstate (by decide)
      (explains_nameRound hstate hboundary hheader hlt hskip hname)
  | skip hstate hselected hheader hmethod hplain htarget hsizes hlt hskip hcrc =>
    rw [hstate, if_neg (by decide)]
    exact explains_outside hs' hstate (by decide)
      (explains_skipRound hstate hselected hheader hmethod hplain
      htarget hsizes hlt hskip hcrc)
  | stored hstate hselected hheader hmethod hplain htarget hsizes hlt hskip hholds hfine =>
    rw [hstate, if_neg (by decide), if_neg fun h => h.2 rfl]
    dsimp only
    rw [if_pos (hheader.method_eq.trans hmethod)]
    exact explains_storedRound hstate hselected hheader hmethod hplain htarget hsizes hlt hskip
      hholds hfine
  | inflate hstate hselected hheader hmethod hsession hdict hholds hfine =>
    have hdeflate : r.zip.method = zipMethodDeflate := hheader.method_eq.trans hmethod
    rw [hstate, if_neg (by decide), if_neg fun h => h.2 rfl]
    dsimp only
    rw [if_neg (by rw [hdeflate]; decide)]
    exact explains_inflateRound hD hstate hselected hheader hmethod hsession hdict hholds hfine
  | descriptor htaken hstate hselected hheader hmethod hdescribed hcode hholds hfine hlt hneed =>
    rw [hstate, if_neg (by decide)]
    rw [← htaken] at hlt hneed hs' ⊢
    exact explains_outside hs' hstate (by decide)
      (explains_descriptorRound hstate hselected hheader hmethod
      hdescribed hcode hholds hfine hlt hneed)

end Explained

section Inflater

/-- The compressed stream of nothing, a single fixed block. -/
def emptyStream : List UInt8 := [0x03, 0x00]

def emptyCode (w : List UInt8) : Option (List UInt8) := if w = emptyStream then some [] else none

/-- An inflater for `emptyStream`. Its state is what it has read. -/
def emptyInflater : Decoder (List UInt8) UInt8 UInt8 where
  init := []
  decode s piece _ :=
    let n := min (2 - s.length) piece.length
    let input := s ++ piece.take n
    if input = emptyStream then
      ⟨input, n, [], .done⟩
    else if input.length < 2 ∧ input <+: emptyStream then
      ⟨input, n, [], .needsMoreInput⟩
    else
      ⟨input, 0, [], .failed⟩

theorem emptyInflater_session {s input output : List UInt8}
    (h : emptyInflater.Session tinflLzDictSize s input output)
    : s = input ∧ output = [] ∧ input.length < 2 := by
  induction h with
  | init => exact ⟨rfl, rfl, by decide⟩
  | @call s input output piece h hstatus ih =>
    obtain ⟨hs, ho, _⟩ := ih
    unfold emptyInflater at hstatus ⊢
    dsimp only at hstatus ⊢
    split at hstatus
    . simp at hstatus
    . next hnot =>
      rw [if_neg hnot]
      split at hstatus
      . next hless =>
        rw [if_pos hless, hs, ho]
        rw [hs] at hless
        exact ⟨rfl, rfl, hless.1⟩
      . simp at hstatus

theorem emptyInflater_implements : emptyInflater.Implements tinflLzDictSize emptyCode where
  prefixFree := by
    intro w w' t t' hw hw' _
    unfold emptyCode at hw hw'
    split at hw
    . next h =>
      split at hw'
      . next h' => rw [h, h']
      . contradiction
    . contradiction
  done := by
    intro s input output h piece hstatus
    obtain ⟨hs, ho, _⟩ := emptyInflater_session h
    unfold emptyInflater at hstatus ⊢
    dsimp only at hstatus ⊢
    split at hstatus
    . next heq =>
      rw [if_pos heq, ho]
      rw [hs] at heq ⊢
      exact if_pos heq
    . split at hstatus
      . contradiction
      . contradiction
  needsMoreInput := by
    intro s input output h piece hstatus
    obtain ⟨hs, ho, hlength⟩ := emptyInflater_session h
    unfold emptyInflater at hstatus ⊢
    dsimp only at hstatus ⊢
    split at hstatus
    . contradiction
    . next hnot =>
      rw [if_neg hnot]
      split at hstatus
      . next hless =>
        rw [if_pos hless]
        have hall : piece.length ≤ min (2 - s.length) piece.length := by
          have hshort := hless.1
          rw [List.length_append, List.length_take] at hshort
          omega
        rw [List.take_of_length_le hall, hs] at hnot
        exact ⟨hall, if_neg hnot⟩
      . contradiction
  hasMoreOutput := by
    intro s input output h piece hstatus
    unfold emptyInflater at hstatus
    dsimp only at hstatus
    split at hstatus
    . contradiction
    . split at hstatus <;> contradiction
  proceeds := by
    intro s input output h piece w t hcode hcomparable
    obtain ⟨hs, ho, hlength⟩ := emptyInflater_session h
    unfold emptyCode at hcode
    split at hcode
    . next hw =>
      rw [Option.some.injEq] at hcode
      have hnext : s ++ piece.take (min (2 - s.length) piece.length) <+: emptyStream := by
        have htake : s ++ piece.take (min (2 - s.length) piece.length) = (s ++ piece).take 2 := by
          have hall : s.take 2 = s := List.take_of_length_le (by rw [hs]; omega)
          rw [List.take_append, hall, List.append_right_inj, List.take_eq_take_iff]
          omega
        rw [htake, ← hw, hs]
        cases hcomparable with
        | inl hle =>
          rw [List.prefix_iff_eq_take.mp hle, hw]
          exact List.prefix_refl _
        | inr hge => exact (List.take_prefix _ _).trans hge
      rw [ho, ← hcode]
      unfold emptyInflater
      dsimp only
      split
      . rw [hw, ← hs]
        exact ⟨nofun, hnext, List.nil_prefix⟩
      . next hnot =>
        have hshort : (s ++ piece.take (min (2 - s.length) piece.length)).length < 2 := by
          have hle := hnext.length_le
          by_contra hge
          exact hnot (hnext.eq_of_length_le (Nat.le_of_not_lt hge))
        rw [if_pos ⟨hshort, hnext⟩, hw, ← hs]
        exact ⟨nofun, hnext, List.nil_prefix⟩
    . contradiction
end Inflater

section Samples

def le32Bytes (n : UInt32) : List UInt8 :=
  [n.toUInt8, (n >>> 8).toUInt8, (n >>> 16).toUInt8, (n >>> 24).toUInt8]

theorem le32_le32Bytes (n : UInt32) (rest : List UInt8) : le32 (le32Bytes n ++ rest) 0 = n := by
  unfold le32 le32Bytes
  apply UInt32.toBitVec_inj.mp
  apply BitVec.eq_of_getLsbD_eq
  intro i hi
  simp [-UInt32.toUInt32_toUInt8]
  grind

def sampleHead : List UInt8 :=
  List.replicate 32 0 ++ [0x66, 0x55, 0x99, 0xaa, 0x58, 0x4e, 0x4c, 0x58]

def sampleImage : List UInt8 := sampleHead ++ List.replicate 65496 0

theorem length_sampleImage : sampleImage.length = 65536 := by
  unfold sampleImage
  rw [List.length_append, List.length_replicate]
  rfl

theorem sampleImage_boot : BootImage sampleImage where
  min_le := by
    rw [length_sampleImage]
    decide
  le_max := by
    rw [length_sampleImage]
    decide
  header := by
    have hlength : sampleHead.length = bootHeaderBytes := rfl
    unfold sampleImage
    rw [List.take_left' hlength]
    decide

/-- The header of a stored entry of 65536 bytes. -/
def sampleHeader (crc : UInt32) (nameLen : UInt8) : List UInt8 :=
  [0x50, 0x4b, 0x03, 0x04, 20, 0, 0, 0, 0, 0, 0, 0, 0, 0]
    ++ (le32Bytes crc ++ [0, 0, 1, 0, 0, 0, 1, 0, nameLen, 0, 0, 0])

theorem sampleHeader_crc (crc : UInt32) (nameLen : UInt8)
    : le32 (sampleHeader crc nameLen) 14 = crc :=
  le32_le32Bytes crc [0, 0, 1, 0, 0, 0, 1, 0, nameLen, 0, 0, 0]

theorem sampleHeader_fields (crc : UInt32) (nameLen : UInt8)
    : le16 (sampleHeader crc nameLen) 6 = 0 ∧ le16 (sampleHeader crc nameLen) 8 = 0
        ∧ le32 (sampleHeader crc nameLen) 18 = 65536
        ∧ le32 (sampleHeader crc nameLen) 22 = 65536 := by
  simp [sampleHeader, le32Bytes, le16, le32]
  decide

/-- A stored `BOOT.bin`. -/
def sampleEntry (name path root : List UInt8) : ZipEntry where
  header := sampleHeader (crc32 sampleImage) name.length.toUInt8
  name
  extra := []
  target := .boot
  path
  root

theorem sampleEntry_data {code : List UInt8 → Option (List UInt8)} (name path root : List UInt8)
    : ZipData code (sampleEntry name path root) sampleImage [] sampleImage := by
  have hchecked : Checked .boot (sampleEntry name path root).crc
      (sampleEntry name path root).usize sampleImage := {
    crc_eq := (sampleHeader_crc _ _).symm
    length_eq := by
      unfold sampleEntry ZipEntry.usize
      rw [length_sampleImage, (sampleHeader_fields _ _).2.2.2]
      rfl
    boot := fun _ => sampleImage_boot
    zzm := (nomatch ·) }
  obtain ⟨hflags, hmethod, hcsize, husize⟩ :=
    sampleHeader_fields (crc32 sampleImage) name.length.toUInt8
  refine .stored hmethod ?_ (nomatch ·) (hcsize.trans husize.symm) hchecked
  unfold ZipEntry.hasDescriptor ZipEntry.flags sampleEntry
  rw [hflags]
  decide

theorem sampleImage_opens : (sampleEntry bootName [] []).Opens false [] false where
  header_length := rfl
  signature := rfl
  name_length := rfl
  named := by decide
  name_lt := by decide
  extra_length := rfl
  notEncrypted := rfl
  sized := fun _ => ⟨by decide, by decide⟩
  selects := ⟨rfl, rfl, .inl ⟨rfl, .root⟩⟩

/-- Callbacks that never fail, with those for the entries or without. -/
def sampleCallbacks (entries : Bool) : ZipCallbacks where
  sink _ _ := false
  onBegin := if entries then some fun _ _ => false else none
  onEnd := if entries then some fun _ _ => false else none

theorem sampleCallbacks_reliable (entries : Bool) : (sampleCallbacks entries).Reliable where
  sink _ _ := rfl
  onBegin := by
    intro fails h log path
    unfold sampleCallbacks at h
    split at h
    . rw [← Option.some.inj h]
    . contradiction
  onEnd := by
    intro fails h log path
    unfold sampleCallbacks at h
    split at h
    . rw [← Option.some.inj h]
    . contradiction

def sampleImageZip : List UInt8 := (sampleEntry bootName [] []).opening ++ (sampleImage ++ [])

theorem sampleImageZip_archive {code : List UInt8 → Option (List UInt8)} {cb : ZipCallbacks}
    : ZipArchive cb code false [] false sampleImageZip
        ((sampleEntry bootName [] []).atoms cb sampleImage) :=
  .image rfl sampleImage_opens (sampleEntry_data _ _ _) (nomatch ·)

/-- `r/BOOT.bin` -/
def sampleBundleName : List UInt8 := 114 :: slash :: bootName

theorem sampleBundle_opens : (sampleEntry sampleBundleName bootName [114]).Opens true [] false where
  header_length := rfl
  signature := rfl
  name_length := rfl
  named := by decide
  name_lt := by decide
  extra_length := rfl
  notEncrypted := rfl
  sized := fun _ => ⟨by decide, by decide⟩
  selects := {
    dir_safe := ⟨by decide, by decide, by decide, by decide⟩
    noBackslash := by decide
    sameRoot := .inl rfl
    once := fun _ => rfl
    inside := ⟨bootName, rfl, .boot⟩ }

def sampleBundleZip : List UInt8 :=
  (sampleEntry sampleBundleName bootName [114]).opening
    ++ (sampleImage ++ ([] ++ [0x50, 0x4b, 0x01, 0x02]))

theorem sampleBundleZip_archive {code : List UInt8 → Option (List UInt8)} {cb : ZipCallbacks}
    : ZipArchive cb code true [] false sampleBundleZip
        ((sampleEntry sampleBundleName bootName [114]).atoms cb sampleImage ++ []) :=
  .entry sampleBundle_opens (sampleEntry_data _ _ _) (.inl rfl) (.central rfl rfl rfl)

theorem whole_flatten (w : List UInt8) : w <+: [w].flatten := by
  simp

end Samples

section Reading

variable {ι : Type} {D : Decoder ι UInt8 UInt8} {code : List UInt8 → Option (List UInt8)}
variable {cb : ZipCallbacks} {bundle : Bool} {pieces : List (List UInt8)} {fuel : Nat}

/-- A reader in front of its input. -/
def zipStart (D : Decoder ι UInt8 UInt8) (bundle : Bool) : ZipRun ι := ⟨zipNew D bundle, []⟩

theorem sim_start : ZipSim D code bundle (.boundary [] false []) (zipStart D bundle) :=
  .header rfl ⟨rfl, fun _ => rfl, rfl, rfl⟩ rfl rfl (by decide) fun h => absurd h (by decide)

theorem not_rest_start (o : List ZipAtom)
    : ¬ZipSpot.Rest code cb bundle (.boundary [] false []) [] o := by
  intro hrest
  exact absurd (four_le_of_archive hrest) (by decide)

/-- Every input is read to an end. -/
theorem zip_feedAll_total (hD : D.Implements tinflLzDictSize code)
    (cb : ZipCallbacks) (bundle : Bool) (pieces : List (List UInt8))
    : ∃ fuel x, (zipReader D cb).feedAll fuel (zipStart D bundle) pieces = some x :=
  (zipMeaning D code cb bundle).feedAll_total (zip_explained hD) sim_start

/-- What a reader has accepted is the start of its input and an archive. -/
theorem archive_of_done {r : ZipRun ι} (hD : D.Implements tinflLzDictSize code)
    (h : (zipReader D cb).feedAll fuel (zipStart D bundle) pieces = some (some .done, r))
    : ∃ w, w <+: pieces.flatten
        ∧ ZipArchive cb code bundle [] false w (r.log.flatMap ZipEvent.atoms) := by
  obtain ⟨w, out, hw, hlog, hrest, _⟩ :=
    ((zipMeaning D code cb bundle).explains_feedAll (zip_explained hD) sim_start not_rest_start
      h).1 rfl
  refine ⟨w, hw, ?_⟩
  have hout : r.log.flatMap ZipEvent.atoms = out := hlog
  rw [hout]
  exact hrest

/-- An archive at the start of the input is accepted. -/
theorem done_of_archive {w : List UInt8} {o : List ZipAtom} (pieces : List (List UInt8))
    (hD : D.Implements tinflLzDictSize code) (hcb : cb.Reliable) (hw : w <+: pieces.flatten)
    (h : ZipArchive cb code bundle [] false w o)
    : ∃ fuel r, (zipReader D cb).feedAll fuel (zipStart D bundle) pieces = some (some .done, r)
        ∧ r.log.flatMap ZipEvent.atoms = o :=
  ((zipMeaning D code cb bundle).feedAll_iff (zip_explained hD) (fun _ hgave => hgave.2 hcb)
    sim_start not_rest_start).mpr ⟨w, hw, h⟩

/-- The readers accept the archives, and exactly those, and deliver what is in them. -/
theorem zip_feedAll_iff (hD : D.Implements tinflLzDictSize code) (hcb : cb.Reliable)
    (o : List ZipAtom)
    : (∃ fuel r, (zipReader D cb).feedAll fuel (zipStart D bundle) pieces = some (some .done, r)
        ∧ r.log.flatMap ZipEvent.atoms = o)
      ↔ ∃ w, w <+: pieces.flatten ∧ ZipArchive cb code bundle [] false w o := by
  constructor
  . intro h
    obtain ⟨fuel, r, hall, ho⟩ := h
    rw [← ho]
    exact archive_of_done hD hall
  . intro h
    obtain ⟨w, hw, harchive⟩ := h
    exact done_of_archive pieces hD hcb hw harchive

theorem zip_feedAll_iff_sample
    : ∃ fuel r, (zipReader emptyInflater (sampleCallbacks false)).feedAll fuel
        (zipStart emptyInflater false) [sampleImageZip] = some (some .done, r)
        ∧ r.log.flatMap ZipEvent.atoms
          = (sampleEntry bootName [] []).atoms (sampleCallbacks false) sampleImage :=
  (zip_feedAll_iff emptyInflater_implements (sampleCallbacks_reliable false) _).mpr
    ⟨sampleImageZip, whole_flatten _, sampleImageZip_archive⟩

end Reading

section Results

variable {ι : Type} {D : Decoder ι UInt8 UInt8} {cb : ZipCallbacks}
variable {r r' : ZipRun ι} {data : List UInt8} {result : ZipResult} {used : Nat}

/-- A round that ends with a result leaves it in the reader. -/
def Keeps : Round (ZipRun ι) ZipResult → Prop
  | .stops result r => r.zip.state = .finished ∧ r.zip.result = result
  | .goes _ _ => True
  | .waits _ => True

theorem keeps_fail (result : ZipResult) (r : ZipRun ι) : Keeps (.stops result (r.fail result)) :=
  ⟨rfl, rfl⟩

theorem keeps_afterEntry {x : ZipResult × ZipRun ι} (h : Settled x)
    : Keeps (afterEntry used x) := by
  unfold afterEntry
  unfold Settled at h
  split
  . next hresult =>
    rw [if_neg hresult] at h
    exact ⟨h.1, rfl⟩
  . trivial

theorem keeps_headerRound : Keeps (headerRound r data) := by
  unfold headerRound
  dsimp only
  split
  . split
    . split
      . exact keeps_fail _ _
      . exact keeps_fail _ _
    . split
      . exact keeps_fail _ _
      . trivial
  . split
    . trivial
    . split
      . exact keeps_fail _ _
      . trivial

theorem keeps_nameRound : Keeps (nameRound D cb r data) := by
  unfold nameRound
  dsimp only
  by_cases hskip : r.zip.skip - min data.length r.zip.skip ≠ 0
  . rw [if_pos hskip]
    trivial
  . rw [if_neg hskip, afterEntry_of_settled (settled_beginEntry _)]
    exact keeps_afterEntry (settled_beginEntry _)

theorem keeps_storedRound : Keeps (storedRound cb r data) := by
  unfold storedRound
  split
  . trivial
  . dsimp only
    split
    . exact keeps_fail _ _
    . split
      . trivial
      . exact keeps_afterEntry (settled_entryDone _)

theorem keeps_inflateRound : Keeps (inflateRound D cb r data) := by
  unfold inflateRound
  dsimp only
  split
  . exact keeps_fail _ _
  . split
    . exact keeps_fail _ _
    . split
      . split
        . trivial
        . exact keeps_afterEntry (settled_entryDone _)
      . split
        . split
          . trivial
          . split
            . exact keeps_fail _ _
            . trivial
        . trivial

theorem keeps_zipRound : Keeps (zipRound D cb r data) := by
  unfold zipRound
  split
  . next hfinished => exact ⟨hfinished, rfl⟩
  . split
    . trivial
    . split
      . exact keeps_headerRound
      . exact keeps_nameRound
      . unfold skipRound
        dsimp only
        split
        . trivial
        . exact keeps_afterEntry (settled_entryDone _)
      . split
        . exact keeps_storedRound
        . exact keeps_inflateRound
      . unfold descriptorRound
        dsimp only
        split
        . trivial
        . split
          . trivial
          . exact keeps_afterEntry (settled_entryDone _)
      . next hfinished => exact ⟨hfinished, rfl⟩

theorem kept_of_feed {fuel : Nat} {r : ZipRun ι}
    (h : (zipReader D cb).feed fuel r data = some (some result, r'))
    : r'.zip.state = .finished ∧ r'.zip.result = result := by
  induction fuel generalizing r data with
  | zero => contradiction
  | succ fuel ih =>
    have hkeeps : Keeps ((zipReader D cb).round r data) := keeps_zipRound
    unfold Reader.feed at h
    split at h
    . exact ih h
    . next hround =>
      rw [Option.some.injEq, Prod.mk.injEq] at h
      exact absurd h.1.symm (Option.some_ne_none _)
    . next hround =>
      rw [Option.some.injEq, Prod.mk.injEq, Option.some.injEq] at h
      rw [hround] at hkeeps
      rw [← h.1, ← h.2]
      exact hkeeps

/-- After a result every feed returns it, and the callbacks are not called any more. -/
theorem zip_result_kept {fuel : Nat} {r : ZipRun ι} {pieces : List (List UInt8)}
    (h : (zipReader D cb).feedAll fuel r pieces = some (some result, r')) (fuel' : Nat)
    (later : List UInt8)
    : (zipReader D cb).feed (fuel' + 1) r' later = some (some result, r') := by
  have hkept : r'.zip.state = .finished ∧ r'.zip.result = result := by
    induction pieces generalizing r with
    | nil =>
      rw [Reader.feedAll, Option.some.injEq, Prod.mk.injEq] at h
      exact absurd h.1.symm (Option.some_ne_none _)
    | cons piece pieces ih =>
      unfold Reader.feedAll at h
      split at h
      . exact ih h
      . exact kept_of_feed h
  have hround : (zipReader D cb).round r' later = .stops result r' := by
    dsimp only [zipReader]
    unfold zipRound
    rw [if_pos hkept.1, hkept.2]
  unfold Reader.feed
  rw [hround]

/-- A feed comes to an end, and after a result every later one returns the same and does nothing. -/
theorem zip_feed_ends {code : List UInt8 → Option (List UInt8)}
    (hD : D.Implements tinflLzDictSize code) (cb : ZipCallbacks) (bundle : Bool)
    (pieces : List (List UInt8))
    : ∃ fuel result r, (zipReader D cb).feedAll fuel (zipStart D bundle) pieces = some (result, r)
        ∧ ∀ res, result = some res → ∀ fuel' later,
          (zipReader D cb).feed (fuel' + 1) r later = some (some res, r) := by
  obtain ⟨fuel, ⟨result, r⟩, h⟩ := zip_feedAll_total hD cb bundle pieces
  refine ⟨fuel, result, r, h, ?_⟩
  intro res hres fuel' later
  rw [hres] at h
  exact zip_result_kept h fuel' later

theorem zip_feed_ends_sample
    : ∃ fuel result r, (zipReader emptyInflater (sampleCallbacks true)).feedAll fuel
        (zipStart emptyInflater true) [sampleImageZip, sampleBundleZip] = some (result, r)
        ∧ ∀ res, result = some res → ∀ fuel' later,
          (zipReader emptyInflater (sampleCallbacks true)).feed (fuel' + 1) r later
            = some (some res, r) :=
  zip_feed_ends emptyInflater_implements (sampleCallbacks true) true
    [sampleImageZip, sampleBundleZip]

end Results

end ZZRel
