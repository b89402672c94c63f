import ZZ9000.FwRelease.ZipMeaning

/-!
This module contains that every round of the loop of `fwrel_zip_feed` does what the archives say.
-/

namespace ZZRel

open Streams

variable {ι : Type} {D : Decoder ι UInt8 UInt8} {code : List UInt8 → Option (List UInt8)}
variable {cb : ZipCallbacks} {bundle : Bool} {r : ZipRun ι} {data : List UInt8}

/-- An error that says that this is not the start of an archive. -/
theorem explains_wrong {g : ZipSpot} {error : ZipResult} {r' : ZipRun ι} (hne : error ≠ .done)
    (h : ∀ w o, g.Rest code cb bundle w o → ¬Comparable w data)
    : (zipMeaning D code cb bundle).Explains g r data (.stops error r') :=
  ⟨fun hdone => absurd hdone hne, fun _ => .inr h⟩

theorem explains_gaveUp {g : ZipSpot} {r' : ZipRun ι} (h : ¬cb.Reliable)
    : (zipMeaning D code cb bundle).Explains g r data (.stops .errWrite r') :=
  ⟨(nomatch ·), fun _ => .inl ⟨rfl, h⟩⟩

/-- Nothing is left to be read, but the archive goes on. -/
theorem explains_waits {g : ZipSpot} (h : ZipSim D code bundle g r)
    (hmore : ∀ o, ¬g.Rest code cb bundle [] o)
    : (zipMeaning D code cb bundle).Explains g r [] (.waits r) :=
  ⟨g, [], h, (List.append_nil _).symm, .refl _ _ _, hmore⟩

section Header

variable {root : List UInt8} {foundBoot : Bool}

theorem four_le_of_archive {w : List UInt8} {o : List ZipAtom}
    (h : ZipArchive cb code bundle root foundBoot w o)
    : 4 ≤ w.length := by
  cases archive_cases h with
  | inl hcentral => exact Nat.le_of_eq hcentral.2.2.1.symm
  | inr hentry =>
    obtain ⟨e, body, trailer, content, w', o', hopens, _, _, hw, _⟩ := hentry
    rw [hw, List.length_append, e.length_opening hopens]
    unfold zipLocalBytes
    omega

/-- The first bytes of an archive, if they are not those of an entry. -/
theorem central_of_archive {w v : List UInt8} {o : List ZipAtom}
    (h : ZipArchive cb code bundle root foundBoot w o) (hv : Comparable w v)
    (hlength : 4 ≤ v.length) (hsig : le32 v 0 ≠ zipLocalSig)
    : bundle = true ∧ foundBoot = true ∧ le32 v 0 = zipCentralSig ∧ o = [] := by
  have hle := le32_eq_of_comparable hv (four_le_of_archive h) hlength
  cases archive_cases h with
  | inl hcentral =>
    obtain ⟨hbundle, hfound, _, hcentral, ho⟩ := hcentral
    rw [hle] at hcentral
    exact ⟨hbundle, hfound, hcentral, ho⟩
  | inr hentry =>
    obtain ⟨e, body, trailer, content, w', o', hopens, _, _, hw, _⟩ := hentry
    rw [hw, e.le32_opening hopens] at hle
    exact absurd hle.symm hsig

/-- An entry that starts with these bytes has them for a header. -/
theorem header_eq {e : ZipEntry} {rest header v : List UInt8}
    (hopens : e.Opens bundle root foundBoot)
    (hv : Comparable (e.opening ++ rest) (header ++ v)) (hlength : header.length = zipLocalBytes)
    : e.header = header := by
  unfold ZipEntry.opening at hv
  rw [List.append_assoc] at hv
  exact hv.left_eq (hopens.header_length.trans hlength.symm)

theorem explains_headerRound (hstate : r.zip.state = .header)
    (hboundary : AtBoundary bundle r.zip root foundBoot) (hneed : r.zip.hdrNeed = zipLocalBytes)
    (hlength : r.zip.hdr.length ≤ zipLocalBytes)
    (hsig : 4 ≤ r.zip.hdr.length → le32 r.zip.hdr 0 = zipLocalSig) (hdata : data ≠ [])
    : (zipMeaning D code cb bundle).Explains
        (.boundary root foundBoot r.zip.hdr) r data (headerRound r data) := by
  unfold headerRound Zip.collect
  dsimp only
  generalize hn : min (r.zip.hdrNeed - r.zip.hdr.length) data.length = n
  rw [hneed] at hn
  have htaken : (data.take n).length = n := by
    rw [List.length_take]
    omega
  have hpositive := List.length_pos_iff.mpr hdata
  have hlength' : (r.zip.hdr ++ data.take n).length ≤ zipLocalBytes := by
    rw [List.length_append, htaken]
    omega
  have hcomparable : ∀ w, Comparable w data →
      Comparable (r.zip.hdr ++ w) (r.zip.hdr ++ data.take n) := by
    intro w hw
    rw [← List.take_append_drop n data] at hw
    exact Comparable.append_iff.mpr hw.of_append
  -- the round takes more of the header
  have hgoes : (4 ≤ (r.zip.hdr ++ data.take n).length →
        le32 (r.zip.hdr ++ data.take n) 0 = zipLocalSig) → data.take n ≠ [] →
      (zipMeaning D code cb bundle).Explains (.boundary root foundBoot r.zip.hdr) r data
        (.goes n { r with zip := { r.zip with hdr := r.zip.hdr ++ data.take n } }) := by
    intro hsig' hmore
    refine ⟨_, [], .header hstate hboundary rfl hneed
      hlength' hsig', (List.append_nil _).symm, ?_, .inl hmore⟩
    apply derives_boundary
    intro w o harchive hw
    exact Nat.le_of_lt (length_lt_of_archive harchive hw hsig' hlength')
  split
  . next hshort =>
    have hmore : data.take n ≠ [] := by
      apply List.ne_nil_of_length_pos
      unfold zipLocalBytes at hn
      omega
    have hcentral_of : ∀ {w o}, ZipArchive cb code bundle root foundBoot
          (r.zip.hdr ++ w) o → Comparable w data → 4 ≤ (r.zip.hdr ++ data.take n).length →
        le32 (r.zip.hdr ++ data.take n) 0 ≠ zipLocalSig →
        bundle = true ∧ foundBoot = true
          ∧ le32 (r.zip.hdr ++ data.take n) 0 = zipCentralSig ∧ o = [] :=
      fun harchive hw hle hne => central_of_archive harchive (hcomparable _ hw) hle hne
    split
    . next hcentral =>
      obtain ⟨hle, hcentral⟩ := hcentral
      have hne : le32 (r.zip.hdr ++ data.take n) 0 ≠ zipLocalSig := by
        rw [hcentral]
        decide
      split
      . next hfound =>
        refine ⟨fun _ => ⟨data.take (4 - r.zip.hdr.length), [], List.take_prefix _ _,
          (List.append_nil _).symm, ?_, ?_⟩, fun h => absurd rfl h⟩
        . have hprefix : r.zip.hdr ++ data.take (4 - r.zip.hdr.length)
              <+: r.zip.hdr ++ data.take n := by
            rw [List.prefix_append_right_inj]
            apply List.take_prefix_take_left
            rw [List.length_append, htaken] at hle
            omega
          have hfour : (r.zip.hdr ++ data.take (4 - r.zip.hdr.length)).length = 4 := by
            rw [List.length_append, htaken] at hle
            rw [List.length_append, List.length_take]
            omega
          have hcentral' := le32_eq_of_comparable (.inl hprefix) (Nat.le_of_eq hfour.symm) hle
          rw [hcentral] at hcentral'
          have hbundle := hboundary.bundle_eq.symm.trans hfound.1
          have hthis : ZipArchive cb code bundle root true
              (r.zip.hdr ++ data.take (4 - r.zip.hdr.length)) [] :=
            .central hbundle hfour hcentral'
          rw [← hfound.2, hboundary.found_eq] at hthis
          exact hthis
        . intro w o harchive hw
          exact (hcentral_of harchive hw hle hne).2.2.2
      . next hfound =>
        refine explains_wrong (by decide) fun w o harchive hw => ?_
        obtain ⟨htrue, hboot, _⟩ := hcentral_of harchive hw hle hne
        exact hfound ⟨hboundary.bundle_eq.trans htrue, hboundary.found_eq.trans hboot⟩
    . next hcentral =>
      split
      . next hother =>
        refine explains_wrong (by decide) fun w o harchive hw => ?_
        exact hcentral ⟨hother.1, (hcentral_of harchive hw hother.1 hother.2).2.2.1⟩
      . next hlocal =>
        refine hgoes ?_ hmore
        intro hle
        exact not_not.mp fun hne => hlocal ⟨hle, hne⟩
  . next hlong =>
    have hsig' : le32 (r.zip.hdr ++ data.take n) 0 = zipLocalSig := by
      rw [le32_append (by omega), hsig (by omega)]
    have hfour : 4 ≤ (r.zip.hdr ++ data.take n).length := by
      rw [List.length_append]
      omega
    split
    . next hless =>
      refine hgoes (fun _ => hsig') (List.ne_nil_of_length_pos ?_)
      rw [hneed, List.length_append, htaken] at hless
      omega
    . next hfull =>
      have hcomplete : (r.zip.hdr ++ data.take n).length = zipLocalBytes := by
        rw [hneed] at hfull
        omega
      have hentry : ∀ {w o}, ZipArchive cb code bundle root foundBoot
            (r.zip.hdr ++ w) o → Comparable w data →
          ∃ e : ZipEntry, e.Opens bundle root foundBoot
            ∧ e.header = r.zip.hdr ++ data.take n := by
        intro w o harchive hw
        have hw' := hcomparable w hw
        obtain ⟨e, body, trailer, content, w', o', hopens, _, _, heq, _⟩ :=
          entry_of_archive harchive hw' hfour hsig'
        rw [heq, ← List.append_nil (r.zip.hdr ++ data.take n)] at hw'
        exact ⟨e, hopens, header_eq hopens hw' hcomplete⟩
      split
      . next hname =>
        refine explains_wrong (by decide) fun w o harchive hw => ?_
        obtain ⟨e, hopens, hheader⟩ := hentry harchive hw
        have hnamed := hopens.named
        have hlt := hopens.name_lt
        unfold ZipEntry.nameLen at hnamed hlt
        rw [hheader] at hnamed hlt
        cases hname with
        | inl hempty => exact hnamed hempty
        | inr hlong => exact Nat.not_le_of_lt hlt hlong
      . next hname =>
        rw [not_or] at hname
        refine ⟨.boundary root foundBoot (r.zip.hdr ++ data.take n), [], ?_,
          (List.append_nil _).symm, ?_, ?_⟩
        . have hheader : (r.zip.hdr ++ data.take n) = (r.zip.hdr ++ data.take n) ++ [] :=
            (List.append_nil _).symm
          refine .name _ [] hheader rfl hboundary
            ⟨hcomplete, hsig', rfl, rfl, rfl, rfl, rfl, rfl, rfl, hname.1,
              Nat.lt_of_not_le hname.2⟩ ?_ rfl fun h => absurd rfl h
          have hnamed := UInt16.toNat_inj.not.mpr hname.1
          rw [UInt16.toNat_zero] at hnamed
          exact Nat.lt_of_lt_of_le (Nat.pos_of_ne_zero hnamed) (Nat.le_add_right _ _)
        . apply derives_boundary
          intro w o harchive hw
          exact Nat.le_of_lt (length_lt_of_archive harchive hw (fun _ => hsig') hlength')
        . by_cases hmore : data.take n = []
          . -- all of the header was collected with its signature
            have hthirty : r.zip.hdr.length = zipLocalBytes := by
              rw [hmore, List.append_nil] at hcomplete
              exact hcomplete
            refine .inr ?_
            dsimp only [zipMeaning, ZipRun.rank]
            rw [hstate]
            dsimp only
            rw [if_pos hthirty]
            decide
          . exact .inl hmore

end Header

section EntryDone

variable {e : ZipEntry} {foundBoot : Bool}

theorem afterEntry_more (used : Nat) (r : ZipRun ι) : afterEntry used (.more, r) = .goes used r :=
  if_neg fun h => h rfl

theorem afterEntry_stops {result : ZipResult} (h : result ≠ .more) (used : Nat) (r : ZipRun ι)
    : afterEntry used (result, r) = .stops r.zip.result r :=
  if_pos h

theorem ends_cases (cb : ZipCallbacks) (htarget : r.zip.target = e.target)
    (hpath : e.target ≠ .none → r.zip.entryName = e.path)
    : ∃ fails log, log.flatMap ZipEvent.atoms = r.log.flatMap ZipEvent.atoms ++ e.ends cb
        ∧ (fails = true → ¬cb.Reliable)
        ∧ (if r.zip.target = .none then (false, r) else r.ends cb r.zip.entryName)
          = (fails, { zip := r.zip, log }) := by
  rw [htarget]
  unfold ZipEntry.ends
  by_cases hnone : e.target = .none
  . rw [if_pos hnone, if_neg fun h => h.1 hnone]
    exact ⟨false, r.log, (List.append_nil _).symm, (nomatch ·), rfl⟩
  . rw [if_neg hnone, hpath hnone]
    unfold ZipRun.ends
    cases hend : cb.onEnd with
    | none =>
      rw [if_neg (by simp)]
      exact ⟨false, r.log, (List.append_nil _).symm, (nomatch ·), rfl⟩
    | some fails =>
      rw [if_pos (by simp [hnone])]
      refine ⟨fails r.log e.path, _, ?_, ?_, rfl⟩
      . rw [List.flatMap_append, List.flatMap_singleton]
        rfl
      . intro hfails hreliable
        rw [hreliable.onEnd fails hend] at hfails
        contradiction

/-- The end of an entry that has passed its checks. -/
theorem zipEntryDone_of_none (cb : ZipCallbacks) (h : Selected bundle r.zip e foundBoot)
    (hnone : r.zip.entryError = none)
    : (¬cb.Reliable ∧ ∃ r', zipEntryDone cb r = (.errWrite, r') ∧ r'.zip.result = .errWrite)
      ∨ ∃ log, log.flatMap ZipEvent.atoms = r.log.flatMap ZipEvent.atoms ++ e.ends cb
        ∧ zipEntryDone cb r = if bundle = false ∧ e.target ≠ .none then
          (.done, { log, zip := { r.zip with
            foundBoot := foundBoot || e.target == .boot, result := .done, state := .finished } })
        else
          (.more, { zip := { r.zip with
            foundBoot := foundBoot || e.target == .boot, state := .header, hdr := []
            hdrNeed := zipLocalBytes }, log }) := by
  have hfound : (if r.zip.target = .boot then { r.zip with foundBoot := true } else r.zip)
      = { r.zip with foundBoot := foundBoot || e.target == .boot } := by
    rw [h.target_eq, ← h.found_eq]
    split
    . next htarget => simp [htarget]
    . next htarget =>
      have hbeq : (e.target == .boot) = false := beq_eq_false_iff_ne.mpr htarget
      rw [hbeq, Bool.or_false]
  unfold zipEntryDone
  rw [hnone]
  dsimp only
  rw [hfound]
  generalize hz : ({ r.zip with foundBoot := foundBoot || e.target == .boot } : Zip ι) = z
  have htarget : z.target = e.target := by
    rw [← hz]
    exact h.target_eq
  have hbundle : z.bundle = bundle := by
    rw [← hz]
    exact h.bundle_eq
  have hlast : (z.target ≠ .none ∧ ¬z.bundle = true) ↔ (bundle = false ∧ e.target ≠ .none) := by
    rw [htarget, hbundle, Bool.not_eq_true, and_comm]
  have hpath : e.target ≠ .none → z.entryName = e.path := by
    rw [← hz]
    exact h.path_eq
  obtain ⟨fails, log, hlog, hfails, hends⟩ := ends_cases (r := { r with zip := z }) cb htarget hpath
  dsimp only at hends
  rw [hends]
  dsimp only
  cases fails with
  | true => exact .inl ⟨hfails rfl, _, rfl, rfl⟩
  | false =>
    refine .inr ⟨log, hlog, ?_⟩
    unfold ZipRun.fail
    rw [if_neg (by decide)]
    by_cases hlast' : bundle = false ∧ e.target ≠ .none
    . rw [if_pos hlast', if_pos (hlast.mpr hlast'), ← hz]
    . rw [if_neg hlast', if_neg (mt hlast.mp hlast'), ← hz]

/-- The end of an entry is explained by what comes behind the entry. -/
theorem explains_entryDone {g : ZipSpot} {before : ZipRun ι} {used : Nat} {out : List ZipAtom}
    (h : Selected bundle r.zip e foundBoot)
    (hlog : r.log.flatMap ZipEvent.atoms = before.log.flatMap ZipEvent.atoms ++ out)
    (hprogress : data.take used ≠ [] ∨ 0 < before.rank)
    (hsound : r.zip.entryError = none → ∀ u o, Behind code cb bundle e foundBoot u o →
      g.Rest code cb bundle (data.take used ++ u) (out ++ (e.ends cb ++ o)))
    (hcomplete : ∀ w o, g.Rest code cb bundle w o → Comparable w data →
      r.zip.entryError = none ∧ ∃ u o', w = data.take used ++ u ∧ o = out ++ (e.ends cb ++ o')
        ∧ Behind code cb bundle e foundBoot u o')
    : (zipMeaning D code cb bundle).Explains g before data
        (afterEntry used (zipEntryDone cb r)) := by
  cases herror : r.zip.entryError with
  | some error =>
    obtain ⟨hdone, hmore⟩ := entryError_ne herror
    unfold zipEntryDone
    rw [herror, afterEntry_stops hmore]
    refine explains_wrong hdone fun w o hrest hw => ?_
    have hnone := (hcomplete w o hrest hw).1
    rw [herror] at hnone
    contradiction
  | none =>
    cases zipEntryDone_of_none cb h herror with
    | inl hgave =>
      obtain ⟨hfails, r', hdone, hresult⟩ := hgave
      rw [hdone, afterEntry_stops (by decide), hresult]
      exact explains_gaveUp hfails
    | inr hdone =>
      obtain ⟨log, hlog', hdone⟩ := hdone
      rw [hdone]
      rw [hlog, List.append_assoc] at hlog'
      by_cases hlast : bundle = false ∧ e.target ≠ .none
      . have hbehind : ∀ {u o}, Behind code cb bundle e foundBoot u o ↔ u = [] ∧ o = [] := by
          intro u o
          unfold Behind
          rw [if_pos hlast]
        rw [if_pos hlast, afterEntry_stops (by decide)]
        refine ⟨fun _ => ⟨data.take used, out ++ e.ends cb, List.take_prefix _ _, hlog', ?_, ?_⟩,
          fun hne => absurd rfl hne⟩
        . have hrest := hsound herror [] [] (hbehind.mpr ⟨rfl, rfl⟩)
          rw [List.append_nil, List.append_nil] at hrest
          exact hrest
        . intro w o hrest hw
          obtain ⟨_, u, o', _, ho, hend⟩ := hcomplete w o hrest hw
          rw [ho, (hbehind.mp hend).2, List.append_nil]
      . have hbehind : ∀ {u o}, Behind code cb bundle e foundBoot u o
            ↔ ZipArchive cb code bundle e.root (foundBoot || e.target == .boot) u o := by
          intro u o
          unfold Behind
          rw [if_neg hlast]
        rw [if_neg hlast, afterEntry_more]
        refine ⟨.boundary e.root (foundBoot || e.target == .boot) [], out ++ e.ends cb, ?_, hlog',
          ?_, ?_⟩
        . exact .header rfl ⟨h.bundle_eq, h.legacy, h.root_eq, rfl⟩ rfl rfl (by decide)
            (fun hlt => absurd hlt (by decide))
        . constructor
          . intro u o hrest
            have hthis := hsound herror u o (hbehind.mpr hrest)
            rw [← List.append_assoc] at hthis
            exact hthis
          . intro w o hrest hw
            rw [List.take_append_drop] at hw
            obtain ⟨_, u, o', hu, ho, hend⟩ := hcomplete w o hrest hw
            rw [← List.append_assoc] at ho
            exact ⟨u, o', hu, ho, hbehind.mp hend⟩
        . exact hprogress

end EntryDone

section Data

variable {e : ZipEntry} {foundBoot : Bool} {taken : List UInt8}

theorem comparable_body {w body tail : List UInt8} (heq : taken ++ w = body ++ tail)
    (hw : Comparable w data)
    : Comparable body (taken ++ data) :=
  (Comparable.append_iff.mpr hw).of_start ⟨tail, heq.symm⟩

/-- A stored entry goes on for as many bytes as its header says. -/
theorem stored_length {body trailer content x left : List UInt8}
    (hdata : ZipData code e body trailer content) (hmethod : e.method = zipMethodStore)
    (hbody : Comparable body (taken ++ (x ++ left)))
    (hlength : (taken ++ x).length ≤ e.csize.toNat)
    : taken ++ x <+: body := by
  obtain ⟨_, hcsize, _⟩ := store_cases hdata hmethod
  rw [← List.append_assoc] at hbody
  obtain ⟨u, hu⟩ := hbody.split (by omega)
  exact ⟨u, hu.symm⟩

/-- The rest of an archive at the last bytes of a stored entry. -/
theorem stored_rest {x w : List UInt8} {content : List UInt8} {o : List ZipAtom}
    (hmethod : e.method = zipMethodStore) (hlength : (taken ++ x).length = e.csize.toNat)
    (hrest : ZipSpot.Rest code cb bundle (.body e foundBoot taken content) w o)
    (hw : Comparable w x)
    : ∃ content' u o', w = x ++ u ∧ ZipData code e (taken ++ x) [] content'
        ∧ e.target.shows content ++ o = e.target.shows content' ++ (e.ends cb ++ o')
        ∧ Behind code cb bundle e foundBoot u o' := by
  obtain ⟨body, trailer, content', w', o', heq, ho, hdata, hbehind⟩ := hrest
  obtain ⟨htrailer, hcsize, _⟩ := store_cases hdata hmethod
  have hbody : Comparable (body ++ (trailer ++ w')) ((taken ++ x) ++ []) := by
    rw [← heq, List.append_nil, Comparable.append_iff]
    exact hw
  have hbody' := hbody.left_eq (hcsize.trans hlength.symm)
  rw [htrailer] at hdata heq
  rw [hbody'] at hdata heq
  rw [List.append_assoc, List.append_right_inj] at heq
  exact ⟨content', w', o', heq, hdata, ho, hbehind⟩

theorem explains_skipRound (hstate : r.zip.state = .skip)
    (hselected : Selected bundle r.zip e foundBoot) (hheader : HeaderRead r.zip e.header)
    (hmethod : e.method = zipMethodStore) (hplain : ¬e.hasDescriptor) (htarget : e.target = .none)
    (hsizes : e.csize = e.usize) (hlt : taken.length < e.csize.toNat)
    (hskip : r.zip.skip = e.csize.toNat - taken.length) (hcrc : r.zip.content.crc = e.crc)
    (hdata : data ≠ [])
    : (zipMeaning D code cb bundle).Explains (.body e foundBoot taken []) r data
        (skipRound cb r data) := by
  unfold skipRound
  dsimp only
  generalize hn : min data.length r.zip.skip = n
  have hpositive := List.length_pos_iff.mpr hdata
  have htaken : (data.take n).length = n := by
    rw [List.length_take]
    omega
  have hmore : data.take n ≠ [] := by
    apply List.ne_nil_of_length_pos
    omega
  have hshows : ∀ content, e.target.shows content = [] := by
    intro content
    unfold ZipTarget.shows
    rw [if_pos htarget]
  split
  . next hgoes =>
    have hlength : (taken ++ data.take n).length < e.csize.toNat := by
      rw [List.length_append]
      omega
    refine ⟨.body e foundBoot (taken ++ data.take n) [], [], ?_, (List.append_nil _).symm, ?_,
      .inl hmore⟩
    . refine .skip hstate hselected hheader hmethod hplain htarget hsizes hlength ?_ hcrc
      rw [List.length_append, htaken, hskip, Nat.sub_add_eq]
    . have hderives : Reader.Derives (ZipSpot.Rest code cb bundle) (.body e foundBoot taken [])
          (.body e foundBoot (taken ++ data.take n) ([] ++ [])) (data.take n) (data.drop n)
          (e.target.shows []) := by
        apply derives_body
        intro body trailer content' hdata' hbody
        refine ⟨stored_length hdata' hmethod hbody (Nat.le_of_lt hlength), [], ?_⟩
        rw [hshows, hshows]
        rfl
      rw [hshows] at hderives
      exact hderives
  . next hdone =>
    have hlength : (taken ++ data.take n).length = e.csize.toNat := by
      rw [List.length_append]
      omega
    have herror : Zip.entryError { r.zip with
        skip := r.zip.skip - n
        content := { r.zip.content with outTotal := r.zip.usize.toNat } } = none := by
      unfold Zip.entryError
      dsimp only
      rw [hcrc, hheader.crc_eq, hselected.target_eq, htarget]
      simp [ZipEntry.crc]
    refine explains_entryDone hselected (List.append_nil _).symm (.inl hmore) ?_ ?_
    . intro _ u o hbehind
      refine ⟨taken ++ data.take n, [], [], u, o, ?_, rfl, ?_, hbehind⟩
      . rw [List.append_assoc]
        rfl
      . refine .skipped hmethod hplain htarget hsizes hlength fun hempty => ?_
        rw [hsizes, hempty] at hlt
        exact absurd hlt (Nat.not_lt_zero _)
    . intro w o hrest hw
      rw [← List.take_append_drop n data] at hw
      obtain ⟨content', u, o', hu, hdata', ho, hbehind⟩ :=
        stored_rest hmethod hlength hrest hw.of_append
      rw [hshows, hshows] at ho
      exact ⟨herror, u, o', hu, ho, hbehind⟩

theorem rank_data (hstate : r.zip.state = .data) : 0 < r.rank := by
  unfold ZipRun.rank
  rw [hstate]
  exact Nat.succ_pos _

theorem explains_storedRound (hstate : r.zip.state = .data)
    (hselected : Selected bundle r.zip e foundBoot) (hheader : HeaderRead r.zip e.header)
    (hmethod : e.method = zipMethodStore) (hplain : ¬e.hasDescriptor) (htarget : e.target ≠ .none)
    (hsizes : e.csize = e.usize) (hlt : taken = [] ∨ taken.length < e.csize.toNat)
    (hskip : r.zip.skip = e.csize.toNat - taken.length)
    (hholds : r.zip.content.Holds e.target taken) (hfine : ZipFine e.target taken)
    : (zipMeaning D code cb bundle).Explains (.body e foundBoot taken taken) r data
        (storedRound cb r data) := by
  unfold storedRound
  split
  . next hempty =>
    rw [hempty]
    refine explains_waits (.stored hstate hselected hheader hmethod hplain htarget hsizes hlt hskip
      hholds hfine) fun o hrest => ?_
    obtain ⟨body, trailer, content', w', o', heq, _, hdata, _⟩ := hrest
    obtain ⟨_, hcsize, hchecked⟩ := store_cases hdata hmethod
    have hbody := List.length_pos_iff.mpr ((hchecked htarget).2.nonempty htarget)
    have hlength := congrArg List.length heq
    rw [List.append_nil, List.length_append] at hlength
    cases hlt with
    | inl htaken =>
      rw [htaken, List.length_nil] at hlength
      omega
    | inr hlt => omega
  . next hdata =>
    dsimp only
    generalize hn : min data.length r.zip.skip = n
    have htaken : (data.take n).length = n := by
      rw [List.length_take]
      omega
    have hle : taken.length ≤ e.csize.toNat := by
      cases hlt with
      | inl hempty =>
        rw [hempty]
        exact Nat.zero_le _
      | inr hlt => exact Nat.le_of_lt hlt
    have hlength : (taken ++ data.take n).length ≤ e.csize.toNat := by
      rw [List.length_append, htaken]
      omega
    have hbody_of : ∀ {w body trailer tail content'}, taken ++ w = body ++ tail →
        ZipData code e body trailer content' → Comparable w data →
        taken ++ data.take n <+: body := by
      intro w body trailer tail content' heq hdata' hw
      have hbody := comparable_body heq hw
      rw [← List.take_append_drop n data] at hbody
      exact stored_length hdata' hmethod hbody hlength
    rw [← hselected.target_eq] at hholds hfine
    have hout := zipOutput_outputs (x := data.take n) cb hholds hfine
    generalize zipOutput cb r (data.take n) = result at hout
    cases hout with
    | gaveUp hfails => exact explains_gaveUp hfails
    | @wrong r' error herror hwrong =>
      have hne : error ≠ .done := by
        cases herror with
        | inl herror => rw [herror]; decide
        | inr herror => rw [herror]; decide
      refine explains_wrong hne fun w o hrest hw => ?_
      obtain ⟨body, trailer, content', w', o', heq, _, hdata', _⟩ := hrest
      obtain ⟨_, _, hchecked⟩ := store_cases hdata' hmethod
      obtain ⟨more, hmore⟩ := hbody_of heq hdata' hw
      have hbody := (hchecked htarget).2.fine
      rw [← hmore, ← hselected.target_eq] at hbody
      exact hwrong hbody.of_append
    | @adds content log hholds' hfine' hlog =>
      rw [hselected.target_eq] at hholds' hfine' hlog
      dsimp only
      split
      . next hgoes =>
        have hless : (taken ++ data.take n).length < e.csize.toNat := by
          rw [List.length_append]
          omega
        refine ⟨.body e foundBoot (taken ++ data.take n) (taken ++ data.take n),
          e.target.shows (data.take n), ?_, hlog, ?_, .inl ?_⟩
        . refine .stored hstate hselected hheader hmethod hplain htarget hsizes (.inr hless) ?_
            hholds' hfine'
          rw [List.length_append, htaken, hskip, Nat.sub_add_eq]
        . apply derives_body
          intro body trailer content' hdata' hbody
          have hbody' := stored_length hdata' hmethod hbody hlength
          obtain ⟨_, _, hchecked⟩ := store_cases hdata' hmethod
          rw [(hchecked htarget).1]
          obtain ⟨z, hz⟩ := hbody'
          refine ⟨⟨z, hz⟩, e.target.shows z, ?_⟩
          rw [← shows_append, hz]
        . apply List.ne_nil_of_length_pos
          have hpositive := List.length_pos_iff.mpr hdata
          omega
      . next hdone =>
        have hcomplete : (taken ++ data.take n).length = e.csize.toNat := by
          rw [List.length_append]
          omega
        have hchecks : Zip.entryError { r.zip with content, skip := r.zip.skip - n } = none
            ↔ Checked e.target r.zip.crcExpected r.zip.usize (taken ++ data.take n) :=
          entryError_eq_none hselected.target_eq hholds' hfine'
        rw [hheader.crc_eq, hheader.usize_eq] at hchecks
        refine explains_entryDone hselected hlog (.inr (rank_data hstate)) ?_ ?_
        . intro herror u o hbehind
          refine ⟨taken ++ data.take n, [], taken ++ data.take n, u, o, ?_, ?_, ?_, hbehind⟩
          . rw [List.append_assoc]
            rfl
          . rw [shows_append, List.append_assoc]
          . exact .stored hmethod hplain htarget hsizes (hchecks.mp herror)
        . intro w o hrest hw
          rw [← List.take_append_drop n data] at hw
          obtain ⟨content', u, o', hu, hdata', ho, hbehind⟩ :=
            stored_rest hmethod hcomplete hrest hw.of_append
          obtain ⟨_, _, hchecked⟩ := store_cases hdata' hmethod
          obtain ⟨hcontent, hchecked⟩ := hchecked htarget
          rw [hcontent, shows_append, List.append_assoc, List.append_right_inj] at ho
          exact ⟨hchecks.mpr hchecked, u, o', hu, ho, hbehind⟩

end Data

section Inflate

variable {e : ZipEntry} {foundBoot : Bool} {input content : List UInt8}

/-- What an implementing inflater does in one call. -/
structure Inflates (D : Decoder ι UInt8 UInt8) (code : List UInt8 → Option (List UInt8))
    (input content data : List UInt8) (d : Decoded ι UInt8) : Prop where
  session : d.status = .needsMoreInput ∨ d.status = .hasMoreOutput →
    D.Session tinflLzDictSize d.state (input ++ data.take d.read) (content ++ d.output)
  done : d.status = .done → code (input ++ data.take d.read) = some (content ++ d.output)
  needsMoreInput : d.status = .needsMoreInput →
    data.take d.read = data ∧ data.drop d.read = [] ∧ code (input ++ data) = none
  hasMoreOutput : d.status = .hasMoreOutput → d.output ≠ []
  proceeds : ∀ {body content'}, code body = some content' → Comparable body (input ++ data) →
    d.status ≠ .failed ∧ input ++ data.take d.read <+: body ∧ content ++ d.output <+: content'

theorem inflates_decode (hD : D.Implements tinflLzDictSize code) {s : ι}
    (h : D.Session tinflLzDictSize s input content) (data : List UInt8)
    : Inflates D code input content data (D.decode s data (content.length % tinflLzDictSize)) where
  session := fun hstatus => .call data h hstatus
  done := fun hstatus => hD.done h data hstatus
  needsMoreInput := by
    intro hstatus
    obtain ⟨hread, hnone⟩ := hD.needsMoreInput h data hstatus
    exact ⟨List.take_of_length_le hread, List.drop_eq_nil_of_le hread, hnone⟩
  hasMoreOutput := fun hstatus => hD.hasMoreOutput h data hstatus
  proceeds := fun hcode hbody => hD.proceeds h data hcode hbody

theorem dictOfs_append (content output : List UInt8)
    : (content.length % tinflLzDictSize + output.length) &&& (tinflLzDictSize - 1)
        = (content ++ output).length % tinflLzDictSize := by
  have hpow : tinflLzDictSize - 1 = 2 ^ 15 - 1 := rfl
  rw [hpow, Nat.and_two_pow_sub_one_eq_mod, List.length_append]
  exact Nat.mod_add_mod _ _ _

/-- The input of the inflater is the start of the body, and its output that of the contents. -/
theorem inflates_data {d : Decoded ι UInt8} {body trailer content' : List UInt8}
    (hd : Inflates D code input content data d) (hmethod : e.method = zipMethodDeflate)
    (hdata : ZipData code e body trailer content') (hbody : Comparable body (input ++ data))
    : d.status ≠ .failed ∧ input ++ data.take d.read <+: body
        ∧ ∃ z, e.target.shows content' = e.target.shows (content ++ d.output) ++ z := by
  obtain ⟨hfailed, hinput, z, hz⟩ := hd.proceeds (deflate_cases hdata hmethod).1 hbody
  exact ⟨hfailed, hinput, e.target.shows z, by rw [← shows_append, hz]⟩

/-- The rest of an archive at the end of a compressed body. -/
theorem inflated_rest {d : Decoded ι UInt8} {w : List UInt8} {o : List ZipAtom}
    (hD : D.Implements tinflLzDictSize code) (hd : Inflates D code input content data d)
    (hdone : d.status = .done) (hmethod : e.method = zipMethodDeflate)
    (hrest : ZipSpot.Rest code cb bundle (.body e foundBoot input content) w o)
    (hw : Comparable w data)
    : ∃ trailer u o', w = data.take d.read ++ (trailer ++ u)
        ∧ ZipData code e (input ++ data.take d.read) trailer (content ++ d.output)
        ∧ o = e.target.shows d.output ++ (e.ends cb ++ o')
        ∧ Behind code cb bundle e foundBoot u o' := by
  obtain ⟨body, trailer, content', u, o', heq, ho, hdata, hbehind⟩ := hrest
  have hcode := (deflate_cases hdata hmethod).1
  obtain ⟨_, hinput, _⟩ := hd.proceeds hcode (comparable_body heq hw)
  have hbody := hD.prefixFree (hd.done hdone) hcode hinput
  have hcontent := hd.done hdone
  rw [hbody, hcode, Option.some.injEq] at hcontent
  rw [← hbody, List.append_assoc, List.append_right_inj] at heq
  rw [hcontent, shows_append, List.append_assoc, List.append_right_inj] at ho
  rw [← hbody, hcontent] at hdata
  exact ⟨trailer, u, o', heq, hdata, ho, hbehind⟩

/-- The body ends, and a data descriptor comes behind it. -/
theorem derives_descriptor {d : Decoded ι UInt8}
    (hD : D.Implements tinflLzDictSize code) (hd : Inflates D code input content data d)
    (hdone : d.status = .done) (hmethod : e.method = zipMethodDeflate)
    : Reader.Derives (ZipSpot.Rest code cb bundle) (.body e foundBoot input content)
        (.trailer e foundBoot (input ++ data.take d.read) (content ++ d.output) [])
        (data.take d.read) (data.drop d.read) (e.target.shows d.output) where
  sound := by
    intro u o hrest
    obtain ⟨trailer, w', o', hu, ho, hdata, hbehind⟩ := hrest
    refine ⟨_, trailer, _, w', o', ?_, ?_, hdata, hbehind⟩
    . rw [List.append_assoc, ← hu]
      rfl
    . rw [ho, shows_append, List.append_assoc]
  complete := by
    intro w o hrest hw
    rw [List.take_append_drop] at hw
    obtain ⟨trailer, u, o', hw', hdata, ho, hbehind⟩ :=
      inflated_rest hD hd hdone hmethod hrest hw
    exact ⟨trailer ++ u, _, hw', ho, trailer, u, o', rfl, rfl, hdata, hbehind⟩

theorem explains_inflateRound (hD : D.Implements tinflLzDictSize code)
    (hstate : r.zip.state = .data) (hselected : Selected bundle r.zip e foundBoot)
    (hheader : HeaderRead r.zip e.header) (hmethod : e.method = zipMethodDeflate)
    (hsession : D.Session tinflLzDictSize r.zip.inflater input content)
    (hdict : r.zip.dictOfs = content.length % tinflLzDictSize)
    (hholds : r.zip.content.Holds e.target content) (hfine : ZipFine e.target content)
    : (zipMeaning D code cb bundle).Explains (.body e foundBoot input content) r data
        (inflateRound D cb r data) := by
  unfold inflateRound
  have hd := inflates_decode hD hsession data
  rw [← hdict] at hd
  dsimp only
  generalize D.decode r.zip.inflater data r.zip.dictOfs = d at hd ⊢
  split
  . next hfailed =>
    refine explains_wrong (by decide) fun w o hrest hw => ?_
    obtain ⟨body, trailer, content', w', o', heq, _, hdata, _⟩ := hrest
    exact (inflates_data hd hmethod hdata (comparable_body heq hw)).1 hfailed
  . next hgood =>
    rw [← hselected.target_eq] at hholds hfine
    have hout := zipOutput_outputs (r := { r with zip := { r.zip with inflater := d.state } })
      (x := d.output) cb hholds hfine
    generalize zipOutput cb { r with zip := { r.zip with inflater := d.state } } d.output = result
      at hout
    cases hout with
    | gaveUp hfails => exact explains_gaveUp hfails
    | @wrong r' error herror hwrong =>
      have hne : error ≠ .done := by
        cases herror with
        | inl herror => rw [herror]; decide
        | inr herror => rw [herror]; decide
      refine explains_wrong hne fun w o hrest hw => ?_
      obtain ⟨body, trailer, content', w', o', heq, _, hdata, _⟩ := hrest
      obtain ⟨_, _, more, hmore⟩ :=
        hd.proceeds (deflate_cases hdata hmethod).1 (comparable_body heq hw)
      have hbody := fine_of_data hdata
      rw [← hmore, ← hselected.target_eq] at hbody
      exact hwrong hbody.of_append
    | @adds content' log hholds' hfine' hlog =>
      rw [hselected.target_eq] at hholds' hfine' hlog
      dsimp only
      rw [hdict, dictOfs_append]
      have hderives : ∀ left, data = data.take d.read ++ left →
          Reader.Derives (ZipSpot.Rest code cb bundle) (.body e foundBoot input content)
            (.body e foundBoot (input ++ data.take d.read) (content ++ d.output))
            (data.take d.read) left (e.target.shows d.output) := by
        intro left hleft
        apply derives_body
        intro body trailer content'' hdata hbody
        rw [← hleft] at hbody
        exact (inflates_data hd hmethod hdata hbody).2
      split
      . next hdone =>
        split
        . next hdescribed =>
          rw [hheader.flags_eq] at hdescribed
          refine ⟨_, _, ?_, hlog, derives_descriptor hD hd hdone hmethod,
            .inr (rank_data hstate)⟩
          exact .descriptor rfl rfl hselected hheader hmethod hdescribed (hd.done hdone) hholds'
            hfine' (Nat.zero_lt_succ 11) (.inl rfl)
        . next hplain =>
          rw [hheader.flags_eq] at hplain
          have hchecks : Zip.entryError { r.zip with
                content := content', inflater := d.state
                dictOfs := (content ++ d.output).length % tinflLzDictSize } = none
              ↔ Checked e.target r.zip.crcExpected r.zip.usize (content ++ d.output) :=
            entryError_eq_none hselected.target_eq hholds' hfine'
          rw [hheader.crc_eq, hheader.usize_eq] at hchecks
          refine explains_entryDone hselected hlog (.inr (rank_data hstate)) ?_ ?_
          . intro herror u o hbehind
            refine ⟨input ++ data.take d.read, [], content ++ d.output, u, o, ?_, ?_, ?_, hbehind⟩
            . rw [List.append_assoc]
              rfl
            . rw [shows_append, List.append_assoc]
            . exact .deflated hmethod hplain (hd.done hdone) (hchecks.mp herror)
          . intro w o hrest hw
            obtain ⟨trailer, u, o', hw', hdata, ho, hbehind⟩ :=
              inflated_rest hD hd hdone hmethod hrest hw
            obtain ⟨htrailer, hchecked⟩ := (deflate_cases hdata hmethod).2.1 hplain
            rw [htrailer] at hw'
            exact ⟨hchecks.mpr hchecked, u, o', hw', ho, hbehind⟩
      . next hnotDone =>
        split
        . next hneeds =>
          obtain ⟨htake, hdrop, hnone⟩ := hd.needsMoreInput hneeds
          rw [if_pos hdrop]
          have hderives' := hderives [] (by rw [htake, List.append_nil])
          rw [htake] at hderives'
          refine ⟨_, _, ?_, hlog, hderives', ?_⟩
          . have hthis := hd.session (.inl hneeds)
            rw [htake] at hthis
            exact .inflate hstate hselected hheader hmethod hthis rfl hholds' hfine'
          . intro o hrest
            obtain ⟨body, trailer, content'', w', o', heq, _, hdata, _⟩ := hrest
            rw [List.append_nil] at heq
            have hcode := (deflate_cases hdata hmethod).1
            have hbody : body <+: input ++ data := ⟨_, heq.symm⟩
            obtain ⟨_, hinput, _⟩ := hd.proceeds hcode (.inl hbody)
            rw [htake] at hinput
            rw [hbody.eq_of_length_le hinput.length_le, hnone] at hcode
            contradiction
        . next hnotNeeds =>
          have hmore : d.status = .hasMoreOutput := by
            cases hstatus : d.status with
            | failed => exact absurd hstatus hgood
            | done => exact absurd hstatus hnotDone
            | needsMoreInput => exact absurd hstatus hnotNeeds
            | hasMoreOutput => rfl
          have houtput := List.length_pos_iff.mpr (hd.hasMoreOutput hmore)
          refine ⟨_, _, .inflate hstate hselected hheader hmethod (hd.session (.inr hmore)) rfl
            hholds'
            hfine', hlog, hderives _ (List.take_append_drop _ _).symm, .inr ?_⟩
          have htotal := hholds'.total
          have hfits := hfine'.fits
          dsimp only [zipMeaning, ZipRun.rank]
          rw [hstate]
          dsimp only
          rw [htotal, hholds.total]
          rw [List.length_append] at hfits ⊢
          omega

end Inflate

section Descriptor

variable {e : ZipEntry} {foundBoot : Bool} {packed content taken : List UInt8} {need : Nat}

theorem descriptor_cases {trailer : List UInt8} {crc usize : UInt32}
    (h : ZipDescriptor trailer crc usize)
    : (trailer.length = 12 ∧ le32 trailer 0 ≠ zipDescriptorSig ∧ crc = le32 trailer 0
        ∧ usize = le32 trailer 8)
      ∨ trailer.length = 16 ∧ le32 trailer 0 = zipDescriptorSig ∧ crc = le32 trailer 4
        ∧ usize = le32 trailer 12 := by
  cases h with
  | plain hlength hplain => exact .inl ⟨hlength, hplain, rfl, rfl⟩
  | signed hlength hsigned => exact .inr ⟨hlength, hsigned, rfl, rfl⟩

/-- The bytes of a descriptor that are collected are all bytes of the descriptor. -/
theorem need_le_trailer {trailer : List UInt8} {crc usize : UInt32}
    (h : ZipDescriptor trailer crc usize) (hcomparable : Comparable trailer taken)
    (hneed : need = 12 ∨ need = 16 ∧ 12 ≤ taken.length ∧ le32 taken 0 = zipDescriptorSig)
    : need ≤ trailer.length := by
  cases descriptor_cases h with
  | inr hsigned => omega
  | inl hplain =>
    cases hneed with
    | inl hneed => omega
    | inr hneed =>
      obtain ⟨_, hlength, hsig⟩ := hneed
      rw [← le32_eq_of_comparable hcomparable (by omega) (by omega)] at hsig
      exact absurd hsig hplain.2.1

/-- A collected descriptor. -/
theorem trailer_eq {trailer left : List UInt8} {crc usize : UInt32}
    (h : ZipDescriptor trailer crc usize) (hcomparable : Comparable trailer taken)
    (hneed : need = 12 ∨ need = 16 ∧ 12 ≤ taken.length ∧ le32 taken 0 = zipDescriptorSig)
    (hlength : taken.length = need) (hplain : ¬(need = 12 ∧ le32 taken 0 = zipDescriptorSig))
    (hleft : Comparable (trailer ++ left) taken)
    : trailer = taken ∧ crc = le32 taken (if need = 16 then 4 else 0)
        ∧ usize = le32 taken ((if need = 16 then 4 else 0) + 8) := by
  have hle := need_le_trailer h hcomparable hneed
  have hsame : trailer.length = need → trailer = taken := by
    intro hsame
    rw [← List.append_nil taken] at hleft
    exact hleft.left_eq (hsame.trans hlength.symm)
  cases descriptor_cases h with
  | inl hshort =>
    have htwelve : need = 12 := by omega
    have htaken := hsame (by omega)
    rw [← htaken, htwelve]
    exact ⟨rfl, hshort.2.2⟩
  | inr hlong =>
    have hsixteen : need = 16 := by
      cases hneed with
      | inr hneed => exact hneed.1
      | inl hneed =>
        rw [le32_eq_of_comparable hcomparable (by omega) (by omega)] at hlong
        exact absurd ⟨hneed, hlong.2.1⟩ hplain
    have htaken := hsame (by omega)
    rw [← htaken, hsixteen]
    exact ⟨rfl, hlong.2.2⟩

theorem descriptor_of_taken
    (hneed : need = 12 ∨ need = 16 ∧ 12 ≤ taken.length ∧ le32 taken 0 = zipDescriptorSig)
    (hlength : taken.length = need) (hplain : ¬(need = 12 ∧ le32 taken 0 = zipDescriptorSig))
    : ZipDescriptor taken (le32 taken (if need = 16 then 4 else 0))
        (le32 taken ((if need = 16 then 4 else 0) + 8)) := by
  cases hneed with
  | inl hneed =>
    rw [hneed] at hlength hplain ⊢
    exact .plain hlength fun hsig => hplain ⟨rfl, hsig⟩
  | inr hneed =>
    rw [hneed.1] at hlength ⊢
    exact .signed hlength hneed.2.2

/-- A piece of a descriptor has been read. -/
theorem derives_trailer {x left : List UInt8} (hmethod : e.method = zipMethodDeflate)
    (hdescribed : e.hasDescriptor)
    (hneed : need = 12 ∨ need = 16 ∧ 12 ≤ taken.length ∧ le32 taken 0 = zipDescriptorSig)
    (hlength : (taken ++ x).length ≤ need)
    : Reader.Derives (ZipSpot.Rest code cb bundle) (.trailer e foundBoot packed content taken)
        (.trailer e foundBoot packed content (taken ++ x)) x left [] where
  sound := by
    intro u o hrest
    simp only [ZipSpot.Rest, List.append_assoc] at hrest ⊢
    exact hrest
  complete := by
    intro w o hrest hw
    obtain ⟨trailer, w', o', heq, ho, hdata, hbehind⟩ := hrest
    obtain ⟨crc, usize, htrailer, _⟩ := (deflate_cases hdata hmethod).2.2 hdescribed
    have hall := comparable_body heq hw
    have hle := need_le_trailer htrailer hall.of_append hneed
    rw [← List.append_assoc] at hall
    obtain ⟨v, hv⟩ := hall.split (Nat.le_trans hlength hle)
    rw [hv, List.append_assoc, List.append_assoc, List.append_right_inj] at heq
    refine ⟨v ++ w', o, heq, rfl, trailer, w', o', ?_, ho, hdata, hbehind⟩
    rw [hv, List.append_assoc, List.append_assoc, List.append_assoc]

theorem explains_descriptorRound (hstate : r.zip.state = .descriptor)
    (hselected : Selected bundle r.zip e foundBoot) (hheader : HeaderRead r.zip e.header)
    (hmethod : e.method = zipMethodDeflate) (hdescribed : e.hasDescriptor)
    (hcode : code packed = some content) (hholds : r.zip.content.Holds e.target content)
    (hfine : ZipFine e.target content) (hlt : r.zip.hdr.length < r.zip.hdrNeed)
    (hneed : r.zip.hdrNeed = 12
      ∨ r.zip.hdrNeed = 16 ∧ 12 ≤ r.zip.hdr.length ∧ le32 r.zip.hdr 0 = zipDescriptorSig)
    (hdata : data ≠ [])
    : (zipMeaning D code cb bundle).Explains (.trailer e foundBoot packed content r.zip.hdr) r data
        (descriptorRound cb r data) := by
  unfold descriptorRound Zip.collect
  dsimp only
  generalize hn : min (r.zip.hdrNeed - r.zip.hdr.length) data.length = n
  have hpositive := List.length_pos_iff.mpr hdata
  have htaken : (data.take n).length = n := by
    rw [List.length_take]
    omega
  have hmore : data.take n ≠ [] := by
    apply List.ne_nil_of_length_pos
    omega
  have hlength : (r.zip.hdr ++ data.take n).length ≤ r.zip.hdrNeed := by
    rw [List.length_append]
    omega
  have hneed' : r.zip.hdrNeed = 12 ∨ r.zip.hdrNeed = 16
      ∧ 12 ≤ (r.zip.hdr ++ data.take n).length
      ∧ le32 (r.zip.hdr ++ data.take n) 0 = zipDescriptorSig := by
    cases hneed with
    | inl hneed => exact .inl hneed
    | inr hneed =>
      rw [le32_append (by omega), List.length_append]
      exact .inr ⟨hneed.1, by omega, hneed.2.2⟩
  split
  . next hless =>
    refine ⟨_, [], ?_, (List.append_nil _).symm, derives_trailer hmethod hdescribed hneed hlength,
      .inl hmore⟩
    exact .descriptor rfl hstate hselected hheader hmethod hdescribed hcode hholds hfine hless
      hneed'
  . next hfull =>
    have hcomplete : (r.zip.hdr ++ data.take n).length = r.zip.hdrNeed := by omega
    split
    . next hsigned =>
      refine ⟨_, [], ?_, (List.append_nil _).symm, derives_trailer hmethod hdescribed hneed hlength,
        .inl hmore⟩
      refine .descriptor rfl hstate hselected hheader hmethod hdescribed hcode hholds hfine ?_
        (.inr ⟨rfl, ?_, hsigned.2⟩)
      . dsimp only
        omega
      . omega
    . next hplain =>
      have hchecks : Zip.entryError { r.zip with
            hdr := r.zip.hdr ++ data.take n
            crcExpected := le32 (r.zip.hdr ++ data.take n) (if r.zip.hdrNeed = 16 then 4 else 0)
            usize := le32 (r.zip.hdr ++ data.take n)
              ((if r.zip.hdrNeed = 16 then 4 else 0) + 8) } = none
          ↔ Checked e.target
            (le32 (r.zip.hdr ++ data.take n) (if r.zip.hdrNeed = 16 then 4 else 0))
            (le32 (r.zip.hdr ++ data.take n) ((if r.zip.hdrNeed = 16 then 4 else 0) + 8)) content :=
        entryError_eq_none hselected.target_eq hholds hfine
      refine explains_entryDone hselected (List.append_nil _).symm (.inl hmore) ?_ ?_
      . intro herror u o hbehind
        refine ⟨r.zip.hdr ++ data.take n, u, o, ?_, rfl, ?_, hbehind⟩
        . rw [List.append_assoc]
        . exact .described hmethod hdescribed hcode
            (descriptor_of_taken hneed' hcomplete hplain) (hchecks.mp herror)
      . intro w o hrest hw
        obtain ⟨trailer, w', o', heq, ho, hdata', hbehind⟩ := hrest
        obtain ⟨crc, usize, htrailer, hchecked⟩ := (deflate_cases hdata' hmethod).2.2 hdescribed
        have hall : Comparable (trailer ++ w') (r.zip.hdr ++ data.take n) := by
          rw [← List.take_append_drop n data] at hw
          rw [← heq, Comparable.append_iff]
          exact hw.of_append
        obtain ⟨hsame, hcrc, husize⟩ := trailer_eq htrailer
          (hall.of_start (List.prefix_append _ _)) hneed' hcomplete hplain hall
        rw [hsame, List.append_assoc, List.append_right_inj] at heq
        rw [hcrc, husize] at hchecked
        exact ⟨hchecks.mpr hchecked, w', o', heq, ho, hbehind⟩

end Descriptor

end ZZRel
