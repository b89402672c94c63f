import ZZ9000.FwRelease.ZipRounds

/-!
This module contains how the ZIP readers go from the header and the name of an entry into its data.
-/

namespace ZZRel

open Streams

variable {ι : Type} {D : Decoder ι UInt8 UInt8} {code : List UInt8 → Option (List UInt8)}
variable {cb : ZipCallbacks} {bundle : Bool} {root : List UInt8} {foundBoot : Bool}

section Targets

variable {z : Zip ι} {target : ZipTarget}

/-- The target of an entry that may come next. -/
theorem entryTarget_of_name {path dir : List UInt8} (h : AtBoundary bundle z root foundBoot)
    (hname : ZipName bundle root foundBoot (cString z.name) target path dir)
    : entryTarget z = (some target, { z with
        root := dir, entryName := if target = .none then z.entryName else path }) := by
  unfold entryTarget
  unfold ZipName at hname
  split at hname
  . next hbundle =>
    rw [if_pos (h.bundle_eq.trans hbundle)]
    rw [← h.root_eq, ← h.found_eq] at hname
    exact bundleTargetName_of_name hname
  . next hbundle =>
    have hentry := h.legacy (Bool.eq_false_iff.mpr hbundle)
    rw [if_neg (by rw [h.bundle_eq]; exact hbundle)]
    rw [hname.dir_eq, hname.path_eq, ← h.root_eq, ← hentry, ite_self]
    cases hname.selects with
    | inl hboot => rw [if_pos (isTargetName_iff.mpr hboot.2), hboot.1]
    | inr hnone => rw [if_neg (mt isTargetName_iff.mp hnone.2), hnone.1]

theorem zipName_unique {target' : ZipTarget} {path path' dir dir' : List UInt8}
    (h : AtBoundary bundle z root foundBoot)
    (hname : ZipName bundle root foundBoot (cString z.name) target path dir)
    (hname' : ZipName bundle root foundBoot (cString z.name) target' path' dir')
    : target = target' ∧ path = path' ∧ dir = dir' := by
  unfold ZipName at hname hname'
  split at hname
  . next hbundle =>
    rw [if_pos hbundle] at hname'
    rw [← h.root_eq, ← h.found_eq] at hname hname'
    exact bundleName_unique hname hname'
  . next hbundle =>
    rw [if_neg hbundle] at hname'
    refine ⟨?_, hname.path_eq.trans hname'.path_eq.symm, hname.dir_eq.trans hname'.dir_eq.symm⟩
    cases hname.selects with
    | inl hboot =>
      cases hname'.selects with
      | inl hboot' => rw [hboot.1, hboot'.1]
      | inr hnone' => exact absurd hboot.2 hnone'.2
    | inr hnone =>
      cases hname'.selects with
      | inl hboot' => exact absurd hboot'.2 hnone.2
      | inr hnone' => rw [hnone.1, hnone'.1]

/-- Only the names of entries that may come next have a target. -/
theorem name_of_entryTarget {z' : Zip ι} (h : AtBoundary bundle z root foundBoot)
    (htarget : entryTarget z = (some target, z'))
    : ∃ path dir, ZipName bundle root foundBoot (cString z.name) target path dir := by
  unfold entryTarget at htarget
  unfold ZipName
  split at htarget
  . next hbundle =>
    obtain ⟨path, dir, hname, _⟩ := bundleName_of_target htarget
    rw [h.root_eq, h.found_eq] at hname
    refine ⟨path, dir, ?_⟩
    rw [if_pos (h.bundle_eq.symm.trans hbundle)]
    exact hname
  . next hbundle =>
    rw [h.bundle_eq] at hbundle
    rw [Prod.mk.injEq, Option.some.injEq] at htarget
    refine ⟨[], root, ?_⟩
    rw [if_neg hbundle]
    refine ⟨rfl, rfl, ?_⟩
    rw [← htarget.1, ← isTargetName_iff]
    split
    . next hlegacy => exact .inl ⟨rfl, hlegacy⟩
    . next hlegacy => exact .inr ⟨rfl, hlegacy⟩

end Targets

section Begin

variable {g : ZipSpot} {r before : ZipRun ι} {data : List UInt8} {used : Nat} {e : ZipEntry}

theorem begins_cases (cb : ZipCallbacks) (h : Selected bundle r.zip e foundBoot)
    : ∃ fails log, log.flatMap ZipEvent.atoms = r.log.flatMap ZipEvent.atoms ++ e.begins cb
        ∧ (fails = true → ¬cb.Reliable)
        ∧ (if r.zip.target = .none then (false, r) else r.begins cb r.zip.entryName)
          = (fails, { zip := r.zip, log }) := by
  rw [h.target_eq]
  unfold ZipEntry.begins
  by_cases hnone : e.target = .none
  . rw [if_pos hnone, if_neg fun h => h.1 hnone]
    exact ⟨false, r.log, (List.append_nil _).symm, (nomatch ·), rfl⟩
  . rw [if_neg hnone, h.path_eq hnone]
    unfold ZipRun.begins
    cases hbegin : cb.onBegin with
    | none =>
      rw [if_neg (by simp)]
      exact ⟨false, r.log, (List.append_nil _).symm, (nomatch ·), rfl⟩
    | some fails =>
      rw [if_pos (by simp [hnone])]
      refine ⟨fails r.log e.path, _, ?_, ?_, rfl⟩
      . rw [List.flatMap_append, List.flatMap_singleton]
        rfl
      . intro hfails hreliable
        rw [hreliable.onBegin fails hbegin] at hfails
        contradiction

theorem explains_fail {result : ZipResult} (hmore : result ≠ .more) (hdone : result ≠ .done)
    (h : ∀ w o, g.Rest code cb bundle w o → ¬Comparable w data)
    : (zipMeaning D code cb bundle).Explains g before data
        (afterEntry used (result, r.fail result)) := by
  rw [afterEntry_stops hmore]
  exact explains_wrong hdone h

/-- The rests of archives at `g` are the rests of the entry behind the bytes of this round. -/
structure BeginsEntry (code : List UInt8 → Option (List UInt8)) (cb : ZipCallbacks) (bundle : Bool)
    (root : List UInt8) (foundBoot : Bool) (g : ZipSpot) (e : ZipEntry) (x data : List UInt8)
    : Prop where
  sound : e.Opens bundle root foundBoot → ∀ u o,
    ZipSpot.Rest code cb bundle (.body e foundBoot [] []) u o →
    g.Rest code cb bundle (x ++ u) (e.begins cb ++ o)
  complete : ∀ w o, g.Rest code cb bundle w o → Comparable w data →
    e.Opens bundle root foundBoot ∧ ∃ u o', w = x ++ u ∧ o = e.begins cb ++ o'
      ∧ ZipSpot.Rest code cb bundle (.body e foundBoot [] []) u o'

theorem BeginsEntry.derives {n : Nat}
    (h : BeginsEntry code cb bundle root foundBoot g e (data.take n) data)
    (hopens : e.Opens bundle root foundBoot)
    : Reader.Derives (ZipSpot.Rest code cb bundle) g (.body e foundBoot [] []) (data.take n)
        (data.drop n) (e.begins cb) where
  sound := h.sound hopens
  complete := by
    intro w o hrest hw
    rw [List.take_append_drop] at hw
    exact (h.complete w o hrest hw).2

/-- An empty entry that is not selected ends at once. -/
theorem explains_emptyEntry {log : List ZipEvent}
    (h : BeginsEntry code cb bundle root foundBoot g e (data.take used) data)
    (hselected : Selected bundle r.zip e foundBoot) (hheader : HeaderRead r.zip e.header)
    (hopens : e.Opens bundle root foundBoot) (hcontent : r.zip.content.Holds e.target [])
    (hlog : log.flatMap ZipEvent.atoms = before.log.flatMap ZipEvent.atoms ++ e.begins cb)
    (hused : data.take used ≠ []) (hmethod : e.method = zipMethodStore) (hplain : ¬e.hasDescriptor)
    (htarget : e.target = .none) (hsizes : e.csize = e.usize) (hempty : e.usize = 0)
    : (zipMeaning D code cb bundle).Explains g before data
        (afterEntry used (zipEntryDone cb { zip := r.zip, log })) := by
  have hlength : ([] ++ [] : List UInt8).length = e.csize.toNat := by
    rw [hsizes, hempty]
    rfl
  have hchecks : r.zip.entryError = none ↔ e.crc = 0 := by
    rw [entryError_eq_none hselected.target_eq hcontent (ZipFine.nil _), hheader.crc_eq,
      hheader.usize_eq]
    constructor
    . intro hchecked
      exact hchecked.crc_eq.symm
    . intro hzero
      refine ⟨hzero.symm, ?_, ?_, ?_⟩
      . exact (congrArg UInt32.toNat hempty).symm
      . rw [htarget]
        simp
      . rw [htarget]
        simp
  refine explains_entryDone hselected hlog (.inl hused) ?_ ?_
  . intro herror u o hfollows
    refine h.sound hopens u _ ⟨[], [], [], u, o, rfl, rfl, ?_, hfollows⟩
    exact .skipped hmethod hplain htarget hsizes hlength fun _ => hchecks.mp herror
  . intro w o hrest hw
    obtain ⟨_, u, o', hu, ho, hrest'⟩ := h.complete w o hrest hw
    obtain ⟨content, u', o'', hu', hdata, ho', hfollows⟩ :=
      stored_rest hmethod hlength hrest' (.inr (List.nil_prefix))
    have hshows : ∀ content, e.target.shows content = [] := by
      intro content
      unfold ZipTarget.shows
      rw [if_pos htarget]
    rw [hshows, hshows] at ho'
    cases hdata with
    | skipped _ _ _ _ _ hzero =>
      refine ⟨hchecks.mpr (hzero hempty), u, o'', hu, ?_, ?_⟩
      . rw [ho]
        exact congrArg _ ho'
      . rw [hu']
        exact hfollows
    | stored _ _ hsome => exact absurd htarget hsome
    | deflated hdeflate =>
      rw [hmethod] at hdeflate
      exact absurd hdeflate (by decide)
    | described hdeflate =>
      rw [hmethod] at hdeflate
      exact absurd hdeflate (by decide)

theorem explains_beginData (h : BeginsEntry code cb bundle root foundBoot g e (data.take used) data)
    (hselected : Selected bundle r.zip e foundBoot) (hheader : HeaderRead r.zip e.header)
    (hnamed : e.name.length = e.nameLen.toNat) (hextra : e.extra.length = e.extraLen.toNat)
    (hname : ZipName bundle root foundBoot (cString e.name) e.target e.path e.root)
    (hcontent : r.zip.content.Holds e.target []) (hlog : r.log = before.log)
    (hused : data.take used ≠ [])
    : (zipMeaning D code cb bundle).Explains g before data
        (afterEntry used (zipBeginData D cb r)) := by
  have hflags : r.zip.flags = e.flags := hheader.flags_eq
  have hmethod : r.zip.method = e.method := hheader.method_eq
  have hcsize : r.zip.csize = e.csize := hheader.csize_eq
  have husize : r.zip.usize = e.usize := hheader.usize_eq
  have hcrc : r.zip.crcExpected = e.crc := hheader.crc_eq
  unfold zipBeginData
  dsimp only
  rw [hflags, hmethod, hcsize, husize]
  split
  . next hencrypted =>
    refine explains_fail (by decide) (by decide) fun w o hrest hw => ?_
    exact hencrypted (h.complete w o hrest hw).1.notEncrypted
  . next hencrypted =>
    split
    . next hzip64 =>
      refine explains_fail (by decide) (by decide) fun w o hrest hw => ?_
      have hsizes := (h.complete w o hrest hw).1.sized hzip64.1
      cases hzip64.2 with
      | inl hcsize => exact hsizes.1 hcsize
      | inr husize => exact hsizes.2 husize
    . next hzip64 =>
      have hopens : e.Opens bundle root foundBoot := {
        header_length := hheader.length_eq
        signature := hheader.signature
        name_length := hnamed
        named := by
          have hnonzero := hheader.named
          rw [hheader.nameLen_eq] at hnonzero
          exact hnonzero
        name_lt := by
          have hlt := hheader.name_lt
          rw [hheader.nameLen_eq] at hlt
          exact hlt
        extra_length := hextra
        notEncrypted := not_not.mp hencrypted
        sized := by
          intro hplain
          rw [not_and, not_or] at hzip64
          exact hzip64 hplain
        selects := hname }
      have hno : (∀ body trailer content, ¬ZipData code e body trailer content) →
          ∀ w o, g.Rest code cb bundle w o → ¬Comparable w data := by
        intro hno w o hrest hw
        obtain ⟨_, u, o', _, _, body, trailer, content, w', o'', _, _, hdata, _⟩ :=
          h.complete w o hrest hw
        exact hno body trailer content hdata
      obtain ⟨fails, log, hbegins, hfails, hbegin⟩ := begins_cases cb hselected
      rw [hbegin]
      dsimp only
      rw [hlog] at hbegins
      split
      . next hgave =>
        rw [afterEntry_stops (by decide)]
        exact explains_gaveUp (hfails hgave)
      . split
        . next hdeflate =>
          rw [afterEntry_more]
          refine ⟨_, _, ?_, hbegins, h.derives hopens, .inl hused⟩
          exact .inflate rfl hselected hheader hdeflate .init rfl hcontent (ZipFine.nil _)
        . next hdeflate =>
          split
          . next hunsupported =>
            refine explains_fail (by decide) (by decide) (hno fun body trailer content hdata => ?_)
            cases hdata with
            | skipped hstore hplain =>
              cases hunsupported with
              | inl hother => exact hother hstore
              | inr hdescribed => exact hplain hdescribed
            | stored hstore hplain =>
              cases hunsupported with
              | inl hother => exact hother hstore
              | inr hdescribed => exact hplain hdescribed
            | deflated hmethod => exact hdeflate hmethod
            | described hmethod => exact hdeflate hmethod
          . next hsupported =>
            rw [not_or, not_not] at hsupported
            obtain ⟨hstore, hplain⟩ := hsupported
            split
            . next hsizes =>
              refine explains_fail (by decide) (by decide)
                (hno fun body trailer content hdata => ?_)
              cases hdata with
              | skipped _ _ _ hsame => exact hsizes hsame
              | stored _ _ _ hsame => exact hsizes hsame
              | deflated hmethod => exact hdeflate hmethod
              | described hmethod => exact hdeflate hmethod
            . next hsizes =>
              rw [not_not] at hsizes
              split
              . next hempty =>
                rw [hselected.target_eq] at hempty
                exact explains_emptyEntry h hselected hheader hopens hcontent hbegins hused hstore
                  hplain hempty.1 hsizes hempty.2
              . next hmore =>
                rw [hselected.target_eq] at hmore
                split
                . next hnone =>
                  rw [hselected.target_eq] at hnone
                  rw [afterEntry_more]
                  refine ⟨_, _, ?_, hbegins, h.derives hopens, .inl hused⟩
                  refine .skip rfl hselected hheader hstore hplain hnone hsizes ?_ rfl hcrc
                  rw [hsizes, List.length_nil]
                  apply Nat.pos_of_ne_zero
                  intro hzero
                  exact hmore ⟨hnone, UInt32.toNat_inj.mp hzero⟩
                . next hsome =>
                  rw [hselected.target_eq] at hsome
                  rw [afterEntry_more]
                  refine ⟨_, _, ?_, hbegins, h.derives hopens, .inl hused⟩
                  exact .stored rfl hselected hheader hstore hplain hsome hsizes (.inl rfl) rfl
                    hcontent (ZipFine.nil _)

/-- The name of an entry is complete. -/
theorem explains_beginEntry (header name extra : List UInt8)
    (hsound : ∀ e : ZipEntry, e.Opens bundle root foundBoot → e.header = header → e.name = name →
      e.extra = extra → ∀ u o, ZipSpot.Rest code cb bundle (.body e foundBoot [] []) u o →
      g.Rest code cb bundle (data.take used ++ u) (e.begins cb ++ o))
    (hcomplete : ∀ w o, g.Rest code cb bundle w o → Comparable w data →
      ∃ e : ZipEntry, e.Opens bundle root foundBoot ∧ e.header = header ∧ e.name = name
        ∧ e.extra = extra ∧ ∃ u o', w = data.take used ++ u ∧ o = e.begins cb ++ o'
        ∧ ZipSpot.Rest code cb bundle (.body e foundBoot [] []) u o')
    (hboundary : AtBoundary bundle r.zip root foundBoot) (hheader : HeaderRead r.zip header)
    (hname : r.zip.name = name) (hnamed : name.length = r.zip.nameLen.toNat)
    (hextra : extra.length = r.zip.extraLen.toNat) (hlog : r.log = before.log)
    (hused : data.take used ≠ [])
    : (zipMeaning D code cb bundle).Explains g before data
        (afterEntry used (zipBeginEntry D cb r)) := by
  unfold zipBeginEntry
  have hselects : ∀ {e : ZipEntry}, e.Opens bundle root foundBoot → e.name = name →
      ZipName bundle root foundBoot (cString r.zip.name) e.target e.path e.root := by
    intro e hopens hsame
    rw [hname, ← hsame]
    exact hopens.selects
  cases htarget : entryTarget r.zip with
  | mk target z =>
    dsimp only
    cases target with
    | none =>
      refine explains_fail (by decide) (by decide) fun w o hrest hw => ?_
      obtain ⟨e, hopens, _, hsame, _⟩ := hcomplete w o hrest hw
      rw [entryTarget_of_name hboundary (hselects hopens hsame)] at htarget
      cases htarget
    | some target =>
      obtain ⟨path, dir, hzipName⟩ := name_of_entryTarget hboundary htarget
      have hz := entryTarget_of_name hboundary hzipName
      rw [htarget, Prod.mk.injEq] at hz
      obtain ⟨_, hz⟩ := hz
      have hbegins : BeginsEntry code cb bundle root foundBoot g
          ⟨header, name, extra, target, path, dir⟩ (data.take used) data := by
        constructor
        . exact fun hopens => hsound _ hopens rfl rfl rfl
        . intro w o hrest hw
          obtain ⟨e, hopens, hsame, hsame', hsame'', hrest'⟩ := hcomplete w o hrest hw
          obtain ⟨ht, hp, hd⟩ := zipName_unique hboundary hzipName (hselects hopens hsame')
          have heq : e = ⟨header, name, extra, target, path, dir⟩ := by
            rw [← hsame, ← hsame', ← hsame'', ht, hp, hd]
          rw [heq] at hopens hrest'
          exact ⟨hopens, hrest'⟩
      refine explains_beginData hbegins ?_ ?_ ?_ ?_ ?_ (ZipContent.holds_nil rfl rfl rfl) hlog hused
      . rw [hz]
        refine ⟨⟨hboundary.bundle_eq, ?_, rfl, hboundary.found_eq⟩, rfl, ?_⟩
        . intro hbundle
          unfold ZipName at hzipName
          rw [if_neg (by rw [hbundle]; decide)] at hzipName
          dsimp only
          rw [hboundary.legacy hbundle, hzipName.path_eq, ite_self]
        . intro hne
          exact if_neg hne
      . rw [hz]
        exact hheader
      . rw [hnamed, hheader.nameLen_eq]
        rfl
      . rw [hextra, hheader.extraLen_eq]
        rfl
      . rw [← hname]
        exact hzipName

end Begin

section Name

variable {r : ZipRun ι} {data header got : List UInt8}

/-- A result is kept in the reader, and without one the reader goes on. -/
def Settled (x : ZipResult × ZipRun ι) : Prop :=
  if x.1 = .more then
    x.2.zip.state ≠ .finished
  else
    x.2.zip.state = .finished ∧ x.2.zip.result = x.1

theorem settled_fail {result : ZipResult} (h : result ≠ .more) (r : ZipRun ι)
    : Settled (result, r.fail result) := by
  unfold Settled
  rw [if_neg h]
  exact ⟨rfl, rfl⟩

theorem settled_more {r : ZipRun ι} (h : r.zip.state ≠ .finished) : Settled (.more, r) := by
  unfold Settled
  rw [if_pos rfl]
  exact h

theorem settled_entryDone (r : ZipRun ι) : Settled (zipEntryDone cb r) := by
  unfold zipEntryDone
  split
  . next error herror => exact settled_fail (entryError_ne herror).2 r
  . dsimp only
    generalize (if r.zip.target = .boot then { r.zip with foundBoot := true } else r.zip) = z
    generalize (if z.target = .none then (false, ({ r with zip := z } : ZipRun ι)) else
      ZipRun.ends cb { r with zip := z } z.entryName) = result
    split
    . exact settled_fail (by decide) _
    . split
      . exact settled_fail (by decide) _
      . exact settled_more (nomatch ·)

theorem settled_beginData (r : ZipRun ι) : Settled (zipBeginData D cb r) := by
  unfold zipBeginData
  dsimp only
  generalize (if r.zip.target = .none then (false, r) else
    r.begins cb r.zip.entryName) = result
  split
  . exact settled_fail (by decide) _
  . split
    . exact settled_fail (by decide) _
    . split
      . exact settled_fail (by decide) _
      . split
        . exact settled_more (nomatch ·)
        . split
          . exact settled_fail (by decide) _
          . split
            . exact settled_fail (by decide) _
            . split
              . exact settled_entryDone _
              . split
                . exact settled_more (nomatch ·)
                . exact settled_more (nomatch ·)

theorem settled_beginEntry (r : ZipRun ι) : Settled (zipBeginEntry D cb r) := by
  unfold zipBeginEntry
  dsimp only
  split
  . exact settled_fail (by decide) _
  . exact settled_beginData _

/-- The test at the end of the name is that at the end of an entry. -/
theorem afterEntry_of_settled {x : ZipResult × ZipRun ι} {used : Nat} (h : Settled x)
    : (if x.1 ≠ .more ∨ x.2.zip.state = .finished then
        Round.stops x.2.zip.result x.2 else .goes used x.2)
        = afterEntry used x := by
  unfold Settled at h
  unfold afterEntry
  by_cases hmore : x.1 = .more
  . rw [if_pos hmore] at h
    rw [if_neg (by simp [hmore, h]), if_neg (not_not.mpr hmore)]
  . rw [if_pos (.inl hmore), if_pos hmore]

theorem shows_nil (target : ZipTarget) : target.shows [] = [] := by
  unfold ZipTarget.shows
  split <;> rfl

/-- What comes behind a header. -/
theorem entry_of_header {z : Zip ι} {v : List UInt8} {o : List ZipAtom}
    (hheader : HeaderRead z header)
    (h : ZipArchive cb code bundle root foundBoot (header ++ v) o)
    : ∃ e : ZipEntry, e.Opens bundle root foundBoot ∧ e.header = header
        ∧ e.name.length = z.nameLen.toNat ∧ e.extra.length = z.extraLen.toNat
        ∧ ∃ rest o', v = e.name ++ (e.extra ++ rest) ∧ o = e.begins cb ++ o'
          ∧ ZipSpot.Rest code cb bundle (.body e foundBoot [] []) rest o' := by
  have hv : Comparable (header ++ v) header := .inr (List.prefix_append _ _)
  obtain ⟨e, body, trailer, content, w', o', hopens, hdata, hfollows, heq, ho⟩ :=
    entry_of_archive h hv (by rw [hheader.length_eq]; decide) hheader.signature
  rw [heq, ← List.append_nil header] at hv
  have hsame := header_eq hopens hv hheader.length_eq
  refine ⟨e, hopens, hsame, ?_, ?_, body ++ (trailer ++ w'), _, ?_, ho, ?_⟩
  . rw [hopens.name_length, hheader.nameLen_eq, ← hsame]
    rfl
  . rw [hopens.extra_length, hheader.extraLen_eq, ← hsame]
    rfl
  . unfold ZipEntry.opening at heq
    rw [hsame, List.append_assoc, List.append_right_inj, List.append_assoc] at heq
    exact heq
  . refine ⟨body, trailer, content, w', o', rfl, ?_, hdata, hfollows⟩
    rw [shows_nil]
    rfl

theorem length_of_header {z : Zip ι} {w : List UInt8} {o : List ZipAtom}
    (hheader : HeaderRead z header)
    (h : ZipArchive cb code bundle root foundBoot w o) (hw : Comparable w header)
    : zipLocalBytes + (z.nameLen.toNat + z.extraLen.toNat) ≤ w.length := by
  obtain ⟨e, body, trailer, content, w', o', hopens, _, _, heq, _⟩ :=
    entry_of_archive h hw (by rw [hheader.length_eq]; decide) hheader.signature
  rw [heq, ← List.append_nil header] at hw
  have hsame := header_eq hopens hw hheader.length_eq
  have hname : e.nameLen = z.nameLen := by
    rw [hheader.nameLen_eq, ← hsame]
    rfl
  have hextra : e.extraLen = z.extraLen := by
    rw [hheader.extraLen_eq, ← hsame]
    rfl
  rw [heq, List.length_append, e.length_opening hopens, hname, hextra]
  exact Nat.le_add_right _ _

theorem explains_nameRound (hstate : r.zip.state = .name)
    (hboundary : AtBoundary bundle r.zip root foundBoot) (hheader : HeaderRead r.zip header)
    (hlt : got.length < r.zip.nameLen.toNat + r.zip.extraLen.toNat)
    (hskip : r.zip.skip = r.zip.nameLen.toNat + r.zip.extraLen.toNat - got.length)
    (hname : got ≠ [] → r.zip.name = got.take r.zip.nameLen.toNat) (hdata : data ≠ [])
    : (zipMeaning D code cb bundle).Explains (.boundary root foundBoot (header ++ got)) r data
        (nameRound D cb r data) := by
  unfold nameRound
  dsimp only
  generalize hn : min data.length r.zip.skip = n
  have hpositive := List.length_pos_iff.mpr hdata
  have htaken : (data.take n).length = n := by
    rw [List.length_take]
    omega
  have hmore : data.take n ≠ [] := by
    apply List.ne_nil_of_length_pos
    omega
  have hconsumed : r.zip.nameLen.toNat + r.zip.extraLen.toNat - r.zip.skip = got.length := by
    omega
  rw [hconsumed]
  -- the name so far
  have hname' : (if got.length < r.zip.nameLen.toNat then
        r.zip.name.take got.length ++ data.take (min (r.zip.nameLen.toNat - got.length) n)
      else
        r.zip.name) = (got ++ data.take n).take r.zip.nameLen.toNat := by
    split
    . next hshort =>
      rw [← List.take_take]
      exact take_append_head hname hshort _
    . next hlong =>
      have hgot : got ≠ [] := by
        intro hgot
        rw [hgot, List.length_nil] at hlong
        have hnamed := UInt16.toNat_inj.not.mpr hheader.named
        rw [UInt16.toNat_zero] at hnamed
        omega
      rw [List.take_append_of_le_length (Nat.le_of_not_lt hlong)]
      exact hname hgot
  rw [hname']
  split
  . next hgoes =>
    refine ⟨.boundary root foundBoot (header ++ got ++ data.take n), [], ?_,
      (List.append_nil _).symm, ?_, .inl hmore⟩
    . refine .name header (got ++ data.take n) (List.append_assoc _ _ _) hstate hboundary hheader ?_
        ?_ fun _ => rfl
      . dsimp only
        rw [List.length_append]
        omega
      . dsimp only
        rw [List.length_append]
        omega
    . apply derives_boundary
      intro w o harchive hw
      rw [List.append_assoc] at hw
      have hle := length_of_header hheader harchive hw.of_append
      rw [List.length_append, List.length_append, hheader.length_eq, htaken]
      omega
  . next hdone =>
    have hlength : (got ++ data.take n).length = r.zip.nameLen.toNat + r.zip.extraLen.toNat := by
      rw [List.length_append]
      omega
    rw [afterEntry_of_settled (settled_beginEntry _)]
    refine explains_beginEntry header ((got ++ data.take n).take r.zip.nameLen.toNat)
      ((got ++ data.take n).drop r.zip.nameLen.toNat) ?_ ?_ hboundary hheader rfl ?_ ?_ rfl hmore
    . intro e hopens hsame hsame' hsame'' u o hrest
      obtain ⟨body, trailer, content, w', o', hu, ho, hdata', hfollows⟩ := hrest
      have hopening : e.opening = header ++ (got ++ data.take n) := by
        unfold ZipEntry.opening
        rw [hsame, hsame', hsame'', List.take_append_drop]
      have hthis := archive_of_entry hopens hdata' hfollows
      rw [← hu, ← ho, shows_nil, hopening] at hthis
      simp only [ZipSpot.Rest, List.append_assoc, List.nil_append] at hthis ⊢
      exact hthis
    . intro w o hrest hw
      simp only [ZipSpot.Rest, List.append_assoc] at hrest
      obtain ⟨e, hopens, hsame, hname, hextra, rest, o', hv, ho, hrest'⟩ :=
        entry_of_header hheader hrest
      have hsum := congrArg List.length hv
      rw [List.length_append, List.length_append, List.length_append, hname, hextra] at hsum
      rw [← List.take_append_drop n data] at hw
      obtain ⟨u, hu⟩ := hw.split (by rw [htaken]; omega)
      rw [hu, ← List.append_assoc, ← List.append_assoc] at hv
      have hboth : (got ++ data.take n).length = (e.name ++ e.extra).length := by
        rw [hlength, List.length_append, hname, hextra]
      obtain ⟨hfields, hrest''⟩ := List.append_inj hv hboth
      rw [← hrest''] at hrest'
      refine ⟨e, hopens, hsame, ?_, ?_, u, o', hu, ho, hrest'⟩
      . rw [hfields, List.take_left' hname]
      . rw [hfields, List.drop_left' hname]
    . rw [List.length_take]
      dsimp only
      omega
    . rw [List.length_drop]
      dsimp only
      omega

end Name

end ZZRel
