import ZZ9000.FwRelease.ZipNames
import ZZ9000.FwRelease.ZipContents

/-!
This module contains what the states of the ZIP readers mean: which rests of archives they stand for.
-/

namespace ZZRel

open Streams

section Bytes

theorem getD_append {p : List UInt8} {i : Nat} (h : i < p.length) (q : List UInt8)
    : (p ++ q).getD i 0 = p.getD i 0 := by
  rw [List.getD_eq_getElem?_getD, List.getD_eq_getElem?_getD, List.getElem?_append_left h]

theorem le32_append {p : List UInt8} {i : Nat} (h : i + 4 ≤ p.length) (q : List UInt8)
    : le32 (p ++ q) i = le32 p i := by
  unfold le32
  rw [getD_append (by omega), getD_append (by omega), getD_append (by omega),
    getD_append (by omega)]

/-- Bytes that agree start with the same signature. -/
theorem le32_eq_of_comparable {w v : List UInt8} (h : Comparable w v) (hw : 4 ≤ w.length)
    (hv : 4 ≤ v.length)
    : le32 w 0 = le32 v 0 := by
  cases h with
  | inl hle =>
    obtain ⟨u, hu⟩ := hle
    rw [← hu, le32_append (by omega)]
  | inr hge =>
    obtain ⟨u, hu⟩ := hge
    rw [← hu, le32_append (by omega)]

end Bytes

section Spots

variable (code : List UInt8 → Option (List UInt8)) (cb : ZipCallbacks) (bundle : Bool)

/-- What comes behind an entry. -/
def Behind (e : ZipEntry) (foundBoot : Bool) (w : List UInt8) (o : List ZipAtom) : Prop :=
  if bundle = false ∧ e.target ≠ .none then
    w = [] ∧ o = []
  else
    ZipArchive cb code bundle e.root (foundBoot || e.target == .boot) w o

/-- Where a reader is in an archive. -/
inductive ZipSpot where
  | boundary (root : List UInt8) (foundBoot : Bool) (taken : List UInt8)
  | body (e : ZipEntry) (foundBoot : Bool) (taken content : List UInt8)
  | trailer (e : ZipEntry) (foundBoot : Bool) (body content taken : List UInt8)

/-- The rests of archives at a spot, and what the callbacks get of them. -/
def ZipSpot.Rest : ZipSpot → List UInt8 → List ZipAtom → Prop
  | .boundary root foundBoot taken, w, o =>
    ZipArchive cb code bundle root foundBoot (taken ++ w) o
  | .body e foundBoot taken content, w, o =>
    ∃ body trailer content' w' o', taken ++ w = body ++ (trailer ++ w')
      ∧ e.target.shows content ++ o = e.target.shows content' ++ (e.ends cb ++ o')
      ∧ ZipData code e body trailer content' ∧ Behind code cb bundle e foundBoot w' o'
  | .trailer e foundBoot packed content taken, w, o =>
    ∃ trailer w' o', taken ++ w = trailer ++ w' ∧ o = e.ends cb ++ o'
      ∧ ZipData code e packed trailer content ∧ Behind code cb bundle e foundBoot w' o'

variable {code cb bundle} {root : List UInt8} {foundBoot : Bool}

theorem archive_of_entry {e : ZipEntry} {body trailer content w : List UInt8} {o : List ZipAtom}
    (hopens : e.Opens bundle root foundBoot) (hdata : ZipData code e body trailer content)
    (h : Behind code cb bundle e foundBoot w o)
    : ZipArchive cb code bundle root foundBoot (e.opening ++ (body ++ (trailer ++ w)))
        (e.begins cb ++ (e.target.shows content ++ (e.ends cb ++ o))) := by
  unfold Behind at h
  split at h
  . next hlast =>
    rw [h.1, h.2, List.append_nil, List.append_nil]
    exact .image hlast.1 hopens hdata hlast.2
  . next hmore =>
    have hmore' : bundle = true ∨ e.target = .none := by
      rw [not_and_or, not_not, Bool.not_eq_false] at hmore
      exact hmore
    have hthis := ZipArchive.entry hopens hdata hmore' h
    unfold ZipEntry.atoms at hthis
    rw [List.append_assoc, List.append_assoc] at hthis
    exact hthis

/-- An archive is a central directory or starts with an entry. -/
theorem archive_cases {w : List UInt8} {o : List ZipAtom}
    (h : ZipArchive cb code bundle root foundBoot w o)
    : (bundle = true ∧ foundBoot = true ∧ w.length = 4 ∧ le32 w 0 = zipCentralSig ∧ o = [])
        ∨ ∃ e body trailer content w' o', e.Opens bundle root foundBoot
          ∧ ZipData code e body trailer content ∧ Behind code cb bundle e foundBoot w' o'
          ∧ w = e.opening ++ (body ++ (trailer ++ w'))
          ∧ o = e.begins cb ++ (e.target.shows content ++ (e.ends cb ++ o')) := by
  cases h with
  | central hbundle hlength hsig => exact .inl ⟨hbundle, rfl, hlength, hsig, rfl⟩
  | @image _ body trailer content _ e hbundle hopens hdata htarget =>
    refine .inr ⟨e, body, trailer, content, [], [], hopens, hdata, ?_, ?_, ?_⟩
    . unfold Behind
      rw [if_pos ⟨hbundle, htarget⟩]
      exact ⟨rfl, rfl⟩
    . rw [List.append_nil]
    . rw [List.append_nil]
      rfl
  | @entry _ body trailer content w' _ e o' hopens hdata hmore h =>
    refine .inr ⟨e, body, trailer, content, w', o', hopens, hdata, ?_, rfl, ?_⟩
    . unfold Behind
      rw [if_neg]
      . exact h
      . rw [not_and_or, not_not, Bool.not_eq_false]
        exact hmore
    . unfold ZipEntry.atoms
      rw [List.append_assoc, List.append_assoc]

namespace ZipEntry

variable {e : ZipEntry}

theorem length_opening (h : e.Opens bundle root foundBoot)
    : e.opening.length = zipLocalBytes + (e.nameLen.toNat + e.extraLen.toNat) := by
  unfold opening
  rw [List.length_append, List.length_append, h.header_length, h.name_length, h.extra_length]

theorem le32_opening (h : e.Opens bundle root foundBoot) (rest : List UInt8)
    : le32 (e.opening ++ rest) 0 = zipLocalSig := by
  unfold opening
  rw [List.append_assoc, le32_append (by rw [h.header_length]; decide), h.signature]

end ZipEntry

/-- The first bytes of an archive, if they are those of an entry. -/
theorem entry_of_archive {w v : List UInt8} {o : List ZipAtom}
    (h : ZipArchive cb code bundle root foundBoot w o) (hv : Comparable w v)
    (hlength : 4 ≤ v.length) (hsig : le32 v 0 = zipLocalSig)
    : ∃ e body trailer content w' o', e.Opens bundle root foundBoot
        ∧ ZipData code e body trailer content ∧ Behind code cb bundle e foundBoot w' o'
        ∧ w = e.opening ++ (body ++ (trailer ++ w'))
        ∧ o = e.begins cb ++ (e.target.shows content ++ (e.ends cb ++ o')) := by
  cases archive_cases h with
  | inl hcentral =>
    obtain ⟨_, _, hw, hcentral, _⟩ := hcentral
    rw [le32_eq_of_comparable hv (by omega) hlength, hsig] at hcentral
    exact absurd hcentral (by decide)
  | inr hentry => exact hentry

/-- A header is not the end of an archive. -/
theorem length_lt_of_archive {w v : List UInt8} {o : List ZipAtom}
    (h : ZipArchive cb code bundle root foundBoot w o) (hv : Comparable w v)
    (hsig : 4 ≤ v.length → le32 v 0 = zipLocalSig) (hlength : v.length ≤ zipLocalBytes)
    : v.length < w.length := by
  have hentry : ∀ {e : ZipEntry} {rest : List UInt8}, e.Opens bundle root foundBoot →
      w = e.opening ++ rest → v.length < w.length := by
    intro e rest hopens hw
    have hnamed := UInt16.toNat_inj.not.mpr hopens.named
    rw [UInt16.toNat_zero] at hnamed
    rw [hw, List.length_append, e.length_opening hopens]
    omega
  by_cases hshort : v.length < 4
  . cases archive_cases h with
    | inl hcentral =>
      rw [hcentral.2.2.1]
      exact hshort
    | inr h =>
      obtain ⟨e, body, trailer, content, w', o', hopens, _, _, hw, _⟩ := h
      exact hentry hopens hw
  . obtain ⟨e, body, trailer, content, w', o', hopens, _, _, hw, _⟩ :=
      entry_of_archive h hv (by omega) (hsig (by omega))
    exact hentry hopens hw

/-- A piece of a header, a name or the extra field has been read. -/
theorem derives_boundary {taken x left : List UInt8}
    (h : ∀ w o, ZipArchive cb code bundle root foundBoot w o →
      Comparable w (taken ++ x) → (taken ++ x).length ≤ w.length)
    : Reader.Derives (ZipSpot.Rest code cb bundle) (.boundary root foundBoot taken)
        (.boundary root foundBoot (taken ++ x)) x left [] where
  sound := by
    intro u o hrest
    simp only [ZipSpot.Rest, List.append_assoc] at hrest ⊢
    exact hrest
  complete := by
    intro w o hrest hcomparable
    have hlength := h _ _ hrest (Comparable.append_iff.mpr hcomparable.of_append)
    rw [List.length_append, List.length_append] at hlength
    obtain ⟨u, hu⟩ := hcomparable.split (by omega)
    refine ⟨u, o, hu, rfl, ?_⟩
    simp only [ZipSpot.Rest, List.append_assoc, hu] at hrest ⊢
    exact hrest

theorem shows_append (target : ZipTarget) (content more : List UInt8)
    : target.shows (content ++ more) = target.shows content ++ target.shows more := by
  unfold ZipTarget.shows
  split
  . rfl
  . exact List.map_append

/-- A piece of the data of an entry has been read. -/
theorem derives_body {e : ZipEntry} {taken content x y left : List UInt8}
    (h : ∀ body trailer content', ZipData code e body trailer content' →
      Comparable body (taken ++ (x ++ left)) →
      taken ++ x <+: body ∧ ∃ z, e.target.shows content' = e.target.shows (content ++ y) ++ z)
    : Reader.Derives (ZipSpot.Rest code cb bundle) (.body e foundBoot taken content)
        (.body e foundBoot (taken ++ x) (content ++ y)) x left (e.target.shows y) where
  sound := by
    intro u o hrest
    simp only [ZipSpot.Rest, shows_append, List.append_assoc] at hrest ⊢
    exact hrest
  complete := by
    intro w o hrest hcomparable
    obtain ⟨body, trailer, content', w', o', hw, ho, hdata, hfollows⟩ := hrest
    have hbody : body <+: taken ++ w := ⟨trailer ++ w', hw.symm⟩
    have hcomparable' : Comparable (taken ++ w) (taken ++ (x ++ left)) :=
      Comparable.append_iff.mpr hcomparable
    obtain ⟨hx, z, hz⟩ := h body trailer content' hdata (hcomparable'.of_start hbody)
    have hw' := hx.trans hbody
    rw [List.prefix_append_right_inj] at hw'
    obtain ⟨u, hu⟩ := hw'
    rw [hz, shows_append, List.append_assoc, List.append_assoc, List.append_right_inj] at ho
    refine ⟨u, z ++ (e.ends cb ++ o'), hu.symm, ho, body, trailer, content', w', o', ?_, ?_, hdata,
      hfollows⟩
    . rw [← hw, List.append_assoc, hu]
    . rw [hz, List.append_assoc]

end Spots

section Data

variable {code : List UInt8 → Option (List UInt8)} {e : ZipEntry} {body trailer content : List UInt8}

theorem store_cases (h : ZipData code e body trailer content) (hmethod : e.method = zipMethodStore)
    : trailer = [] ∧ body.length = e.csize.toNat
        ∧ (e.target ≠ .none → content = body ∧ Checked e.target e.crc e.usize body) := by
  have hne : e.method ≠ zipMethodDeflate := by
    rw [hmethod]
    decide
  cases h with
  | skipped _ _ htarget _ hlength _ => exact ⟨rfl, hlength, fun hne' => absurd htarget hne'⟩
  | stored _ _ _ hsizes hchecked =>
    refine ⟨rfl, ?_, fun _ => ⟨rfl, hchecked⟩⟩
    rw [hsizes]
    exact hchecked.length_eq
  | deflated hdeflate => exact absurd hdeflate hne
  | described hdeflate => exact absurd hdeflate hne

theorem deflate_cases (h : ZipData code e body trailer content)
    (hmethod : e.method = zipMethodDeflate)
    : code body = some content
        ∧ (¬e.hasDescriptor → trailer = [] ∧ Checked e.target e.crc e.usize content)
        ∧ (e.hasDescriptor → ∃ crc usize, ZipDescriptor trailer crc usize
          ∧ Checked e.target crc usize content) := by
  have hne : e.method ≠ zipMethodStore := by
    rw [hmethod]
    decide
  cases h with
  | skipped hstore => exact absurd hstore hne
  | stored hstore => exact absurd hstore hne
  | deflated _ hplain hcode hchecked =>
    exact ⟨hcode, fun _ => ⟨rfl, hchecked⟩, fun hdescribed => absurd hdescribed hplain⟩
  | described _ hdescribed hcode htrailer hchecked =>
    exact ⟨hcode, fun hplain => absurd hdescribed hplain, fun _ => ⟨_, _, htrailer, hchecked⟩⟩

/-- What is checked of the contents at the end of an entry includes what was checked before. -/
theorem fine_of_data (h : ZipData code e body trailer content) : ZipFine e.target content := by
  cases h with
  | skipped => exact ZipFine.nil _
  | stored _ _ _ _ hchecked => exact hchecked.fine
  | deflated _ _ _ hchecked => exact hchecked.fine
  | described _ _ _ _ hchecked => exact hchecked.fine

end Data

section Sim

variable {ι : Type} (D : Decoder ι UInt8 UInt8) (code : List UInt8 → Option (List UInt8))
variable (cb : ZipCallbacks) (bundle : Bool)

def zipReader : Reader (ZipRun ι) UInt8 ZipAtom ZipResult where
  round := zipRound D cb
  log := fun r => r.log.flatMap ZipEvent.atoms
  done := .done

structure HeaderFields (flags method : UInt16) (crcExpected csize usize : UInt32)
    (nameLen extraLen : UInt16) (header : List UInt8) : Prop where
  length_eq : header.length = zipLocalBytes
  signature : le32 header 0 = zipLocalSig
  flags_eq : flags = le16 header 6
  method_eq : method = le16 header 8
  crc_eq : crcExpected = le32 header 14
  csize_eq : csize = le32 header 18
  usize_eq : usize = le32 header 22
  nameLen_eq : nameLen = le16 header 26
  extraLen_eq : extraLen = le16 header 28
  named : nameLen ≠ 0
  name_lt : nameLen.toNat < 256

/-- The fields are those of a header. -/
def HeaderRead (z : Zip ι) (header : List UInt8) : Prop :=
  HeaderFields z.flags z.method z.crcExpected z.csize z.usize z.nameLen z.extraLen header

structure BoundaryFields (isBundle : Bool) (entryName root : List UInt8) (foundBoot : Bool)
    (root' : List UInt8) (foundBoot' : Bool) : Prop where
  bundle_eq : isBundle = bundle
  legacy : bundle = false → entryName = []
  root_eq : root = root'
  found_eq : foundBoot = foundBoot'

/-- What is known of the archive in front of an entry. -/
def AtBoundary (z : Zip ι) (root : List UInt8) (foundBoot : Bool) : Prop :=
  BoundaryFields bundle z.bundle z.entryName z.root z.foundBoot root foundBoot

structure SelectedFields (isBundle : Bool) (entryName root : List UInt8) (foundBoot : Bool)
    (target : ZipTarget) (e : ZipEntry) (foundBoot' : Bool) : Prop
    extends BoundaryFields bundle isBundle entryName root foundBoot e.root foundBoot' where
  target_eq : target = e.target
  path_eq : e.target ≠ .none → entryName = e.path

/-- The reader is inside the entry. -/
def Selected (z : Zip ι) (e : ZipEntry) (foundBoot : Bool) : Prop :=
  SelectedFields bundle z.bundle z.entryName z.root z.foundBoot z.target e foundBoot

/-- The state of a reader at a spot. -/
inductive ZipSim : ZipSpot → ZipRun ι → Prop where
  | header {r : ZipRun ι} {root taken : List UInt8} {foundBoot : Bool}
      (hstate : r.zip.state = .header) (hboundary : AtBoundary bundle r.zip root foundBoot)
      (htaken : r.zip.hdr = taken) (hneed : r.zip.hdrNeed = zipLocalBytes)
      (hlength : taken.length ≤ zipLocalBytes)
      (hsig : 4 ≤ taken.length → le32 taken 0 = zipLocalSig)
      : ZipSim (.boundary root foundBoot taken) r
  | name {r : ZipRun ι} {root taken : List UInt8} {foundBoot : Bool} (header got : List UInt8)
      (htaken : taken = header ++ got) (hstate : r.zip.state = .name)
      (hboundary : AtBoundary bundle r.zip root foundBoot) (hheader : HeaderRead r.zip header)
      (hlt : got.length < r.zip.nameLen.toNat + r.zip.extraLen.toNat)
      (hskip : r.zip.skip = r.zip.nameLen.toNat + r.zip.extraLen.toNat - got.length)
      (hname : got ≠ [] → r.zip.name = got.take r.zip.nameLen.toNat)
      : ZipSim (.boundary root foundBoot taken) r
  | skip {r : ZipRun ι} {e : ZipEntry} {foundBoot : Bool} {taken : List UInt8}
      (hstate : r.zip.state = .skip) (hselected : Selected bundle r.zip e foundBoot)
      (hheader : HeaderRead r.zip e.header) (hmethod : e.method = zipMethodStore)
      (hplain : ¬e.hasDescriptor) (htarget : e.target = .none) (hsizes : e.csize = e.usize)
      (hlt : taken.length < e.csize.toNat) (hskip : r.zip.skip = e.csize.toNat - taken.length)
      (hcrc : r.zip.content.crc = e.crc)
      : ZipSim (.body e foundBoot taken []) r
  | stored {r : ZipRun ι} {e : ZipEntry} {foundBoot : Bool} {taken : List UInt8}
      (hstate : r.zip.state = .data) (hselected : Selected bundle r.zip e foundBoot)
      (hheader : HeaderRead r.zip e.header) (hmethod : e.method = zipMethodStore)
      (hplain : ¬e.hasDescriptor) (htarget : e.target ≠ .none) (hsizes : e.csize = e.usize)
      (hlt : taken = [] ∨ taken.length < e.csize.toNat)
      (hskip : r.zip.skip = e.csize.toNat - taken.length)
      (hholds : r.zip.content.Holds e.target taken) (hfine : ZipFine e.target taken)
      : ZipSim (.body e foundBoot taken taken) r
  | inflate {r : ZipRun ι} {e : ZipEntry} {foundBoot : Bool} {input content : List UInt8}
      (hstate : r.zip.state = .data) (hselected : Selected bundle r.zip e foundBoot)
      (hheader : HeaderRead r.zip e.header) (hmethod : e.method = zipMethodDeflate)
      (hsession : D.Session tinflLzDictSize r.zip.inflater input content)
      (hdict : r.zip.dictOfs = content.length % tinflLzDictSize)
      (hholds : r.zip.content.Holds e.target content) (hfine : ZipFine e.target content)
      : ZipSim (.body e foundBoot input content) r
  | descriptor {r : ZipRun ι} {e : ZipEntry} {foundBoot : Bool} {packed content taken : List UInt8}
      (htaken : r.zip.hdr = taken) (hstate : r.zip.state = .descriptor)
      (hselected : Selected bundle r.zip e foundBoot)
      (hheader : HeaderRead r.zip e.header) (hmethod : e.method = zipMethodDeflate)
      (hdescribed : e.hasDescriptor) (hcode : code packed = some content)
      (hholds : r.zip.content.Holds e.target content) (hfine : ZipFine e.target content)
      (hlt : taken.length < r.zip.hdrNeed)
      (hneed : r.zip.hdrNeed = 12
        ∨ r.zip.hdrNeed = 16 ∧ 12 ≤ taken.length ∧ le32 taken 0 = zipDescriptorSig)
      : ZipSim (.trailer e foundBoot packed content taken) r

/-- Rounds that neither read nor write lower it. -/
def ZipRun.rank (r : ZipRun ι) : Nat :=
  match r.zip.state with
  | .data => ulongMax - r.zip.content.outTotal + 2
  | .header => if r.zip.hdr.length = zipLocalBytes then 1 else 0
  | _ => 0

def zipMeaning : (zipReader D cb).Meaning ZipSpot where
  Rest := ZipSpot.Rest code cb bundle
  Sim := ZipSim D code bundle
  rank := ZipRun.rank
  gaveUp := fun result => result = .errWrite ∧ ¬cb.Reliable

end Sim

end ZZRel
