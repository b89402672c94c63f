import ZZ9000.FwRelease.ZipReading

/-!
This module contains what the callbacks have been given when a ZIP reader is done: the files of a
bundle or the single image, checked.
-/

namespace ZZRel

open Streams

/-- An entry with the bytes behind its name and its contents. -/
structure ZipPart where
  entry : ZipEntry
  body : List UInt8
  trailer : List UInt8
  content : List UInt8

namespace ZipPart

variable (p : ZipPart)

def bytes : List UInt8 := p.entry.opening ++ (p.body ++ p.trailer)

/-- The header, the name and the bytes behind it make an entry. -/
def IsEntry (code : List UInt8 → Option (List UInt8)) (bundle : Bool) : Prop :=
  (∃ root foundBoot, p.entry.Opens bundle root foundBoot)
    ∧ ZipData code p.entry p.body p.trailer p.content

/-- The CRC-32 and the size that the archive states for the entry. -/
structure States (crc usize : UInt32) : Prop where
  described : p.entry.hasDescriptor → ZipDescriptor p.trailer crc usize
  plain : ¬p.entry.hasDescriptor → crc = p.entry.crc ∧ usize = p.entry.usize

def begun : List ZipAtom :=
  .begins p.entry.path :: (p.content.map .byte ++ [.ends p.entry.path])

/-- The contents are those of the entry and have passed all checks. -/
structure Delivered (code : List UInt8 → Option (List UInt8)) : Prop where
  content : p.entry.method = zipMethodStore ∧ p.content = p.body
    ∨ p.entry.method = zipMethodDeflate ∧ code p.body = some p.content
  stated : ∃ crc usize, p.States crc usize ∧ crc32 p.content = crc
    ∧ p.content.length = usize.toNat
  boot : p.entry.target = .boot → BootImage p.content
  zzm : p.entry.target = .zzm → ModuleImage p.content

end ZipPart

theorem delivered_of_data {code : List UInt8 → Option (List UInt8)} {e : ZipEntry}
    {body trailer content : List UInt8} (h : ZipData code e body trailer content)
    (htarget : e.target ≠ .none)
    : (ZipPart.mk e body trailer content).Delivered code := by
  have hthis : (e.method = zipMethodStore ∧ content = body
        ∨ e.method = zipMethodDeflate ∧ code body = some content)
      ∧ ∃ crc usize, (ZipPart.mk e body trailer content).States crc usize
        ∧ Checked e.target crc usize content := by
    cases h with
    | skipped _ _ hnone => exact absurd hnone htarget
    | stored hmethod hplain _ _ hchecked =>
      exact ⟨.inl ⟨hmethod, rfl⟩, _, _,
        ⟨fun hdescribed => absurd hdescribed hplain, fun _ => ⟨rfl, rfl⟩⟩, hchecked⟩
    | deflated hmethod hplain hcode hchecked =>
      exact ⟨.inr ⟨hmethod, hcode⟩, _, _,
        ⟨fun hdescribed => absurd hdescribed hplain, fun _ => ⟨rfl, rfl⟩⟩, hchecked⟩
    | described hmethod hdescribed hcode htrailer hchecked =>
      exact ⟨.inr ⟨hmethod, hcode⟩, _, _,
        ⟨fun _ => htrailer, fun hplain => absurd hdescribed hplain⟩, hchecked⟩
  obtain ⟨hcontent, crc, usize, hstates, hchecked⟩ := hthis
  exact ⟨hcontent, ⟨crc, usize, hstates, hchecked.crc_eq, hchecked.length_eq⟩, hchecked.boot,
    hchecked.zzm⟩

section Bundle

variable {ι : Type} {D : Decoder ι UInt8 UInt8} {code : List UInt8 → Option (List UInt8)}
variable {cb : ZipCallbacks} {pieces : List (List UInt8)} {fuel : Nat} {r : ZipRun ι}

def ZipPart.isBoot (p : ZipPart) : Bool := p.entry.target == .boot

def ZipPart.isSelected (p : ZipPart) : Bool := p.entry.target != .none

/-- What a complete bundle is made of, from some entry on. -/
structure Bundle (code : List UInt8 → Option (List UInt8)) (root : List UInt8) (foundBoot : Bool)
    (w dir : List UInt8) (parts : List ZipPart) : Prop where
  bytes : ∃ sig, sig.length = 4 ∧ le32 sig 0 = zipCentralSig
    ∧ w = parts.flatMap ZipPart.bytes ++ sig
  entries : ∀ p ∈ parts, p.IsEntry code true
  sameRoot : root = [] ∨ parts = [] ∨ root = dir
  names : ∀ p ∈ parts, SafeComponent dir ∧ backslash ∉ cString p.entry.name
    ∧ ∃ rest, cString p.entry.name = dir ++ slash :: rest
      ∧ BundlePath rest p.entry.target p.entry.path
  delivered : ∀ p ∈ parts, p.isSelected → p.Delivered code
  oneBoot : parts.countP ZipPart.isBoot = if foundBoot then 0 else 1

theorem bundle_of_archive {root w : List UInt8} {foundBoot : Bool} {o : List ZipAtom}
    (h : ZipArchive cb code true root foundBoot w o) (hbegin : cb.onBegin.isSome)
    (hend : cb.onEnd.isSome)
    : ∃ dir parts, Bundle code root foundBoot w dir parts
        ∧ o = (parts.filter ZipPart.isSelected).flatMap ZipPart.begun := by
  generalize hbundle : true = bundle at h
  induction h with
  | @central root sig _ hlength hsig =>
    refine ⟨root, [], ⟨⟨sig, hlength, hsig, rfl⟩, ?_, .inr (.inl rfl), ?_, ?_, rfl⟩, rfl⟩
    . exact fun p hp => absurd hp List.not_mem_nil
    . exact fun p hp => absurd hp List.not_mem_nil
    . exact fun p hp => absurd hp List.not_mem_nil
  | image hfalse =>
    rw [← hbundle] at hfalse
    contradiction
  | @entry root body trailer content w foundBoot e o hopens hdata _ h ih =>
    obtain ⟨dir, parts, hparts, ho⟩ := ih
    have hname := hopens.selects
    unfold ZipName at hname
    rw [if_pos hbundle.symm] at hname
    have hdir : ∀ p ∈ parts, e.root = dir := by
      intro p hp
      have hroot := hparts.sameRoot.resolve_left hname.dir_safe.nonempty
      exact hroot.resolve_left (List.ne_nil_of_mem hp)
    refine ⟨e.root, ⟨e, body, trailer, content⟩ :: parts, ?_, ?_⟩
    . constructor
      . obtain ⟨sig, hlength, hsig, hw⟩ := hparts.bytes
        refine ⟨sig, hlength, hsig, ?_⟩
        rw [hw, List.flatMap_cons]
        unfold ZipPart.bytes
        simp only [List.append_assoc]
      . intro p hp
        cases List.mem_cons.mp hp with
        | inl hfirst =>
          rw [hfirst, hbundle]
          exact ⟨⟨root, foundBoot, hopens⟩, hdata⟩
        | inr hrest => exact hparts.entries p hrest
      . exact hname.sameRoot.imp id .inr
      . intro p hp
        cases List.mem_cons.mp hp with
        | inl hfirst =>
          rw [hfirst]
          exact ⟨hname.dir_safe, hname.noBackslash, hname.inside⟩
        | inr hrest =>
          rw [hdir p hrest]
          exact hparts.names p hrest
      . intro p hp hselected
        cases List.mem_cons.mp hp with
        | inl hfirst =>
          rw [hfirst] at hselected ⊢
          exact delivered_of_data hdata (bne_iff_ne.mp hselected)
        | inr hrest => exact hparts.delivered p hrest hselected
      . rw [List.countP_cons, hparts.oneBoot]
        unfold ZipPart.isBoot
        dsimp only
        by_cases hboot : e.target = .boot
        . rw [hname.once hboot, hboot]
          rfl
        . have hbeq : (e.target == .boot) = false := beq_eq_false_iff_ne.mpr hboot
          rw [hbeq, Bool.or_false]
          rfl
    . rw [ho]
      unfold ZipEntry.atoms ZipEntry.begins ZipEntry.ends ZipTarget.shows
      by_cases hnone : e.target = .none
      . have hskipped : (ZipPart.mk e body trailer content).isSelected = false :=
          bne_eq_false_iff_eq.mpr hnone
        rw [List.filter_cons, hskipped]
        simp [hnone]
      . have hselected : (ZipPart.mk e body trailer content).isSelected = true :=
          bne_iff_ne.mpr hnone
        rw [List.filter_cons, hselected, if_pos rfl, List.flatMap_cons]
        unfold ZipPart.begun
        simp [hnone, hbegin, hend]

/-- A bundle reader that is done has delivered the files of a well-formed bundle. -/
theorem bundle_of_done (hD : D.Implements tinflLzDictSize code) (hbegin : cb.onBegin.isSome)
    (hend : cb.onEnd.isSome)
    (h : (zipReader D cb).feedAll fuel (zipStart D true) pieces = some (some .done, r))
    : ∃ w dir parts, w <+: pieces.flatten ∧ Bundle code [] false w dir parts
        ∧ r.log.flatMap ZipEvent.atoms
          = (parts.filter ZipPart.isSelected).flatMap ZipPart.begun := by
  obtain ⟨w, hw, harchive⟩ := archive_of_done hD h
  obtain ⟨dir, parts, hparts, ho⟩ := bundle_of_archive harchive hbegin hend
  exact ⟨w, dir, parts, hw, hparts, ho⟩

theorem bundle_of_done_sample
    : ∃ fuel r, (zipReader emptyInflater (sampleCallbacks true)).feedAll fuel
        (zipStart emptyInflater true) [sampleBundleZip] = some (some .done, r)
        ∧ ∃ w dir parts, w <+: [sampleBundleZip].flatten
          ∧ Bundle emptyCode [] false w dir parts
          ∧ r.log.flatMap ZipEvent.atoms
            = (parts.filter ZipPart.isSelected).flatMap ZipPart.begun := by
  obtain ⟨fuel, r, h, _⟩ := done_of_archive [sampleBundleZip]
    emptyInflater_implements (sampleCallbacks_reliable true)
    (whole_flatten _) sampleBundleZip_archive
  exact ⟨fuel, r, h, bundle_of_done emptyInflater_implements rfl rfl h⟩

end Bundle

section Image

variable {ι : Type} {D : Decoder ι UInt8 UInt8} {code : List UInt8 → Option (List UInt8)}
variable {cb : ZipCallbacks} {pieces : List (List UInt8)} {fuel : Nat} {r : ZipRun ι}

theorem image_of_archive {root w : List UInt8} {foundBoot : Bool} {o : List ZipAtom}
    (h : ZipArchive cb code false root foundBoot w o) (hbegin : cb.onBegin = none)
    (hend : cb.onEnd = none)
    : ∃ (skipped : List ZipPart) (image : ZipPart),
        w = skipped.flatMap ZipPart.bytes ++ image.bytes
        ∧ (∀ p ∈ skipped, p.IsEntry code false ∧ ¬LegacyName (cString p.entry.name))
        ∧ image.IsEntry code false ∧ LegacyName (cString image.entry.name)
        ∧ image.Delivered code ∧ BootImage image.content
        ∧ o = image.content.map .byte := by
  generalize hbundle : false = bundle at h
  have hatoms : ∀ (e : ZipEntry) content, e.atoms cb content = e.target.shows content := by
    intro e content
    unfold ZipEntry.atoms ZipEntry.begins ZipEntry.ends
    simp [hbegin, hend]
  induction h with
  | central htrue =>
    rw [← hbundle] at htrue
    contradiction
  | @image root body trailer content foundBoot e _ hopens hdata htarget =>
    have hname := hopens.selects
    unfold ZipName at hname
    rw [if_neg (by rw [← hbundle]; decide)] at hname
    obtain ⟨hboot, hlegacy⟩ := hname.selects.resolve_right fun h => htarget h.1
    have hdelivered := delivered_of_data hdata htarget
    refine ⟨[], ⟨e, body, trailer, content⟩, rfl, ?_, ?_, hlegacy, hdelivered,
      hdelivered.boot hboot, ?_⟩
    . exact fun p hp => absurd hp List.not_mem_nil
    . exact ⟨⟨root, foundBoot, hopens⟩, hdata⟩
    . rw [hatoms]
      unfold ZipTarget.shows
      rw [if_neg htarget]
  | @entry root body trailer content w foundBoot e o hopens hdata hmore h ih =>
    have hnone : e.target = .none := by
      refine hmore.resolve_left fun htrue => ?_
      rw [← hbundle] at htrue
      contradiction
    have hname := hopens.selects
    unfold ZipName at hname
    rw [if_neg (by rw [← hbundle]; decide)] at hname
    obtain ⟨skipped, image, hw, hskipped, himage⟩ := ih
    refine ⟨⟨e, body, trailer, content⟩ :: skipped, image, ?_, ?_, ?_⟩
    . rw [hw, List.flatMap_cons]
      unfold ZipPart.bytes
      simp only [List.append_assoc]
    . intro p hp
      cases List.mem_cons.mp hp with
      | inl hfirst =>
        rw [hfirst]
        refine ⟨⟨⟨root, foundBoot, hopens⟩, hdata⟩, ?_⟩
        cases hname.selects with
        | inl hboot =>
          rw [hboot.1] at hnone
          contradiction
        | inr hother => exact hother.2
      | inr hrest => exact hskipped p hrest
    . rw [hatoms]
      unfold ZipTarget.shows
      rw [if_pos hnone]
      exact himage

/-- A single-image reader that is done has delivered the first `BOOT.bin` and nothing else. -/
theorem image_of_done (hD : D.Implements tinflLzDictSize code) (hbegin : cb.onBegin = none)
    (hend : cb.onEnd = none)
    (h : (zipReader D cb).feedAll fuel (zipStart D false) pieces = some (some .done, r))
    : ∃ (skipped : List ZipPart) (image : ZipPart),
        skipped.flatMap ZipPart.bytes ++ image.bytes <+: pieces.flatten
        ∧ (∀ p ∈ skipped, p.IsEntry code false ∧ ¬LegacyName (cString p.entry.name))
        ∧ image.IsEntry code false ∧ LegacyName (cString image.entry.name)
        ∧ image.Delivered code ∧ BootImage image.content
        ∧ r.log.flatMap ZipEvent.atoms = image.content.map .byte := by
  obtain ⟨w, hw, harchive⟩ := archive_of_done hD h
  obtain ⟨skipped, image, hbytes, himage⟩ := image_of_archive harchive hbegin hend
  rw [hbytes] at hw
  exact ⟨skipped, image, hw, himage⟩

theorem image_of_done_sample
    : ∃ fuel r, (zipReader emptyInflater (sampleCallbacks false)).feedAll fuel
        (zipStart emptyInflater false) [sampleImageZip] = some (some .done, r)
        ∧ ∃ (skipped : List ZipPart) (image : ZipPart),
          skipped.flatMap ZipPart.bytes ++ image.bytes <+: [sampleImageZip].flatten
          ∧ (∀ p ∈ skipped, p.IsEntry emptyCode false ∧ ¬LegacyName (cString p.entry.name))
          ∧ image.IsEntry emptyCode false ∧ LegacyName (cString image.entry.name)
          ∧ image.Delivered emptyCode ∧ BootImage image.content
          ∧ r.log.flatMap ZipEvent.atoms = image.content.map .byte := by
  obtain ⟨fuel, r, h, _⟩ := done_of_archive [sampleImageZip]
    emptyInflater_implements (sampleCallbacks_reliable false)
    (whole_flatten _) sampleImageZip_archive
  exact ⟨fuel, r, h, image_of_done emptyInflater_implements rfl rfl h⟩

end Image

end ZZRel
