import ZZ9000.FwRelease.ZipArchive

/-!
This module contains what the running checksums, the copied header and the limits of a ZIP reader say
about the contents of an entry.
-/

namespace ZZRel

/-- What is checked before the end of the contents. -/
structure ZipFine (target : ZipTarget) (data : List UInt8) : Prop where
  fits : data.length ≤ ulongMax
  boot : target = .boot → data.length ≤ bootMaxBytes
  zzm : target = .zzm → moduleHeaderBytes ≤ data.length →
    ∃ size, moduleHeaderOk (data.take moduleHeaderBytes) = some size
      ∧ data.length ≤ moduleHeaderBytes + size.toNat

theorem ZipFine.of_append {target : ZipTarget} {data more : List UInt8}
    (h : ZipFine target (data ++ more))
    : ZipFine target data where
  fits := Nat.le_trans (by simp) h.fits
  boot := fun htarget => Nat.le_trans (by simp) (h.boot htarget)
  zzm := by
    intro htarget hlength
    obtain ⟨size, hsize, hle⟩ := h.zzm htarget (Nat.le_trans hlength (by simp))
    rw [List.take_append_of_le_length hlength] at hsize
    exact ⟨size, hsize, Nat.le_trans (by simp) hle⟩

theorem ZipFine.nil (target : ZipTarget) : ZipFine target [] where
  fits := by simp
  boot := by simp
  zzm := by simp [moduleHeaderBytes]

theorem Checked.fine {target : ZipTarget} {crc usize : UInt32} {content : List UInt8}
    (h : Checked target crc usize content)
    : ZipFine target content where
  fits := by
    have hlt := usize.toNat_lt
    rw [h.length_eq]
    unfold ulongMax
    omega
  boot := fun htarget => (h.boot htarget).le_max
  zzm := by
    intro htarget _
    obtain ⟨size, hsize, hlength⟩ := (h.zzm htarget).header
    exact ⟨size, hsize, Nat.le_of_eq hlength⟩

/-- What is selected is not empty. -/
theorem Checked.nonempty {target : ZipTarget} {crc usize : UInt32} {content : List UInt8}
    (h : Checked target crc usize content) (htarget : target ≠ .none)
    : content ≠ [] := by
  intro hempty
  rw [hempty] at h
  cases target with
  | none => exact htarget rfl
  | boot => exact absurd (h.boot rfl).min_le (by decide)
  | zzm =>
    obtain ⟨size, _, hlength⟩ := (h.zzm rfl).header
    rw [List.length_nil] at hlength
    unfold moduleHeaderBytes at hlength
    omega

/-- The bytes of the header that are kept. -/
theorem take_append_head {head data : List UInt8} {n : Nat}
    (h : data ≠ [] → head = data.take n) (hlt : data.length < n) (more : List UInt8)
    : head.take data.length ++ more.take (n - data.length) = (data ++ more).take n := by
  rw [List.take_append, List.take_of_length_le (Nat.le_of_lt hlt)]
  congr 1
  by_cases hdata : data = []
  . simp [hdata]
  . rw [h hdata, List.take_take, Nat.min_eq_left (Nat.le_of_lt hlt), List.take_length]

namespace ZipContent

/-- What is known of the contents after `data`. -/
structure Holds (c : ZipContent) (target : ZipTarget) (data : List UInt8) : Prop where
  crc : c.crc = crc32 data
  total : c.outTotal = data.length
  bootHead : target = .boot → data ≠ [] → c.head = data.take bootHeaderBytes
  moduleHead : target = .zzm → data ≠ [] → c.head = data.take moduleHeaderBytes
  unchecked : target = .zzm → data.length < moduleHeaderBytes → c.moduleHeaderOk = false
  checked : target = .zzm → moduleHeaderBytes ≤ data.length →
    c.moduleHeaderOk = true
      ∧ ZZRel.moduleHeaderOk (data.take moduleHeaderBytes) = some c.moduleImageSize
      ∧ c.sha256.Absorbed (data.drop moduleHeaderBytes)

variable {c : ZipContent} {target : ZipTarget} {data x : List UInt8}

theorem holds_nil (hcrc : c.crc = 0) (htotal : c.outTotal = 0) (hmodule : c.moduleHeaderOk = false)
    : c.Holds target [] where
  crc := hcrc
  total := htotal
  bootHead := fun _ h => absurd rfl h
  moduleHead := fun _ h => absurd rfl h
  unchecked := fun _ _ => hmodule
  checked := fun _ h => absurd h (by decide)

/-- The bytes are accepted, or the contents cannot be right any more. -/
def Adds (c : ZipContent) (target : ZipTarget) (data x : List UInt8) : Prop :=
  (∃ c', c.add target x = (none, c')
      ∧ Holds { c' with outTotal := c'.outTotal + x.length } target (data ++ x)
      ∧ ZipFine target (data ++ x))
    ∨ ∃ c' error, c.add target x = (some error, c') ∧ (error = .errSize ∨ error = .errModule)
      ∧ ¬ZipFine target (data ++ x)

theorem adds_none (h : c.Holds .none data) (hfits : data.length + x.length ≤ ulongMax)
    : c.Adds .none data x := by
  refine .inl ⟨_, rfl, ?_, ?_⟩
  . exact {
      crc := by rw [h.crc, crc32_append]
      total := by rw [List.length_append, ← h.total]
      bootHead := by simp
      moduleHead := by simp
      unchecked := by simp
      checked := by simp }
  . exact { fits := by simpa using hfits, boot := by simp, zzm := by simp }

theorem add_boot (c : ZipContent) (x : List UInt8)
    : c.add .boot x = (if bootMaxBytes < c.outTotal + x.length then some .errSize else none, { c with
        crc := crc32Update c.crc x
        head :=
          if c.outTotal < bootHeaderBytes then
            c.head.take c.outTotal ++ x.take (bootHeaderBytes - c.outTotal)
          else
            c.head }) := by
  unfold add
  dsimp only
  split <;> rfl

theorem adds_boot (h : c.Holds .boot data) (hfits : data.length + x.length ≤ ulongMax)
    : c.Adds .boot data x := by
  unfold Adds
  rw [add_boot, h.total]
  by_cases hmax : bootMaxBytes < data.length + x.length
  . rw [if_pos hmax]
    refine .inr ⟨_, _, rfl, .inl rfl, fun hfine => ?_⟩
    have hle := hfine.boot rfl
    rw [List.length_append] at hle
    omega
  . rw [if_neg hmax]
    refine .inl ⟨_, rfl, ?_, ?_⟩
    . exact {
        crc := by rw [h.crc, crc32_append]
        total := by rw [List.length_append, ← h.total]
        bootHead := by
          intro _ _
          dsimp only
          split
          . next hlt => exact take_append_head (h.bootHead rfl) hlt _
          . next hge =>
            have hdata : data ≠ [] := by
              intro hdata
              rw [hdata] at hge
              exact hge (by decide)
            rw [List.take_append_of_le_length (Nat.le_of_not_lt hge)]
            exact h.bootHead rfl hdata
        moduleHead := by simp
        unchecked := by simp
        checked := by simp }
    . exact { fits := by simpa using hfits, boot := by simpa using hmax, zzm := by simp }

/-- The header is not complete. -/
theorem adds_short (h : c.Holds .zzm data) (hfits : data.length + x.length ≤ ulongMax)
    (hshort : data.length + x.length < moduleHeaderBytes)
    : c.Adds .zzm data x := by
  have hlt : c.outTotal < moduleHeaderBytes := by
    rw [h.total]
    omega
  have hmin : min (moduleHeaderBytes - c.outTotal) x.length = x.length := by
    rw [h.total]
    omega
  have hne : c.outTotal + x.length ≠ moduleHeaderBytes := by
    rw [h.total]
    omega
  have hok : c.moduleHeaderOk = false := h.unchecked rfl (by omega)
  refine .inl ⟨{ c with
    crc := crc32Update c.crc x, head := c.head.take c.outTotal ++ x.take x.length }, ?_, ?_, ?_⟩
  . unfold add addImage
    dsimp only
    rw [if_pos hlt, hmin, if_neg hne, if_pos (by simp [hok])]
  . exact {
      crc := by rw [h.crc, crc32_append]
      total := by rw [List.length_append, ← h.total]
      bootHead := by simp
      moduleHead := by
        intro _ _
        have htake : x.take x.length = x.take (moduleHeaderBytes - data.length) := by
          rw [List.take_length, List.take_of_length_le (by omega)]
        dsimp only
        rw [htake, h.total]
        exact take_append_head (h.moduleHead rfl) (by omega) _
      unchecked := fun _ _ => hok
      checked := by
        intro _ hlong
        rw [List.length_append] at hlong
        omega }
  . refine { fits := by simpa using hfits, boot := by simp, zzm := ?_ }
    intro _ hlong
    rw [List.length_append] at hlong
    omega

/-- The header has just been completed, or was complete before. -/
theorem adds_image (c' : ZipContent) {image : List UInt8}
    (hcrc : c'.crc = crc32 (data ++ x)) (htotal : c'.outTotal = data.length)
    (hfits : data.length + x.length ≤ ulongMax) (hlong : moduleHeaderBytes ≤ (data ++ x).length)
    (hhead : c'.head = (data ++ x).take moduleHeaderBytes) (hok : c'.moduleHeaderOk = true)
    (hsize : ZZRel.moduleHeaderOk ((data ++ x).take moduleHeaderBytes) = some c'.moduleImageSize)
    {hashed : List UInt8} (hhashed : c'.sha256.Absorbed hashed)
    (himage : hashed ++ image = (data ++ x).drop moduleHeaderBytes)
    (hadd : c.add .zzm x = c'.addImage x.length image)
    : c.Adds .zzm data x := by
  unfold Adds
  rw [hadd]
  unfold addImage
  rw [if_neg (by simp [hok])]
  by_cases hmax : moduleHeaderBytes + c'.moduleImageSize.toNat < c'.outTotal + x.length
  . rw [if_pos hmax]
    refine .inr ⟨_, _, rfl, .inl rfl, fun hfine => ?_⟩
    obtain ⟨size, hsize', hle⟩ := hfine.zzm rfl hlong
    rw [hsize, Option.some.injEq] at hsize'
    rw [← hsize', List.length_append] at hle
    omega
  . rw [if_neg hmax]
    have hfine : ZipFine .zzm (data ++ x) := by
      refine { fits := by simpa using hfits, boot := by simp, zzm := fun _ _ => ?_ }
      refine ⟨_, hsize, ?_⟩
      rw [List.length_append]
      omega
    have hholds : ∀ sha256 : Sha256, sha256.Absorbed ((data ++ x).drop moduleHeaderBytes) →
        Holds { c' with sha256, outTotal := c'.outTotal + x.length } .zzm (data ++ x) := by
      intro sha256 hsha
      exact {
        crc := hcrc
        total := by rw [List.length_append, ← htotal]
        bootHead := by simp
        moduleHead := fun _ _ => hhead
        unchecked := fun _ hlt => absurd hlong (Nat.not_le_of_lt hlt)
        checked := fun _ _ => ⟨hok, hsize, hsha⟩ }
    split
    . refine .inl ⟨_, rfl, hholds _ ?_, hfine⟩
      rw [← himage]
      exact hhashed.update image
    . next hempty =>
      rw [not_not] at hempty
      refine .inl ⟨_, rfl, hholds _ ?_, hfine⟩
      rw [← himage, hempty, List.append_nil]
      exact hhashed

/-- The bytes complete the header. -/
theorem adds_header (h : c.Holds .zzm data) (hfits : data.length + x.length ≤ ulongMax)
    (hlt : data.length < moduleHeaderBytes) (hlong : moduleHeaderBytes ≤ (data ++ x).length)
    : c.Adds .zzm data x := by
  have hmin : min (moduleHeaderBytes - c.outTotal) x.length
      = moduleHeaderBytes - data.length := by
    rw [List.length_append] at hlong
    rw [h.total]
    omega
  have heq : c.outTotal + (moduleHeaderBytes - data.length) = moduleHeaderBytes := by
    rw [h.total]
    omega
  have hhead := take_append_head (h.moduleHead rfl) hlt x
  have hdrop : x.drop (moduleHeaderBytes - data.length)
      = (data ++ x).drop moduleHeaderBytes := by
    rw [List.drop_append, List.drop_eq_nil_of_le (Nat.le_of_lt hlt), List.nil_append]
  rw [← h.total] at hlt
  cases hok : ZZRel.moduleHeaderOk ((data ++ x).take moduleHeaderBytes) with
  | none =>
    refine .inr ⟨{ c with
      crc := crc32Update c.crc x, head := (data ++ x).take moduleHeaderBytes }, .errModule,
      ?_, .inr rfl, ?_⟩
    . unfold add
      dsimp only
      rw [if_pos hlt, hmin, if_pos heq, h.total, hhead, hok]
    . intro hfine
      obtain ⟨size, hsize, _⟩ := hfine.zzm rfl hlong
      rw [hok] at hsize
      contradiction
  | some size =>
    apply adds_image { c with
        crc := crc32Update c.crc x, head := (data ++ x).take moduleHeaderBytes
        moduleImageSize := size, moduleHeaderOk := true, sha256 := .init }
      ?_ h.total hfits hlong rfl rfl hok Sha256.absorbed_init hdrop
    . unfold add
      dsimp only
      rw [if_pos hlt, hmin, if_pos heq, h.total, hhead, hok]
    . rw [h.crc, crc32_append]

/-- The header was complete. -/
theorem adds_behind (h : c.Holds .zzm data) (hfits : data.length + x.length ≤ ulongMax)
    (hge : moduleHeaderBytes ≤ data.length)
    : c.Adds .zzm data x := by
  obtain ⟨hok, hsize, hsha⟩ := h.checked rfl hge
  have hdata : data ≠ [] := by
    intro hdata
    rw [hdata] at hge
    exact absurd hge (by decide)
  have htake : (data ++ x).take moduleHeaderBytes = data.take moduleHeaderBytes :=
    List.take_append_of_le_length hge
  apply adds_image { c with crc := crc32Update c.crc x } ?_ h.total hfits ?_ ?_ hok ?_ hsha
    (List.drop_append_of_le_length hge).symm
  . unfold add
    dsimp only
    rw [if_neg (by rw [h.total]; omega)]
  . rw [h.crc, crc32_append]
  . rw [List.length_append]
    omega
  . rw [htake]
    exact h.moduleHead rfl hdata
  . rw [htake]
    exact hsize

/-- `zip_output` keeps track of the contents. -/
theorem Holds.adds (h : c.Holds target data) (hfits : data.length + x.length ≤ ulongMax)
    : c.Adds target data x := by
  cases target with
  | none => exact adds_none h hfits
  | boot => exact adds_boot h hfits
  | zzm =>
    by_cases hge : moduleHeaderBytes ≤ data.length
    . exact adds_behind h hfits hge
    . by_cases hlong : moduleHeaderBytes ≤ data.length + x.length
      . rw [← List.length_append] at hlong
        exact adds_header h hfits (Nat.lt_of_not_le hge) hlong
      . exact adds_short h hfits (Nat.lt_of_not_le hlong)

end ZipContent

section Runs

variable {ι : Type} {r : ZipRun ι} {data x : List UInt8}

/-- What `zip_output` does with the bytes `x` behind `data`. -/
inductive Outputs (cb : ZipCallbacks) (r : ZipRun ι) (data x : List UInt8)
    : Option ZipResult × ZipRun ι → Prop where
  | adds {content : ZipContent} {log : List ZipEvent}
      (hholds : content.Holds r.zip.target (data ++ x))
      (hfine : ZipFine r.zip.target (data ++ x))
      (hlog : log.flatMap ZipEvent.atoms
        = r.log.flatMap ZipEvent.atoms ++ r.zip.target.shows x)
      : Outputs cb r data x (none, { zip := { r.zip with content }, log })
  | gaveUp {r' : ZipRun ι} (hfails : ¬cb.Reliable) : Outputs cb r data x (some .errWrite, r')
  | wrong {r' : ZipRun ι} {error : ZipResult} (herror : error = .errSize ∨ error = .errModule)
      (hwrong : ¬ZipFine r.zip.target (data ++ x)) : Outputs cb r data x (some error, r')

theorem zipOutput_outputs (cb : ZipCallbacks) (h : r.zip.content.Holds r.zip.target data)
    (hfine : ZipFine r.zip.target data)
    : Outputs cb r data x (zipOutput cb r x) := by
  unfold zipOutput
  split
  . next hempty =>
    apply Outputs.adds
    . rw [hempty, List.append_nil]
      exact h
    . rw [hempty, List.append_nil]
      exact hfine
    . rw [hempty]
      unfold ZipTarget.shows
      simp
  . split
    . next hmax =>
      refine .wrong (.inl rfl) fun hfine' => ?_
      have hfits := hfine'.fits
      rw [List.length_append] at hfits
      rw [h.total] at hmax
      omega
    . next hmax =>
      rw [h.total] at hmax
      have hfits : data.length + x.length ≤ ulongMax := by
        have := hfine.fits
        omega
      cases h.adds (x := x) hfits with
      | inl hadds =>
        obtain ⟨content, hadd, hholds, hfine'⟩ := hadds
        rw [hadd]
        dsimp only
        split
        . next htarget =>
          refine .adds hholds hfine' ?_
          rw [htarget]
          exact (List.append_nil _).symm
        . next htarget =>
          split
          . next hfails =>
            refine .gaveUp fun hreliable => ?_
            rw [hreliable.sink] at hfails
            contradiction
          . refine .adds hholds hfine' ?_
            unfold ZipTarget.shows
            rw [if_neg htarget, List.flatMap_append, List.flatMap_singleton]
            rfl
      | inr hwrong =>
        obtain ⟨content, error, hadd, herror, hwrong⟩ := hwrong
        rw [hadd]
        exact .wrong herror hwrong

end Runs

section Checks

variable {c : ZipContent} {data : List UInt8}

theorem bootImage_iff (h : c.Holds .boot data) (hfine : ZipFine .boot data)
    : BootImage data
        ↔ bootMinBytes ≤ c.outTotal ∧ bootHeaderOk (c.head.take bootHeaderBytes) := by
  rw [h.total]
  have hhead : bootMinBytes ≤ data.length →
      c.head.take bootHeaderBytes = data.take bootHeaderBytes := by
    intro hmin
    have hdata : data ≠ [] := by
      intro hdata
      rw [hdata] at hmin
      exact absurd hmin (by decide)
    rw [h.bootHead rfl hdata, List.take_take, Nat.min_self]
  constructor
  . intro himage
    rw [hhead himage.min_le]
    exact ⟨himage.min_le, himage.header⟩
  . intro hchecks
    rw [hhead hchecks.1] at hchecks
    exact ⟨hchecks.1, hfine.boot rfl, hchecks.2⟩

theorem moduleImage_iff (h : c.Holds .zzm data)
    : ModuleImage data
        ↔ c.moduleHeaderOk = true
          ∧ c.outTotal = moduleHeaderBytes + c.moduleImageSize.toNat
          ∧ c.sha256.final = (c.head.drop 52).take 32 := by
  rw [h.total]
  have hdigest : moduleHeaderBytes ≤ data.length →
      (c.head.drop 52).take 32 = (data.drop 52).take 32 := by
    intro hlong
    have hdata : data ≠ [] := by
      intro hdata
      rw [hdata] at hlong
      exact absurd hlong (by decide)
    rw [h.moduleHead rfl hdata, List.drop_take, List.take_take]
    rfl
  constructor
  . intro himage
    obtain ⟨size, hsize, hlength⟩ := himage.header
    have hlong : moduleHeaderBytes ≤ data.length := by omega
    obtain ⟨hok, hsize', hsha⟩ := h.checked rfl hlong
    rw [hsize, Option.some.injEq] at hsize'
    rw [← hsize', hdigest hlong, hsha.final]
    exact ⟨hok, hlength, himage.hash⟩
  . intro hchecks
    obtain ⟨hok, hlength, hhash⟩ := hchecks
    have hlong : moduleHeaderBytes ≤ data.length := by omega
    obtain ⟨_, hsize, hsha⟩ := h.checked rfl hlong
    rw [hdigest hlong, hsha.final] at hhash
    exact ⟨⟨_, hsize, hlength⟩, hhash⟩

/-- The checks at the end of an entry. -/
theorem entryError_eq_none {ι : Type} {z : Zip ι} {target : ZipTarget} (htarget : z.target = target)
    (h : z.content.Holds target data) (hfine : ZipFine target data)
    : z.entryError = none ↔ Checked target z.crcExpected z.usize data := by
  rw [← htarget] at h hfine ⊢
  have hchecked : Checked z.target z.crcExpected z.usize data
      ↔ z.content.crc = z.crcExpected ∧ z.content.outTotal = z.usize.toNat
        ∧ (z.target = .boot → BootImage data) ∧ (z.target = .zzm → ModuleImage data) := by
    rw [h.crc, h.total]
    exact ⟨fun h => ⟨h.1, h.2, h.3, h.4⟩, fun h => ⟨h.1, h.2.1, h.2.2.1, h.2.2.2⟩⟩
  rw [hchecked]
  unfold Zip.entryError
  dsimp only
  by_cases hcrc : z.content.crc = z.crcExpected
  . rw [if_neg (not_not.mpr hcrc), and_iff_right hcrc]
    by_cases hsize : z.content.outTotal = z.usize.toNat
    . rw [if_neg (not_not.mpr hsize), and_iff_right hsize]
      generalize htarget : z.target = target at h hfine
      cases target with
      | none => simp
      | boot =>
        rw [bootImage_iff h hfine]
        by_cases hmin : z.content.outTotal < bootMinBytes
        . simp [hmin, Nat.not_le_of_lt hmin]
        . simp [hmin, Nat.le_of_not_lt hmin]
      | zzm =>
        rw [moduleImage_iff h]
        by_cases hok : z.content.moduleHeaderOk = true
        . by_cases hlength : z.content.outTotal
              = moduleHeaderBytes + z.content.moduleImageSize.toNat
          . simp [hok, hlength]
          . simp [hok, hlength]
        . simp [hok]
    . simp [hsize]
  . simp [hcrc]

theorem entryError_ne {ι : Type} {z : Zip ι} {error : ZipResult} (h : z.entryError = some error)
    : error ≠ .done ∧ error ≠ .more := by
  unfold Zip.entryError at h
  dsimp only at h
  repeat' split at h
  all_goals
    cases h <;> exact ⟨by decide, by decide⟩

end Checks

end ZZRel
