import ZZ9000.Config.RoundTrip

/-!
This module contains the round trip of the audio keys and of the whole record.
-/

namespace ZZCfg

section Scenes

theorem find?_unique {α : Type} {p : α → Bool} {l : List α} {x : α} (hmem : x ∈ l)
    (hx : p x = true) (hunique : ∀ y ∈ l, p y = true → y = x) :
    l.find? p = some x := by
  cases hfind : l.find? p with
  | none =>
    rw [List.find?_eq_none] at hfind
    exact absurd hx (hfind x hmem)
  | some y => rw [hunique y (List.mem_of_find?_eq_some hfind) (List.find?_some hfind)]

theorem zzcfgStrEqCi_append_left (a b c : List Char) :
    zzcfgStrEqCi (a ++ b) (a ++ c) = zzcfgStrEqCi b c := by
  induction a with
  | nil => rfl
  | cons x a ih => simpa [zzcfgStrEqCi] using ih

theorem sceneKeyName_inj {i j : Fin 8} {f g : Fin 16}
    (h : zzcfgStrEqCi (sceneKeyName i f) (sceneKeyName j g) = true) :
    i = j ∧ f = g := by
  have hdigit : ∀ i j : Fin 8, zzcfgLower (sceneDigits.getD i.val '0') =
      zzcfgLower (sceneDigits.getD j.val '0') → i = j := by
    decide +kernel
  have hsuffix : ∀ f g : Fin 16, zzcfgStrEqCi (sceneSuffixes.getD f.val [])
      (sceneSuffixes.getD g.val []) = true → f = g := by
    decide +kernel
  unfold sceneKeyName at h
  rw [zzcfgStrEqCi_append_left, zzcfgStrEqCi] at h
  split at h
  . contradiction
  . next hd =>
    refine ⟨hdigit i j (not_not.mp hd), hsuffix f g ?_⟩
    simpa [zzcfgStrEqCi] using h

theorem zzcfgFindKey_scene (i : Fin 8) (f : Fin 16) :
    zzcfgFindKey (sceneKeyName i f) = some (.audioScene i f) := by
  unfold zzcfgFindKey
  rw [find?_unique (x := (sceneKeyName i f, .audioScene i f))]
  . rfl
  . unfold zzcfgKeys
    simp
  . rw [zzcfgStrEqCi_iff]
  . intro entry hmem heq
    unfold zzcfgKeys at hmem
    rw [List.mem_append] at hmem
    cases hmem with
    | inl hmem =>
      -- the names of the other keys do not start like those of a scene
      exfalso
      revert i f
      revert entry
      decide +kernel
    | inr hmem =>
      obtain ⟨j, _, hmem⟩ := List.mem_flatMap.mp hmem
      obtain ⟨g, _, hentry⟩ := List.mem_map.mp hmem
      subst hentry
      obtain ⟨hij, hfg⟩ := sceneKeyName_inj heq
      rw [hij, hfg]

def setScene (v : ZzcfgValues) (i : Fin 8) (scene : AudioScene) : ZzcfgValues :=
  { v with audioScene := Function.update v.audioScene i scene }

theorem zzcfgParseLine_sceneAssign (i : Fin 8) (scene : AudioScene) (f : Fin 16)
    (s : ParseState) :
    (zzcfgParseLine (sceneAssign i scene f) s).values =
      setScene s.values i ((s.values.audioScene i).set f (scene.get f)) := by
  unfold sceneAssign
  rw [zzcfgParseLine_cfgAssign (.audioScene i f) (plainName_sceneKeyName i f)
    (zzcfgFindKey_scene i f) (token_decimal _)]
  unfold zzcfgApplyKey zzcfgAudioSceneKey
  dsimp only
  rw [zzcfgParseU16_decimal]
  rfl

/-- The scene after the listed fields of `scene` have been read into it. -/
def mergeScene (scene : AudioScene) (fields : List (Fin 16)) (old : AudioScene) : AudioScene :=
  match fields with
  | [] => old
  | f :: fields => mergeScene scene fields (if scene.mask f then old.set f (scene.get f) else old)

theorem mergeScene_get (scene : AudioScene) (fields : List (Fin 16)) (old : AudioScene)
    (g : Fin 16) :
    (mergeScene scene fields old).get g =
      if g ∈ fields ∧ scene.mask g = true then scene.get g else old.get g := by
  induction fields generalizing old with
  | nil => simp [mergeScene]
  | cons f fields ih =>
    unfold mergeScene
    rw [ih]
    by_cases hg : g ∈ fields ∧ scene.mask g = true
    . rw [if_pos hg, if_pos ⟨by simp [hg.1], hg.2⟩]
    . rw [if_neg hg]
      by_cases hf : scene.mask f = true
      . rw [if_pos hf, AudioScene.set_get]
        by_cases hgf : g = f
        . subst hgf
          rw [if_pos rfl, if_pos ⟨by simp, hf⟩]
        . rw [if_neg hgf, if_neg]
          intro h
          exact hg ⟨by simpa [hgf] using h.1, h.2⟩
      . rw [if_neg hf, if_neg]
        intro h
        cases List.mem_cons.mp h.1 with
        | inl hgf =>
          subst hgf
          exact hf h.2
        | inr hmem => exact hg ⟨hmem, h.2⟩

theorem mergeScene_mask (scene : AudioScene) (fields : List (Fin 16)) (old : AudioScene)
    (g : Fin 16) :
    (mergeScene scene fields old).mask g = (decide (g ∈ fields) && scene.mask g || old.mask g) := by
  induction fields generalizing old with
  | nil => simp [mergeScene]
  | cons f fields ih =>
    unfold mergeScene
    rw [ih]
    by_cases hgf : g = f
    . subst hgf
      cases scene.mask g <;> simp
    . have hne : (if scene.mask f then old.set f (scene.get f) else old).mask g = old.mask g := by
        split
        . rw [AudioScene.set_mask, Function.update_of_ne hgf]
        . rfl
      rw [hne]
      simp [hgf]

/-- Reading a whole scene into one without keys yields the scene. -/
theorem mergeScene_all {scene old : AudioScene} (hold : ∀ f, old.mask f = false)
    (habsent : ∀ f, scene.mask f = false → scene.get f = old.get f) :
    mergeScene scene (List.finRange 16) old = scene := by
  apply AudioScene.ext_get
  . intro f
    rw [mergeScene_get]
    split
    . rfl
    . next h =>
      apply Eq.symm
      apply habsent
      simpa using h
  . intro f
    rw [mergeScene_mask, hold f]
    simp

theorem setScene_setScene (v : ZzcfgValues) (i : Fin 8) (a b : AudioScene) :
    setScene (setScene v i a) i b = setScene v i b := by
  unfold setScene
  dsimp only
  rw [Function.update_idem]

theorem setScene_self (v : ZzcfgValues) (i : Fin 8) : setScene v i (v.audioScene i) = v := by
  unfold setScene
  rw [Function.update_eq_self]

theorem parse_sceneLines (i : Fin 8) (scene : AudioScene) (fields : List (Fin 16))
    (s : ParseState) :
    (zzcfgParseLines (sceneLines i scene fields) s).values =
      setScene s.values i (mergeScene scene fields (s.values.audioScene i)) := by
  induction fields generalizing s with
  | nil => exact (setScene_self s.values i).symm
  | cons f fields ih =>
    unfold sceneLines mergeScene
    split
    . unfold zzcfgParseLines
      have hstep := zzcfgParseLine_sceneAssign i scene f s
      rw [ih, hstep, setScene_setScene]
      unfold setScene
      dsimp only
      rw [Function.update_self]
    . exact ih s

variable {v d : ZzcfgValues} {s : ParseState}

def setScenes (dst src : ZzcfgValues) (scenes : List (Fin 8)) : ZzcfgValues :=
  match scenes with
  | [] => dst
  | i :: scenes => setScenes (setScene dst i (src.audioScene i)) src scenes

theorem parse_scenesLines {scenes : List (Fin 8)} (hnodup : scenes.Nodup)
    (hs : ∀ i ∈ scenes, s.values.audioScene i = d.audioScene i) (hd : Unread d)
    (habs : AbsentFrom d v) :
    (zzcfgParseLines (scenesLines v scenes) s).values = setScenes s.values v scenes := by
  induction scenes generalizing s with
  | nil => rfl
  | cons i scenes ih =>
    have hnodup := List.nodup_cons.mp hnodup
    have hscene := parse_sceneLines i (v.audioScene i) (List.finRange 16) s
    rw [hs i (by simp), mergeScene_all (hd.audioScene i) (habs.audioScene i)] at hscene
    unfold scenesLines setScenes
    rw [zzcfgParseLines_append, ih hnodup.2]
    . rw [hscene]
    . intro j hj
      have hne : j ≠ i := by
        intro h
        subst h
        exact hnodup.1 hj
      rw [hscene]
      unfold setScene
      dsimp only
      rw [Function.update_of_ne hne]
      exact hs j (by simp [hj])

theorem setScenes_eq (dst src : ZzcfgValues) (scenes : List (Fin 8)) :
    setScenes dst src scenes =
      { dst with audioScene := fun i => if i ∈ scenes then src.audioScene i else dst.audioScene i }
        := by
  induction scenes generalizing dst with
  | nil => simp [setScenes]
  | cons i scenes ih =>
    unfold setScenes
    rw [ih]
    unfold setScene
    congr 1
    funext j
    by_cases hj : j ∈ scenes
    . simp [hj]
    . by_cases hji : j = i
      . subst hji
        simp
      . simp [hj, hji]

end Scenes

section Head

variable {v d : ZzcfgValues} {s : ParseState}

/-- A key of the audio head: a `set` that is undone by the values behind an absent key. -/
theorem parse_audioKey {present : Bool} {name : List Char} (value : UInt16) (key : ZzcfgKey)
    {target : ZzcfgValues} (hname : PlainName name) (hkey : zzcfgFindKey name = some key)
    (hpresent : present = true →
      (zzcfgApplyKey key (decimal value.toNat) s).values = target)
    (habsent : present = false → s.values = target) :
    (zzcfgParseLine (cfgAssign present name (decimal value.toNat)) s).values = target := by
  rw [zzcfgParseLine_optional hname hkey (fun _ => token_decimal value) s]
  cases present with
  | true => exact hpresent rfl
  | false => exact habsent rfl

theorem parse_audioHead (hs : RestAgrees s.values d) (hv : Admitted v) (hd : Unread d)
    (habs : AbsentFrom d v) :
    (zzcfgParseLines (audioHeadLines v) s).values =
      { s.values with
        audioActive := v.audioActive
        audioActivePresent := v.audioActivePresent
        audioBaseline := v.audioBaseline
        audioBaselinePresent := v.audioBaselinePresent
        audioCeilingPaula := v.audioCeilingPaula
        audioCeilingPaulaPresent := v.audioCeilingPaulaPresent
        audioCeilingAx := v.audioCeilingAx
        audioCeilingAxPresent := v.audioCeilingAxPresent } := by
  have hblank : zzcfgParseLine [] s = s := zzcfgParseLine_comment rfl s
  unfold audioHeadLines zzcfgParseLines zzcfgParseLines zzcfgParseLines zzcfgParseLines
    zzcfgParseLines zzcfgParseLines
  rw [hblank]
  have e1 : (zzcfgParseLine (cfgAssign v.audioActivePresent "audio_active".toList
      (decimal v.audioActive.toNat)) s).values =
        { s.values with
          audioActive := v.audioActive
          audioActivePresent := v.audioActivePresent } := by
    apply parse_audioKey _ .audioActive (by decide) (zzcfgFindKey_main 20 rfl)
    . intro hp
      unfold zzcfgApplyKey
      rw [zzcfgParseU16_decimal, hp]
    . intro hp
      rw [habs.audioActive hp, hp, ← hs.audioActive, ← hd.audioActive, ← hs.audioActivePresent]
  generalize zzcfgParseLine (cfgAssign v.audioActivePresent "audio_active".toList
    (decimal v.audioActive.toNat)) s = s1 at e1 ⊢
  have e2 : (zzcfgParseLine (cfgAssign v.audioBaselinePresent "audio_baseline".toList
      (decimal v.audioBaseline.toNat)) s1).values =
        { s1.values with
          audioBaseline := v.audioBaseline
          audioBaselinePresent := v.audioBaselinePresent } := by
    apply parse_audioKey _ .audioBaseline (by decide) (zzcfgFindKey_main 21 rfl)
    . intro hp
      unfold zzcfgApplyKey
      rw [zzcfgParseU16_decimal, hp]
    . intro hp
      rw [e1, habs.audioBaseline hp, hp, ← hs.audioBaseline, ← hd.audioBaseline,
        ← hs.audioBaselinePresent]
  generalize zzcfgParseLine (cfgAssign v.audioBaselinePresent "audio_baseline".toList
    (decimal v.audioBaseline.toNat)) s1 = s2 at e2 ⊢
  have e3 : (zzcfgParseLine (cfgAssign v.audioCeilingPaulaPresent "audio_ceiling_paula".toList
      (decimal v.audioCeilingPaula.toNat)) s2).values =
        { s2.values with
          audioCeilingPaula := v.audioCeilingPaula
          audioCeilingPaulaPresent := v.audioCeilingPaulaPresent } := by
    apply parse_audioKey _ .audioCeilingPaula (by decide) (zzcfgFindKey_main 22 rfl)
    . intro hp
      have h := hv.audioCeilingPaula hp
      unfold zzcfgApplyKey
      rw [zzcfgParseU16_decimal, hp]
      dsimp only
      rw [if_pos (by simp [h.1, h.2])]
    . intro hp
      rw [e2, e1, habs.audioCeilingPaula hp, hp, ← hs.audioCeilingPaula, ← hd.audioCeilingPaula,
        ← hs.audioCeilingPaulaPresent]
  generalize zzcfgParseLine (cfgAssign v.audioCeilingPaulaPresent "audio_ceiling_paula".toList
    (decimal v.audioCeilingPaula.toNat)) s2 = s3 at e3 ⊢
  have e4 : (zzcfgParseLine (cfgAssign v.audioCeilingAxPresent "audio_ceiling_ax".toList
      (decimal v.audioCeilingAx.toNat)) s3).values =
        { s3.values with
          audioCeilingAx := v.audioCeilingAx
          audioCeilingAxPresent := v.audioCeilingAxPresent } := by
    apply parse_audioKey _ .audioCeilingAx (by decide) (zzcfgFindKey_main 23 rfl)
    . intro hp
      have h := hv.audioCeilingAx hp
      unfold zzcfgApplyKey
      rw [zzcfgParseU16_decimal, hp]
      dsimp only
      rw [if_pos (by simp [h.1, h.2])]
    . intro hp
      rw [e3, e2, e1, habs.audioCeilingAx hp, hp, ← hs.audioCeilingAx, ← hd.audioCeilingAx,
        ← hs.audioCeilingAxPresent]
  rw [e4, e3, e2, e1]

end Head

section Audio

variable {v d : ZzcfgValues} {s : ParseState}

/-- The audio keys of a record without any are those of the record it was read over. -/
theorem audio_absent (h : zzcfgAudioPresent v = false) (hd : Unread d) (habs : AbsentFrom d v) :
    d.audioActive = v.audioActive ∧ d.audioActivePresent = v.audioActivePresent ∧
    d.audioBaseline = v.audioBaseline ∧ d.audioBaselinePresent = v.audioBaselinePresent ∧
    d.audioCeilingPaula = v.audioCeilingPaula ∧
    d.audioCeilingPaulaPresent = v.audioCeilingPaulaPresent ∧
    d.audioCeilingAx = v.audioCeilingAx ∧ d.audioCeilingAxPresent = v.audioCeilingAxPresent ∧
    d.audioScene = v.audioScene := by
  unfold zzcfgAudioPresent at h
  simp only [Bool.or_eq_false_iff] at h
  obtain ⟨⟨⟨⟨h1, h2⟩, h3⟩, h4⟩, hmask⟩ := h
  have hmask : ∀ i f, (v.audioScene i).mask f = false := by
    intro i f
    rw [List.any_eq_false] at hmask
    have hi := hmask i (by simp)
    simp only [Bool.not_eq_true, List.any_eq_false] at hi
    simpa using hi f (by simp)
  refine ⟨(habs.audioActive h1).symm, hd.audioActive.trans h1.symm,
    (habs.audioBaseline h2).symm, hd.audioBaseline.trans h2.symm,
    (habs.audioCeilingPaula h3).symm, hd.audioCeilingPaula.trans h3.symm,
    (habs.audioCeilingAx h4).symm, hd.audioCeilingAx.trans h4.symm, ?_⟩
  funext i
  apply AudioScene.ext_get
  . intro f
    exact (habs.audioScene i f (hmask i f)).symm
  . intro f
    rw [hd.audioScene i f, hmask i f]

theorem parse_audioLines (hs : RestAgrees s.values d) (hv : Admitted v) (hd : Unread d)
    (habs : AbsentFrom d v) :
    (zzcfgParseLines (audioLines v) s).values =
      { s.values with
        audioActive := v.audioActive
        audioActivePresent := v.audioActivePresent
        audioBaseline := v.audioBaseline
        audioBaselinePresent := v.audioBaselinePresent
        audioCeilingPaula := v.audioCeilingPaula
        audioCeilingPaulaPresent := v.audioCeilingPaulaPresent
        audioCeilingAx := v.audioCeilingAx
        audioCeilingAxPresent := v.audioCeilingAxPresent
        audioScene := v.audioScene } := by
  unfold audioLines
  split
  . have hhead := parse_audioHead hs hv hd habs
    rw [zzcfgParseLines_append]
    rw [parse_scenesLines (d := d) (List.nodup_finRange 8) _ hd habs]
    . rw [setScenes_eq, hhead]
      simp
    . intro i _
      rw [hhead]
      dsimp only
      rw [hs.audioScene]
  . next h =>
    have habsent := audio_absent (by simpa using h) hd habs
    obtain ⟨a1, a2, a3, a4, a5, a6, a7, a8, a9⟩ := habsent
    unfold zzcfgParseLines
    rw [← a1, ← a2, ← a3, ← a4, ← a5, ← a6, ← a7, ← a8, ← a9]
    rw [← hs.audioActive, ← hs.audioActivePresent, ← hs.audioBaseline,
      ← hs.audioBaselinePresent, ← hs.audioCeilingPaula, ← hs.audioCeilingPaulaPresent,
      ← hs.audioCeilingAx, ← hs.audioCeilingAxPresent, ← hs.audioScene]

/-- What is parsed of the lines of a record: the record, but for what the board tells. -/
theorem parse_generatedLines (hs : s.values = d) (hv : Admitted v) (hd : Unread d)
    (habs : AbsentFrom d v) (hinvalid : v.fastRamInvalid = false) :
    (zzcfgParseLines (generatedLines v) s).values =
      { v with
        useVideocapProfileKey := d.useVideocapProfileKey
        firmwareCapabilities := d.firmwareCapabilities } := by
  obtain ⟨hfield, hrest⟩ := parse_mainLines hs hv hd habs hinvalid
  unfold generatedLines
  rw [zzcfgParseLines_append, parse_audioLines hrest hv hd habs]
  generalize (zzcfgParseLines (mainLines v) s).values = m at hfield hrest
  apply ZzcfgValues.ext
  . exact (hfield .profile).1
  . exact (hfield .sample).1
  . exact (hfield .profile).2
  . exact (hfield .sample).2
  . exact (hfield .cropH).1
  . exact (hfield .cropV).1
  . exact (hfield .cropH).2
  . exact (hfield .cropV).2
  . exact (hfield .phaseE7m).1
  . exact (hfield .phaseC28).1
  . exact (hfield .phaseE7m).2
  . exact (hfield .phaseC28).2
  . exact (hfield .width).1
  . exact (hfield .height).1
  . exact (hfield .width).2
  . exact (hfield .height).2
  . exact hrest.useVideocapProfileKey
  . exact hrest.firmwareCapabilities
  . exact (hfield .scanMode).1
  . exact (hfield .scanParity).1
  . exact (hfield .scanMode).2
  . exact (hfield .scanParity).2
  . exact (hfield .gamma).1
  . exact (hfield .gamma).2
  . exact hfield .int2
  . exact hfield .offscreen
  . exact hfield .overlay
  . exact (hfield .fastRam).1
  . exact (hfield .fastRam).2.1
  . exact (hfield .fastRam).2.2
  . exact hfield .mac
  . exact hfield .hdf
  all_goals rfl

end Audio

section Size

theorem joinLines_length {lines : List (List Char)} {k : Nat}
    (h : ∀ line ∈ lines, line.length ≤ k) :
    (joinLines lines).length ≤ lines.length * (k + 1) := by
  induction lines with
  | nil => simp
  | cons line lines ih =>
    have hline := h line (by simp)
    have ih := ih (fun l hl => h l (by simp [hl]))
    rw [joinLines_cons]
    simp only [List.length_append, List.length_cons]
    rw [Nat.succ_mul]
    omega

theorem cfgAssign_length (present : Bool) (name value : List Char) :
    (cfgAssign present name value).length ≤ 4 + name.length + value.length := by
  unfold cfgAssign commentPrefix
  have : " = ".toList.length = 3 := rfl
  simp only [List.length_append, this]
  split <;> simp <;> omega

variable {v : ZzcfgValues}

theorem generatedLines_length (hmac : v.mac.length < macSize) (hhdf : v.hdf.length < hdfSize) :
    ∀ line ∈ generatedLines v, line.length ≤ 94 := by
  have hassign : ∀ present name value, name.length ≤ 23 → value.length ≤ 67 →
      (cfgAssign present name value).length ≤ 94 := by
    intro present name value hname hvalue
    have := cfgAssign_length present name value
    omega
  unfold macSize macChars at hmac
  unfold hdfSize hdfChars at hhdf
  apply generatedLines_forall v (P := fun line => line.length ≤ 94)
  . decide
  . decide
  . intro _ _
    have := (printed_onOff v.fastRam).2
    exact hassign _ _ _ (by decide) (by omega)
  . intro present name value hname hvalue
    apply hassign present name value hname.2.2.2
    rcases hvalue with h | h | h
    . have := h.2
      omega
    . rw [h]
      omega
    . rw [h]
      omega

theorem sceneLines_size (i : Fin 8) (scene : AudioScene) (fields : List (Fin 16)) :
    (joinLines (sceneLines i scene fields)).length ≤ fields.length * 27 := by
  induction fields with
  | nil => simp [sceneLines]
  | cons f fields ih =>
    have hname : ∀ (i : Fin 8) (f : Fin 16), (sceneKeyName i f).length ≤ 17 := by decide +kernel
    have hassign := cfgAssign_length true (sceneKeyName i f) (decimal (scene.get f).toNat)
    have hdecimal := decimal_length (scene.get f).toNat_lt
    have hname := hname i f
    have hlen : (f :: fields).length * 27 = fields.length * 27 + 27 := by
      rw [List.length_cons, Nat.succ_mul]
    unfold sceneLines
    rw [hlen]
    split
    . rw [joinLines_cons]
      simp only [List.length_append, List.length_cons]
      unfold sceneAssign
      omega
    . omega

theorem scenesLines_size (v : ZzcfgValues) (scenes : List (Fin 8)) :
    (joinLines (scenesLines v scenes)).length ≤ scenes.length * 432 := by
  induction scenes with
  | nil => simp [scenesLines]
  | cons i scenes ih =>
    have hscene := sceneLines_size i (v.audioScene i) (List.finRange 16)
    have h16 : (List.finRange 16).length = 16 := by simp
    rw [h16] at hscene
    unfold scenesLines
    rw [joinLines_append, List.length_append, List.length_cons, Nat.succ_mul]
    omega

theorem mainLines_count (v : ZzcfgValues) : (mainLines v).length ≤ 20 := by
  have hprofile : (profileLines v).length ≤ 3 := by
    unfold profileLines
    dsimp only
    split
    . exact Nat.le_add_left 1 2
    . exact Nat.le_refl 3
  have hfast : (fastRamLines v).length ≤ 1 := by
    unfold fastRamLines
    split
    . exact Nat.le_refl 1
    . exact Nat.zero_le 1
  have hnative : (nativeLines v).length = 11 := rfl
  have hsystem : (systemLines v).length = 4 := rfl
  unfold mainLines
  rw [List.length_cons, List.length_append, List.length_append, List.length_append]
  omega

/-- All eight scenes fit the file. -/
theorem generatedLines_size (hmac : v.mac.length < macSize) (hhdf : v.hdf.length < hdfSize) :
    (joinLines (generatedLines v)).length < maxSize := by
  have hlines := generatedLines_length hmac hhdf
  have hmain : (joinLines (mainLines v)).length ≤ (mainLines v).length * 95 := by
    apply joinLines_length
    intro line hline
    apply hlines
    unfold generatedLines
    simp [hline]
  have hcount := mainLines_count v
  have haudio : (joinLines (audioLines v)).length ≤ 5 * 95 + 8 * 432 := by
    unfold audioLines
    split
    . next hpresent =>
      have hhead : (joinLines (audioHeadLines v)).length ≤ (audioHeadLines v).length * 95 := by
        apply joinLines_length
        intro line hline
        apply hlines
        unfold generatedLines audioLines
        rw [if_pos hpresent]
        simp [hline]
      have hhead5 : (audioHeadLines v).length = 5 := rfl
      have hscenes := scenesLines_size v (List.finRange 8)
      have h8 : (List.finRange 8).length = 8 := by simp
      rw [joinLines_append, List.length_append]
      omega
    . simp
  have hmain : (mainLines v).length * 95 ≤ 20 * 95 := Nat.mul_le_mul_right 95 hcount
  unfold generatedLines maxSize
  rw [joinLines_append, List.length_append]
  omega

end Size

/-- Which names the parser stores: tokens that fit both its value buffer and the field. -/
theorem storedByParser_hdf_iff {value : List Char} (hne : value ≠ []) :
    StoredByParser (·.hdf) value ↔ StoredText hdfSize value := by
  refine ⟨StoredByParser.storedText_hdf, ?_⟩
  intro h
  refine ⟨joinLines [cfgAssign true "hdf".toList value], defaultValues true 0 0 0 100, ?_, ?_⟩
  . exact fun hnil => hne hnil.symm
  . have hline : '\n' ∉ cfgAssign true "hdf".toList value := by
      unfold cfgAssign
      simp only [List.mem_append, not_or]
      exact ⟨by decide, by decide, by decide, no_newline_of_token h.chars⟩
    dsimp only
    unfold zzcfgParseText
    rw [splitLines_joinLines (by simpa using hline)]
    unfold zzcfgParseLines zzcfgParseLines
    rw [zzcfgParseLine_cfgAssign .hdf (by decide) (zzcfgFindKey_main 19 rfl) (h.token hne)]
    unfold zzcfgApplyKey
    dsimp only
    rw [if_pos h.fits]

theorem Admitted.mac_fits {v : ZzcfgValues} (hv : Admitted v) :
    v.mac.length < macSize ∧ '\n' ∉ v.mac := by
  by_cases h : v.mac = []
  . rw [h]
    decide
  . have := (hv.mac h).storedText_mac
    exact ⟨this.fits, no_newline_of_token this.chars⟩

theorem Admitted.hdf_fits {v : ZzcfgValues} (hv : Admitted v) :
    v.hdf.length < hdfSize ∧ '\n' ∉ v.hdf := by
  by_cases h : v.hdf = []
  . rw [h]
    decide
  . have := (hv.hdf h).storedText_hdf
    exact ⟨this.fits, no_newline_of_token this.chars⟩

/-- The lines of a record without the mark that its Fast RAM setting is invalid. -/
theorem generatedLines_unmark {v : ZzcfgValues}
    (h : v.fastRamPresent = true → v.fastRamInvalid = false) :
    generatedLines { v with fastRamInvalid := false } = generatedLines v := by
  have hfast : fastRamLines { v with fastRamInvalid := false } = fastRamLines v := by
    unfold fastRamLines
    cases hp : v.fastRamPresent with
    | false => rfl
    | true => rw [h hp]
  unfold generatedLines mainLines
  rw [hfast]
  rfl

/--
A record of admitted values is written in full, in lines of at most 127 characters, and parsed back
over any record that is still unread: every value, presence flag and scene mask returns. What the
board tells and the mark of an invalid Fast RAM line are not in the file.
-/
theorem zzcfgParseText_generate (v d : ZzcfgValues) (hv : Admitted v) (hd : Unread d)
    (habs : AbsentFrom d v) :
    ∃ text, zzcfgGenerate v maxSize = some text ∧
      (∀ line ∈ splitLines text, line.length ≤ 127) ∧
      zzcfgParseText text d =
        { v with
          useVideocapProfileKey := d.useVideocapProfileKey
          firmwareCapabilities := d.firmwareCapabilities
          fastRamInvalid := d.fastRamInvalid } := by
  refine ⟨joinLines (generatedLines v), ?_, ?_, ?_⟩
  . rw [zzcfgGenerate_eq, if_pos (generatedLines_size hv.mac_fits.1 hv.hdf_fits.1)]
  . rw [splitLines_joinLines (generatedLines_no_newline hv.mac_fits.2 hv.hdf_fits.2)]
    intro line hline
    exact Nat.le_trans (generatedLines_length hv.mac_fits.1 hv.hdf_fits.1 line hline) (by decide)
  . unfold zzcfgParseText
    rw [splitLines_joinLines (generatedLines_no_newline hv.mac_fits.2 hv.hdf_fits.2)]
    rw [← generatedLines_unmark hv.fastRam, hd.fastRamInvalid]
    have hv' : Admitted { v with fastRamInvalid := false } :=
      { hv with fastRam := fun _ => rfl }
    have habs' : AbsentFrom d { v with fastRamInvalid := false } := { habs with }
    exact parse_generatedLines rfl hv' hd habs' rfl

/-- A record with keys of every kind. -/
def mixedValues : ZzcfgValues :=
  { defaultValues true 0x39 1 0 100 with
    videocapProfile := 8
    videocapProfilePresent := true
    videocapCropH := 4095
    videocapCropHPresent := true
    videocapC28Phase := -896
    videocapC28PhasePresent := true
    videocapWidth := 720
    videocapWidthPresent := true
    gamma := 180
    gammaPresent := true
    fastRam := true
    fastRamPresent := true
    hdf := "disk-1.hdf".toList
    audioCeilingAx := 4095
    audioCeilingAxPresent := true
    audioScene := fun i => if i.val = 7 then
        ⟨3, fun _ => 0, 0, 65535, fun _ => 0, fun f => f.val = 0 || f.val = 7⟩
      else
        ⟨0, fun _ => 0, 0, 0, fun _ => 0, fun _ => false⟩ }

theorem zzcfgParseText_generate_mixed :
    ∃ text, zzcfgGenerate mixedValues maxSize = some text ∧
      (∀ line ∈ splitLines text, line.length ≤ 127) ∧
      zzcfgParseText text (defaultValues true 0x39 1 0 100) = mixedValues := by
  have hadmitted : Admitted mixedValues := by
    constructor
    case hdf =>
      intro _
      exact ⟨"hdf = disk-1.hdf".toList, defaultValues true 0x39 1 0 100, by decide,
        by decide +kernel⟩
    case mac =>
      intro h
      exact absurd rfl h
    all_goals decide
  have habsent : AbsentFrom (defaultValues true 0x39 1 0 100) mixedValues := by
    constructor <;> decide
  exact zzcfgParseText_generate mixedValues (defaultValues true 0x39 1 0 100) hadmitted
    (defaultValues_unread true 0x39 1 0 100) habsent

end ZZCfg
