import ZZ9000.FwRelease.ZipArchive

/-!
This module contains that the ZIP readers select the names of `ZipArchive.lean` and no others.
-/

namespace ZZRel

theorem strchr_eq_none {s : List UInt8} {c : UInt8} : strchr s c = none ↔ c ∉ s := by
  induction s with
  | nil => simp [strchr]
  | cons x s ih =>
    unfold strchr
    split
    . next heq => simp [heq]
    . next hne =>
      rw [Option.map_eq_none_iff, ih, List.mem_cons, not_or]
      exact ⟨fun h => ⟨fun h' => hne h'.symm, h⟩, fun h => h.2⟩

theorem strchr_append {before : List UInt8} {c : UInt8} (h : c ∉ before) (after : List UInt8)
    : strchr (before ++ c :: after) c = some (before, after) := by
  induction before with
  | nil =>
    rw [List.nil_append]
    unfold strchr
    rw [if_pos rfl]
  | cons x before ih =>
    rw [List.mem_cons, not_or] at h
    rw [List.cons_append]
    unfold strchr
    rw [if_neg fun h' => h.1 h'.symm, ih h.2]
    rfl

theorem safeParts_of_plain {part : List UInt8} (h : slash ∉ part)
    : safeParts part ↔ SafeComponent part := by
  unfold safeParts
  constructor
  . intro hparts
    split at hparts
    . contradiction
    . next hne =>
      split at hparts
      . rw [Bool.and_eq_true, bne_iff_ne, bne_iff_ne] at hparts
        exact ⟨hne, h, hparts.1, hparts.2⟩
      . next heq => exact absurd (strchr_eq_none.mpr h) (heq ▸ Option.some_ne_none _)
  . intro hsafe
    rw [if_neg hsafe.nonempty]
    split
    . rw [Bool.and_eq_true, bne_iff_ne, bne_iff_ne]
      exact ⟨hsafe.notDot, hsafe.notDotDot⟩
    . next heq => exact absurd (strchr_eq_none.mpr h) (heq ▸ Option.some_ne_none _)

theorem safeParts_append {dir : List UInt8} (h : slash ∉ dir) (rest : List UInt8)
    : safeParts (dir ++ slash :: rest) ↔ SafeComponent dir ∧ (rest = [] ∨ safeParts rest) := by
  have hne : dir ++ slash :: rest ≠ [] := by simp
  rw [safeParts, if_neg hne]
  split
  . next heq => exact absurd heq (strchr_append h rest ▸ Option.some_ne_none _)
  . next component rest' heq =>
    rw [strchr_append h rest, Option.some.injEq, Prod.mk.injEq] at heq
    rw [← heq.1, ← heq.2]
    split
    . next hbad =>
      constructor
      . intro h'
        contradiction
      . intro h'
        cases hbad with
        | inl hempty => exact absurd hempty h'.1.nonempty
        | inr hdots =>
          cases hdots with
          | inl hdot => exact absurd hdot h'.1.notDot
          | inr hdotDot => exact absurd hdotDot h'.1.notDotDot
    . next hgood =>
      rw [not_or, not_or] at hgood
      have hsafe : SafeComponent dir := ⟨hgood.1, h, hgood.2.1, hgood.2.2⟩
      split
      . next hrest => exact ⟨fun _ => ⟨hsafe, .inl hrest⟩, fun _ => rfl⟩
      . next hrest =>
        exact ⟨fun h' => ⟨hsafe, .inr h'⟩, fun h' => h'.2.resolve_left hrest⟩

/-- A safe name with a slash. -/
theorem safeBundlePath_append {dir : List UInt8} (h : slash ∉ dir) (rest : List UInt8)
    : safeBundlePath (dir ++ slash :: rest)
        ↔ SafeComponent dir ∧ backslash ∉ dir ++ slash :: rest ∧ (rest = [] ∨ safeParts rest) := by
  rw [← and_left_comm, ← safeParts_append h]
  cases dir with
  | nil =>
    rw [safeParts_append h]
    constructor
    . intro h'
      contradiction
    . intro h'
      exact absurd rfl h'.2.1.nonempty
  | cons c dir =>
    rw [List.mem_cons, not_or] at h
    unfold safeBundlePath
    rw [List.cons_append, Bool.and_eq_true, Bool.and_eq_true, bne_iff_ne, Option.isNone_iff_eq_none]
    rw [strchr_eq_none]
    exact ⟨fun h' => ⟨h'.1.2, h'.2⟩, fun h' => ⟨⟨fun hc => h.1 hc.symm, h'.1⟩, h'.2⟩⟩

theorem moduleNameOk_iff {name : List UInt8}
    : moduleNameOk name ↔ ∃ stem, name = stem ++ moduleSuffix ∧ 1 ≤ stem.length ∧ stem.length ≤ 8
        ∧ ∀ c ∈ stem, moduleNameChar c := by
  unfold moduleNameOk
  dsimp only
  constructor
  . intro h
    split at h
    . contradiction
    . next hshape =>
      rw [not_or, not_or, not_not] at hshape
      obtain ⟨hmin, hmax, hsuffix⟩ := hshape
      refine ⟨name.take (name.length - 4), ?_, ?_, ?_, List.all_eq_true.mp h⟩
      . rw [← hsuffix, List.take_append_drop]
      . rw [List.length_take]
        omega
      . rw [List.length_take]
        omega
  . intro h
    obtain ⟨stem, hname, hmin, hmax, hchars⟩ := h
    have hlength : name.length = stem.length + 4 := by
      rw [hname, List.length_append]
      rfl
    have hsub : name.length - 4 = stem.length := by omega
    rw [hsub, hname, List.drop_left, List.take_left, if_neg]
    . exact List.all_eq_true.mpr hchars
    . rw [← hname, not_or, not_or, not_not]
      exact ⟨by omega, by omega, rfl⟩

theorem isTargetName_iff {name : List UInt8} : isTargetName name ↔ LegacyName name := by
  unfold isTargetName
  constructor
  . intro h
    split at h
    . rw [beq_iff_eq] at h
      rw [h]
      exact .root
    . next dir rest heq =>
      rw [Bool.and_eq_true, Bool.and_eq_true, bne_iff_ne, beq_iff_eq] at h
      obtain ⟨hname, hplain⟩ := eq_of_strchr heq
      rw [hname, h.2]
      exact .folder h.1.1 hplain
  . intro h
    cases h with
    | root => rfl
    | folder hdir hplain =>
      rw [strchr_append hplain]
      dsimp only
      rw [Bool.and_eq_true, Bool.and_eq_true, bne_iff_ne, beq_iff_eq]
      exact ⟨⟨hdir, rfl⟩, rfl⟩

section Bundle

variable {ι : Type} {z : Zip ι} {target : ZipTarget}

theorem slash_not_mem_module {stem : List UInt8} (h : ∀ c ∈ stem, moduleNameChar c)
    : slash ∉ stem ++ moduleSuffix := by
  rw [List.mem_append, not_or]
  refine ⟨?_, by decide⟩
  intro hmem
  exact absurd (h slash hmem) (by decide)

/-- `ZZ9K` and the slash behind it. -/
theorem moduleDir_append (rest : List UInt8)
    : moduleDir ++ rest = [90, 90, 57, 75] ++ slash :: rest := rfl

theorem take_moduleDir (rest : List UInt8) : (moduleDir ++ rest).take 5 = moduleDir := rfl

theorem drop_moduleDir (rest : List UInt8) : (moduleDir ++ rest).drop 5 = rest := rfl

theorem safeParts_moduleDir (rest : List UInt8)
    : safeParts (moduleDir ++ rest) ↔ rest = [] ∨ safeParts rest := by
  rw [moduleDir_append, safeParts_append (by decide), and_iff_right]
  exact ⟨by decide, by decide, by decide, by decide⟩

theorem safe_of_bundlePath {rest path : List UInt8} (h : BundlePath rest target path)
    : rest = [] ∨ safeParts rest := by
  cases h with
  | folder => exact .inl rfl
  | file hsafe hname => exact .inr ((safeParts_of_plain hsafe.plain).mpr hsafe)
  | boot =>
    refine .inr ((safeParts_of_plain (by decide)).mpr ?_)
    exact ⟨by decide, by decide, by decide, by decide⟩
  | moduleFolder =>
    rw [← List.append_nil moduleDir, safeParts_moduleDir]
    exact .inr (.inl rfl)
  | @zzm stem hnonempty hshort hchars =>
    rw [safeParts_moduleDir, safeParts_of_plain (slash_not_mem_module hchars)]
    have hlength : 5 ≤ (stem ++ moduleSuffix).length := by
      rw [List.length_append]
      exact Nat.add_le_add_right hnonempty 4
    refine .inr (.inr ⟨?_, slash_not_mem_module hchars, ?_, ?_⟩)
      <;> intro heq <;> rw [heq] at hlength
    . exact absurd hlength (by decide)
    . exact absurd hlength (by decide)
    . exact absurd hlength (by decide)

/-- A name of a bundle is selected. -/
theorem bundleTargetName_of_name {path dir : List UInt8}
    (h : BundleName z.root z.foundBoot (cString z.name) target path dir)
    : bundleTargetName z = (some target, { z with
        root := dir, entryName := if target = .none then z.entryName else path }) := by
  obtain ⟨rest, hname, hpath⟩ := h.inside
  have hsafe : safeBundlePath (cString z.name) := by
    rw [hname, safeBundlePath_append h.dir_safe.plain, ← hname]
    exact ⟨h.dir_safe, h.noBackslash, safe_of_bundlePath hpath⟩
  have hroot : ¬(z.root ≠ [] ∧ z.root ≠ dir) := by
    intro h'
    cases h.sameRoot with
    | inl hempty => exact h'.1 hempty
    | inr heq => exact h'.2 heq
  have hz : (if z.root = [] then { z with root := dir } else z) = { z with root := dir } := by
    split
    . rfl
    . next hne => rw [← h.sameRoot.resolve_left hne]
  unfold bundleTargetName
  dsimp only
  rw [if_neg (not_not.mpr hsafe), hname, strchr_append h.dir_safe.plain]
  dsimp only
  rw [if_neg hroot, hz]
  cases hpath with
  | folder => rfl
  | file hsafe hname =>
    rw [if_neg hsafe.nonempty, strchr_eq_none.mpr hsafe.plain]
    dsimp only
    rw [if_pos hname]
    rfl
  | boot =>
    have honce := h.once rfl
    rw [if_neg (by decide), strchr_eq_none.mpr (by decide)]
    dsimp only
    rw [if_neg (by decide), honce]
    rfl
  | moduleFolder => rfl
  | zzm hnonempty hshort hchars =>
    have hmodule := moduleNameOk_iff.mpr ⟨_, rfl, hnonempty, hshort, hchars⟩
    have hplain := slash_not_mem_module hchars
    rw [if_neg (by simp [moduleDir]), moduleDir_append, strchr_append (by decide)]
    dsimp only
    rw [← moduleDir_append, take_moduleDir, drop_moduleDir]
    rw [if_neg (by decide), if_neg (by simp [moduleSuffix]), strchr_eq_none.mpr hplain, if_neg]
    . rfl
    . simp [hmodule]

/-- Only the names of a bundle are selected. -/
theorem bundleName_of_target {z' : Zip ι} (h : bundleTargetName z = (some target, z'))
    : ∃ path dir, BundleName z.root z.foundBoot (cString z.name) target path dir
        ∧ z' = { z with
            root := dir, entryName := if target = .none then z.entryName else path } := by
  suffices hname : ∃ path dir, BundleName z.root z.foundBoot (cString z.name) target path dir by
    obtain ⟨path, dir, hname⟩ := hname
    rw [bundleTargetName_of_name hname, Prod.mk.injEq] at h
    exact ⟨path, dir, hname, h.2.symm⟩
  unfold bundleTargetName at h
  dsimp only at h
  split at h
  . cases h
  . next hsafe =>
    rw [not_not] at hsafe
    split at h
    . cases h
    . next dir rest hdir =>
      obtain ⟨hname, hplain⟩ := eq_of_strchr hdir
      rw [hname, safeBundlePath_append hplain] at hsafe
      obtain ⟨hdirSafe, hslash, hrestSafe⟩ := hsafe
      rw [hname]
      split at h
      . cases h
      . next hroot =>
        rw [not_and_or, not_not, not_not] at hroot
        have hthis : ∀ {target path}, (target = .boot → z.foundBoot = false) →
            BundlePath rest target path →
            BundleName z.root z.foundBoot (dir ++ slash :: rest) target path dir :=
          fun honce hpath => ⟨hdirSafe, hslash, hroot, honce, rest, rfl, hpath⟩
        generalize hz : (if z.root = [] then { z with root := dir } else z) = z'' at h
        have hfound : z''.foundBoot = z.foundBoot := by
          rw [← hz]
          split <;> rfl
        split at h
        . next hrest =>
          rw [Prod.mk.injEq, Option.some.injEq] at h
          subst hrest
          rw [← h.1]
          exact ⟨[], dir, hthis (fun h => nomatch h) .folder⟩
        . next hrest =>
          split at h
          . next hflat =>
            rw [strchr_eq_none] at hflat
            split at h
            . next hboot =>
              rw [Prod.mk.injEq, Option.some.injEq] at h
              have hfile := (safeParts_of_plain hflat).mp (hrestSafe.resolve_left hrest)
              rw [← h.1]
              exact ⟨[], dir, hthis (fun h => nomatch h) (.file hfile hboot)⟩
            . next hboot =>
              rw [not_not] at hboot
              split at h
              . cases h
              . next honce =>
                rw [Prod.mk.injEq, Option.some.injEq] at h
                subst hboot
                rw [hfound, Bool.not_eq_true] at honce
                rw [← h.1]
                exact ⟨bootName, dir, hthis (fun _ => honce) .boot⟩
          . next hnested =>
            split at h
            . cases h
            . next hdir =>
              rw [not_not] at hdir
              have hinside : rest = moduleDir ++ rest.drop 5 := by
                rw [← hdir, List.take_append_drop]
              split at h
              . next hempty =>
                rw [Prod.mk.injEq, Option.some.injEq] at h
                rw [hempty, List.append_nil] at hinside
                subst hinside
                rw [← h.1]
                exact ⟨[], dir, hthis (fun h => nomatch h) .moduleFolder⟩
              . split at h
                . cases h
                . next hmodule =>
                  rw [not_or, not_not, moduleNameOk_iff] at hmodule
                  obtain ⟨_, stem, hstem, hmin, hmax, hchars⟩ := hmodule
                  rw [Prod.mk.injEq, Option.some.injEq] at h
                  rw [hstem] at hinside
                  subst hinside
                  rw [← h.1]
                  exact ⟨_, dir, hthis (fun h => nomatch h) (.zzm hmin hmax hchars)⟩

theorem path_of_none {rest path : List UInt8} (h : BundlePath rest .none path) : path = [] := by
  cases h <;> rfl

theorem bundleName_unique {target' : ZipTarget} {path path' dir dir' : List UInt8}
    (h : BundleName z.root z.foundBoot (cString z.name) target path dir)
    (h' : BundleName z.root z.foundBoot (cString z.name) target' path' dir')
    : target = target' ∧ path = path' ∧ dir = dir' := by
  have hsame := (bundleTargetName_of_name h).symm.trans (bundleTargetName_of_name h')
  rw [Prod.mk.injEq, Option.some.injEq, Zip.mk.injEq] at hsame
  obtain ⟨htarget, _, _, _, _, _, _, hname, hdir, _⟩ := hsame
  refine ⟨htarget, ?_, hdir⟩
  rw [← htarget] at hname h'
  by_cases hnone : target = .none
  . obtain ⟨_, _, hpath⟩ := h.inside
    obtain ⟨_, _, hpath'⟩ := h'.inside
    rw [hnone] at hpath hpath'
    rw [path_of_none hpath, path_of_none hpath']
  . rw [if_neg hnone, if_neg hnone] at hname
    exact hname

end Bundle

end ZZRel
