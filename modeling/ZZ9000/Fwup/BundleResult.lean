import ZZ9000.Fwup.Bundle

/-!
This module relates the result that `fwup_install_bundle` fills in to the status that it returns.
-/

namespace ZZFwup

variable {σ : Type}

/-- The transfer of a module fails, and those of the modules before it do not. -/
inductive ModuleFails (io : FwupIo σ) (files : BundleFiles) (dir : List Char) (total : UInt32)
    : List BundleModule → BundleRun σ → List Char → Prop where
  | here {entry : BundleModule} {modules : List BundleModule} {run : BundleRun σ}
    {path : List Char} :
    makeModulePath dir entry.name = some path →
      (run.sendBundleFile io files path (modulePrefix ++ entry.name) total).1 ≠ Status.ok →
      ModuleFails io files dir total (entry :: modules) run entry.name
  | later {entry : BundleModule} {modules : List BundleModule} {run : BundleRun σ}
    {path name : List Char} :
    makeModulePath dir entry.name = some path →
      (run.sendBundleFile io files path (modulePrefix ++ entry.name) total).1 = Status.ok →
      ModuleFails io files dir total modules
        (run.sendBundleFile io files path (modulePrefix ++ entry.name) total).2 name →
      ModuleFails io files dir total (entry :: modules) run name

/-- The run when the transfers begin. -/
def BundleRun.start (client : FwupClient σ) (total : UInt32) : BundleRun σ :=
  BundleRun.report { client, done := 0, progress := [] } [] total

/-- An installation in which the transfer of a module fails. -/
def BundleModuleFails (io : FwupIo σ) (fwCaps : UInt16) (bootHostPath : List Char)
    (files : BundleFiles) (client : FwupClient σ) (name : List Char) : Prop :=
  ∃ bootSize dir modules total, files.fileSize bootHostPath = some bootSize
    ∧ collectModules fwCaps bootHostPath files bootSize = .ok (dir, modules, total)
    ∧ ModuleFails io files dir total modules (.start client total) name

/-- The result says what the status says, and which module failed. -/
structure BundleAgrees (st : UInt16) (result : BundleResult) (failed : List Char → Prop) : Prop where
  status : result.status = st
  installed : result.outcome = .installed → st = Status.ok
  failed : ∀ name, result.outcome = .moduleFailed ∧ result.failedModule = name ↔ failed name

/--
No exit is taken that leaves the result as it was at the beginning: the boot file has a size, the
modules are found, and either the transfer of one of them fails or all have been sent. Then the
transfer of the boot file succeeds, unless the firmware has no module directory.
-/
inductive BundleReported (io : FwupIo σ) (fwCaps : UInt16) (bootHostPath : List Char)
    (files : BundleFiles) (client : FwupClient σ) : Prop where
  | moduleFails (name : List Char) :
    BundleModuleFails io fwCaps bootHostPath files client name →
      BundleReported io fwCaps bootHostPath files client
  | sent {bootSize : UInt32} {dir : List Char} {modules : List BundleModule} {total : UInt32} :
    files.fileSize bootHostPath = some bootSize →
      collectModules fwCaps bootHostPath files bootSize = .ok (dir, modules, total) →
      ((BundleRun.start client total).sendModules io files dir total modules).1 = Status.ok →
      (hasModuleDir fwCaps = false ∨
        (((BundleRun.start client total).sendModules io files dir total modules).2.2.sendBundleFile
          io files bootHostPath bootTarget total).1 = Status.ok) →
      BundleReported io fwCaps bootHostPath files client

/-- The loop reports the module whose transfer fails. -/
theorem sendModules_failed (io : FwupIo σ) (files : BundleFiles) (dir : List Char) (total : UInt32)
    (modules : List BundleModule) (run : BundleRun σ) (name : List Char)
    : (run.sendModules io files dir total modules).2.1 = some name
        ↔
      ModuleFails io files dir total modules run name := by
  induction modules generalizing run with
  | nil =>
    unfold BundleRun.sendModules
    constructor
    . intro h
      contradiction
    . intro h
      nomatch h
  | cons entry modules ih =>
    unfold BundleRun.sendModules
    split
    . next hpath =>
      constructor
      . intro h
        contradiction
      . intro h
        cases h with
        | here hsome => rw [hpath] at hsome; contradiction
        | later hsome => rw [hpath] at hsome; contradiction
    . next path hpath =>
      dsimp only
      split
      . next hfailed =>
        constructor
        . intro h
          simp only [Option.some.injEq] at h
          rw [← h]
          exact .here hpath hfailed
        . intro h
          cases h with
          | here => rfl
          | later hsome hok =>
            rw [hpath] at hsome
            simp only [Option.some.injEq] at hsome
            rw [hsome] at hfailed
            contradiction
      . next hok =>
        rw [not_not] at hok
        rw [ih]
        constructor
        . intro h
          exact .later hpath hok h
        . intro h
          cases h with
          | here hsome hfailed =>
            rw [hpath] at hsome
            simp only [Option.some.injEq] at hsome
            rw [hsome] at hok
            contradiction
          | later hsome _ hrest =>
            rw [hpath] at hsome
            simp only [Option.some.injEq] at hsome
            rw [hsome]
            exact hrest

/-- A bundle that cannot be collected is reported with a status that is not OK. -/
theorem collectModules_error {fwCaps : UInt16} {bootHostPath : List Char} {files : BundleFiles}
    {bootSize : UInt32} {st : UInt16}
    (h : collectModules fwCaps bootHostPath files bootSize = .error st)
    : st ≠ Status.ok := by
  unfold collectModules at h
  split at h
  . split at h
    . simp only [Except.error.injEq] at h
      rw [← h]
      decide
    . dsimp only at h
      split at h
      . simp only [Except.error.injEq] at h
        rw [← h]
        split
        . assumption
        . decide
      . split at h
        . simp only [Except.error.injEq] at h
          rw [← h]
          decide
        . contradiction
  . contradiction

/-- The result agrees with the returned status, if and only if it is reported. -/
theorem installBundle_agrees_iff (io : FwupIo σ) (fwCaps : UInt16) (bootHostPath : List Char)
    (files : BundleFiles) (client : FwupClient σ)
    : BundleAgrees (installBundle io fwCaps bootHostPath files client).1
          (installBundle io fwCaps bootHostPath files client).2.1
          (BundleModuleFails io fwCaps bootHostPath files client)
        ↔
      BundleReported io fwCaps bootHostPath files client := by
  -- A result that was left as it was at the beginning does not agree with a failure.
  have hstale {st : UInt16} {failed : List Char → Prop} (hst : st ≠ Status.ok)
      : ¬BundleAgrees st ⟨Status.ok, .installed, []⟩ failed :=
    fun h => hst h.status.symm
  unfold installBundle
  dsimp only
  cases hsize : files.fileSize bootHostPath with
  | none =>
    dsimp only
    apply iff_of_false
    . exact hstale (by decide)
    . intro h
      cases h with
      | moduleFails name h =>
        obtain ⟨_, _, _, _, hsome, _⟩ := h
        rw [hsize] at hsome
        contradiction
      | sent hsome =>
        rw [hsize] at hsome
        contradiction
  | some bootSize =>
    dsimp only
    cases hcollect : collectModules fwCaps bootHostPath files bootSize with
    | error st =>
      dsimp only
      apply iff_of_false
      . exact hstale (collectModules_error hcollect)
      . intro h
        cases h with
        | moduleFails name h =>
          obtain ⟨_, _, _, _, hsome, hok, _⟩ := h
          rw [hsize] at hsome
          cases hsome
          rw [hcollect] at hok
          contradiction
        | sent hsome hok =>
          rw [hsize] at hsome
          cases hsome
          rw [hcollect] at hok
          contradiction
    | ok collected =>
      obtain ⟨dir, modules, total⟩ := collected
      have hfails (name : List Char)
          : BundleModuleFails io fwCaps bootHostPath files client name
              ↔
            ModuleFails io files dir total modules (.start client total) name := by
        constructor
        . intro h
          obtain ⟨_, _, _, _, hsome, hok, h⟩ := h
          rw [hsize] at hsome
          cases hsome
          rw [hcollect] at hok
          cases hok
          exact h
        . intro h
          exact ⟨bootSize, dir, modules, total, hsize, hcollect, h⟩
      have hsent := sendModules_failed io files dir total modules (.start client total)
      have hstart : BundleRun.report { client, done := 0, progress := [] } [] total
          = BundleRun.start client total := by
        rfl
      dsimp only
      rw [hstart]
      cases hsend : (BundleRun.start client total).sendModules io files dir total modules with
      | mk st sent =>
        obtain ⟨name?, run⟩ := sent
        rw [hsend] at hsent
        cases name? with
        | some name =>
          have hname := (hsent name).mp rfl
          dsimp only
          apply iff_of_true
          . constructor
            . rfl
            . intro h
              contradiction
            . intro other
              rw [hfails, ← hsent]
              simp
          . exact .moduleFails name ((hfails name).mpr hname)
        | none =>
          have hnone (name : List Char)
              : ¬BundleModuleFails io fwCaps bootHostPath files client name := by
            rw [hfails, ← hsent]
            simp
          dsimp only
          split
          . next hst =>
            apply iff_of_false
            . intro h
              have := h.status
              split at this
              . exact hst this.symm
              . exact hst this.symm
            . intro h
              cases h with
              | moduleFails name h => exact hnone name h
              | sent hsome hok hall =>
                rw [hsize] at hsome
                cases hsome
                rw [hcollect] at hok
                cases hok
                rw [hsend] at hall
                exact hst hall
          . next hst =>
            rw [not_not] at hst
            cases hdir : hasModuleDir fwCaps with
            | false =>
              apply iff_of_true
              . constructor
                . rfl
                . intro h
                  contradiction
                . intro name
                  apply iff_of_false
                  . intro h
                    nomatch h.1
                  . exact hnone name
              . apply BundleReported.sent hsize hcollect
                . rw [hsend]
                  exact hst
                . exact .inl hdir
            | true =>
              constructor
              . intro h
                apply BundleReported.sent hsize hcollect
                . rw [hsend]
                  exact hst
                . right
                  rw [hsend]
                  exact h.installed rfl
              . intro h
                have hboot : (run.sendBundleFile io files bootHostPath bootTarget total).1
                    = Status.ok := by
                  cases h with
                  | moduleFails name h => exact absurd h (hnone name)
                  | sent hsome hok _ hboot =>
                    rw [hsize] at hsome
                    cases hsome
                    rw [hcollect] at hok
                    cases hok
                    rw [hsend, hdir] at hboot
                    simpa using hboot
                constructor
                . rfl
                . intro _
                  exact hboot
                . intro name
                  apply iff_of_false
                  . intro h
                    nomatch h.1
                  . exact hnone name

/-- A host without files. -/
def noFiles : BundleFiles where
  listDir _ := { entries := [], ret := 0, nodup := List.nodup_nil }
  fileSize _ := none
  openFile _ := none

def idleIo : FwupIo Unit where
  readStatus ctx := (Status.ok, ctx)
  writeCmd _ ctx := ctx
  writeLen _ ctx := ctx
  stage _ ctx := ctx
  readMirror := none
  idle := none

/-- A boot file that does not exist is an installed bundle, as far as the result says. -/
theorem installBundle_disagrees
    : ¬BundleAgrees (installBundle idleIo 0 bootTarget noFiles ⟨(), []⟩).1
        (installBundle idleIo 0 bootTarget noFiles ⟨(), []⟩).2.1
        (BundleModuleFails idleIo 0 bootTarget noFiles ⟨(), []⟩) := by
  intro h
  have hst := h.status
  have hstale : Status.ok = Status.file := hst
  contradiction

end ZZFwup
