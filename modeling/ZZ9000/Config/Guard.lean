import ZZ9000.Config.Settings

/-!
This module contains the guard of `settings.c` around the saves of the firmware: the firmware writes
its audio keys to ZZ9000.CFG, and the guard puts back what was on the card next to them.
-/

namespace ZZCfg

open ZZFwup

/-- `struct settings_guard`. -/
structure SettingsGuard where
  valid : Bool
  before : ZzcfgValues

namespace SettingsGuard

open SettingsState

variable {σ : Type}

def settingsGuardBegin (board : Board σ) (cfg : SettingsState) (guard : SettingsGuard) (ctx : σ)
    : (Bool × SettingsGuard) × σ :=
  let guard := { guard with valid := false }
  if cfg.supported = false then
    ((true, guard), ctx)
  else
    let (card, ctx) := readCard board cfg true ctx
    let guard := { guard with before := card.values }
    if card.status = FileStatus.noFile then
      ((true, guard), ctx)
    else if card.status ≠ FileStatus.ok then
      ((false, guard), ctx)
    else
      ((true, { guard with valid := true }), ctx)

/-- The record `before` with the block from `audio_active` to the end of the record `after`. -/
def spliceAudio (before after : ZzcfgValues) : ZzcfgValues :=
  { before with
    audioActive := after.audioActive
    audioActivePresent := after.audioActivePresent
    audioBaseline := after.audioBaseline
    audioBaselinePresent := after.audioBaselinePresent
    audioCeilingPaula := after.audioCeilingPaula
    audioCeilingPaulaPresent := after.audioCeilingPaulaPresent
    audioCeilingAx := after.audioCeilingAx
    audioCeilingAxPresent := after.audioCeilingAxPresent
    audioScene := after.audioScene }

def settingsGuardEnd (board : Board σ) (cfg : SettingsState) (guard : SettingsGuard)
    (client : FwupClient σ)
    : (UInt16 × SettingsGuard) × FwupClient σ :=
  if guard.valid = false then
    ((Status.ok, guard), client)
  else
    let (card, ctx) := readCard board cfg true client.ctx
    let client := { client with ctx }
    if card.status ≠ FileStatus.ok then
      ((errOpen, guard), client)
    else
      let guard := { guard with before := spliceAudio guard.before card.values }
      -- a text that does not fit has length 0
      let textA := (zzcfgGenerate guard.before maxSize).getD []
      let textB := (zzcfgGenerate card.values maxSize).getD []
      let (st, client) :=
        if textA ≠ textB then zzcfgSave board.fwup guard.before client else (Status.ok, client)
      if st = Status.ok then
        ((st, { guard with valid := false }), client)
      else
        ((st, guard), client)

/-- The guard after calls of `settings_guard_end` that have all failed. -/
inductive Retried (board : Board σ) (begun : SettingsGuard) : SettingsGuard → Prop where
  | first : Retried board begun begun
  | failed {guard : SettingsGuard} (cfg : SettingsState) (client : FwupClient σ) :
    Retried board begun guard →
    (settingsGuardEnd board cfg guard client).1.1 ≠ Status.ok →
    Retried board begun (settingsGuardEnd board cfg guard client).1.2

end SettingsGuard

end ZZCfg
