import ZZ9000.Concurrency.Solo
import ZZ9000.Vcap.Live

/-!
This module contains the register client of `zz_vcap_client.c` over an injected access to the card.
-/

namespace ZZVcap

def vcapLiveStatus : UInt32 := 0x1404
def vcapLiveAppliedRaw : UInt32 := 0x1408
def vcapLiveEffectiveCrop : UInt32 := 0x140c
def vcapLiveStagedRawHi : UInt32 := 0x1410
def vcapLiveStagedRawLo : UInt32 := 0x1412
def vcapLiveCommit : UInt32 := 0x1414
def vcapLiveCommitToken : UInt16 := 0xca1b
def vcapStableAttempts : Nat := 8

/-- `struct zz_vcap_io` -/
structure VcapIo (m : Type → Type) where
  read16 : UInt32 → m UInt16
  write16 : UInt32 → UInt16 → m Unit
  delay : m Unit
  keepRunning : m Bool

/-- The snapshot that two status words enclose. -/
def vcapSnapshotOf (before raw crop after : UInt32) : Option VcapSnapshot :=
  if vcapSnapshotStatusValid before after then
    let (effectiveH, effectiveV) := vcapEffectiveUnpack crop
    some { status := after, raw, effectiveH, effectiveV }
  else
    none

namespace VcapIo

variable {m : Type → Type} [Monad m] (io : VcapIo m)

def read32 (offset : UInt32) : m UInt32 := do
  let high ← io.read16 offset
  let low ← io.read16 (offset + 2)
  return vcapWord high low

/-- The attempt of `zz_vcap_read_stable`. -/
def readTwice (offset : UInt32) : m (Option UInt32) := do
  let first ← io.read32 offset
  let second ← io.read32 offset
  return if first = second then some first else none

/-- `zz_vcap_read_stable`, which gives nothing where it returns `ZZ_VCAP_UNSTABLE`. -/
def readStable (offset : UInt32) : m (Option UInt32) :=
  Concurrency.attempts vcapStableAttempts (io.readTwice offset)

/-- The attempt of a snapshot of the live control, which two functions of the source share. -/
def readSnapshot : m (Option VcapSnapshot) := do
  let before ← io.read32 vcapLiveStatus
  let raw ← io.read32 vcapLiveAppliedRaw
  let crop ← io.read32 vcapLiveEffectiveCrop
  let after ← io.read32 vcapLiveStatus
  return vcapSnapshotOf before raw crop after

end VcapIo

end ZZVcap
