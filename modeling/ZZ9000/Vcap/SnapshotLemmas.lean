import ZZ9000.Vcap.Drives
import ZZ9000.Vcap.PhaseLemmas
import ZZ9000.Vcap.SnapshotCard

/-!
This module contains the verification of `zz_vcap_capture`: what it returns belongs to one snapshot
that was begun after the call.
-/

namespace ZZVcap

open Concurrency
open Concurrency.Coroutine

namespace SnapshotCard

section Bits

variable (high low : UInt16) (valid busy arm : Bool) (flags : UInt16)

end Bits

section Registers

variable (s : SnapshotCard)

end Registers

section Moments

variable {I : SnapshotCard → Prop}

theorem lasting_after (m : SnapshotCard) : Lasting Passes (After m) :=
  fun _ _ hlater h => after_trans h hlater.toAfter

/-- As long as no snapshot has been begun since the moment `m`, `p` holds. -/
def Knows (m : SnapshotCard) (p : Prop) (s : SnapshotCard) : Prop :=
  After m s ∧ (s.begun = m.begun → p)

end Moments

end SnapshotCard

section Rules

open SnapshotCard

variable {assume assert : Empty → SnapshotCard → Prop} {I : SnapshotCard → Prop}

variable {io : VcapIo Capturing}
  (hio : Drives assume assert Passes SnapshotCard.register SnapshotCard.write io)

include hio

end Rules

section Blocks

open SnapshotCard

variable {assume assert : Empty → SnapshotCard → Prop} {io : VcapIo Capturing}
  (hio : Drives assume assert Passes SnapshotCard.register SnapshotCard.write io)

include hio

end Blocks

/-- The data are those of the snapshot. -/
structure Belongs (metadata : Bool) (data : VcapCaptureData) (shot : Shot) : Prop where
  status : data.status = shot.status
  geometry : data.geometry = shot.geometry
  pixels : data.pixels = (List.range captureSamples).map shot.pixels
  metadata : data.metadata
    = (List.range (if metadata then captureMetadataWords else 0)).map shot.metadata

/-- The snapshot is one that the context asks for. -/
structure Matches (context : VcapCaptureContext) (shot : Shot) : Prop where
  standard : context.requirePhase = true →
    (shot.status &&& captureSnapshotNtsc != 0) = context.ntsc
  lace : context.requirePhase = true →
    (shot.status &&& captureSnapshotLace != 0) = context.lace
  phase : context.requirePhase = true → shot.phase = context.phase
  geometry : context.haveGeometry = true → shot.geometry = context.geometry

/-- The data belong to a snapshot that was begun after the moment `s₀`. -/
def Coherent (s₀ : SnapshotCard) (context : VcapCaptureContext) (metadata : Bool)
    (data : VcapCaptureData) (s : SnapshotCard) : Prop :=
  ∃ i shot, s.shots[i]? = some shot ∧ s₀.begun ≤ i ∧ Belongs metadata data shot
    ∧ Matches context shot

section Moments

open SnapshotCard

variable {status before : UInt32}

variable {s₀ mb first m last first' m' last' s : SnapshotCard} {p : Prop} {high : UInt16}

end Moments

section Capture

open SnapshotCard

variable {assume assert : Empty → SnapshotCard → Prop} {io : VcapIo Capturing}
  (hio : Drives assume assert Passes SnapshotCard.register SnapshotCard.write io)

include hio

/-- The data are what the card showed at the moment `m`, with the words that were read before. -/
structure Frame (m : SnapshotCard) (status geometry : UInt32) (metadata : Bool)
    (data : VcapCaptureData) : Prop where
  status : data.status = status
  geometry : data.geometry = geometry
  pixels : data.pixels = (List.range captureSamples).map m.pixels
  metadata : data.metadata
    = (List.range (if metadata then captureMetadataWords else 0)).map m.metadata

end Capture

section Call

open SnapshotCard

variable {context context' : VcapCaptureContext} {metadata : Bool} {card card' : SnapshotCard}
  {answers : List SnapshotAnswer} {marks : Trace SnapshotCard Empty}
  {r : Except VcapResult VcapCaptureData}

end Call

section Observed

open SnapshotCard

def quiet : SnapshotAnswer where
  events := []
  running := true

variable (s : SnapshotCard)

end Observed

end ZZVcap
