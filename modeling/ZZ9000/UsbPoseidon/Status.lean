import Mathlib.Tactic.Common

/-!
This module contains the status codes of the proxy and their classification as errors of an I/O
request.
-/

namespace ZZUsb

-- `ZZUSB_STATUS_*` and `ZZUSB_ENGINE_STATUS_*` are asserted to be equal in `zzusbhw_device.c`.
namespace EngineStatus

def ok : UInt16 := 0x00
def pending : UInt16 := 0x01
def error : UInt16 := 0xff
def timeout : UInt16 := 0xfe
def stall : UInt16 := 0xfd
def nak : UInt16 := 0xfc
def crc : UInt16 := 0xfb
def babble : UInt16 := 0xfa
def overrun : UInt16 := 0xf9
def underrun : UInt16 := 0xf8
def offline : UInt16 := 0xf7
def badParam : UInt16 := 0xf6
def unsupported : UInt16 := 0xf5
def stale : UInt16 := 0xf4
def cancelled : UInt16 := 0xf3
def hostError : UInt16 := 0xf2
def busy : UInt16 := 0xf1
def noMem : UInt16 := 0xf0

end EngineStatus

inductive ErrorClass where
  | none
  | timeout
  | nak
  | stall
  | offline
  | crc
  | babble
  | overflow
  | underflow
  | cancelled
  | host
  | badParameter
  | noMemory
  | unsupported
  deriving DecidableEq, Repr

def classifyStatus (status : UInt16) : ErrorClass :=
  if status = EngineStatus.ok then .none
  else if status = EngineStatus.timeout then .timeout
  else if status = EngineStatus.nak then .nak
  else if status = EngineStatus.stall then .stall
  else if status = EngineStatus.offline then .offline
  else if status = EngineStatus.crc then .crc
  else if status = EngineStatus.babble then .babble
  else if status = EngineStatus.overrun then .overflow
  else if status = EngineStatus.underrun then .underflow
  else if status = EngineStatus.cancelled then .cancelled
  else if status = EngineStatus.badParam then .badParameter
  else if status = EngineStatus.noMem then .noMemory
  else if status = EngineStatus.unsupported then .unsupported
  else .host

/-- `io_Error` of a request, `IOERR_*` or `UHIOERR_*` -/
inductive IoError where
  | noError
  | aborted
  | noCmd
  | nak
  | stall
  | timeout
  | usbOffline
  | crcError
  | babble
  | overflow
  | runtPacket
  | badParams
  | pktTooLarge
  | outOfMemory
  | hostError
  deriving DecidableEq, Repr

-- `map_proxy_status` without the write of `completion_status` to the active work slot.
def mapProxyStatus (status : UInt16) : IoError :=
  match classifyStatus status with
  | .none => .noError
  | .nak => .nak
  | .stall => .stall
  | .timeout => .timeout
  | .offline => .usbOffline
  | .crc => .crcError
  | .babble => .babble
  | .overflow => .overflow
  | .underflow => .runtPacket
  | .badParameter | .unsupported => .badParams
  | .noMemory => .outOfMemory
  | .cancelled => .aborted
  | .host => .hostError

def proxyStatusForIoError (error : IoError) : UInt16 :=
  match error with
  | .noError => EngineStatus.ok
  | .aborted => EngineStatus.cancelled
  | .noCmd => EngineStatus.unsupported
  | .nak => EngineStatus.nak
  | .stall => EngineStatus.stall
  | .timeout => EngineStatus.timeout
  | .usbOffline => EngineStatus.offline
  | .crcError => EngineStatus.crc
  | .babble => EngineStatus.babble
  | .overflow => EngineStatus.overrun
  | .runtPacket => EngineStatus.underrun
  | .badParams | .pktTooLarge => EngineStatus.badParam
  | .outOfMemory => EngineStatus.noMem
  | .hostError => EngineStatus.hostError

def stopStatusRetired (status : UInt16) : Bool :=
  status = EngineStatus.ok || status = EngineStatus.nak || status = EngineStatus.offline
    || status = EngineStatus.stale

end ZZUsb
