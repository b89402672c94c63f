import ZZ9000.UsbPoseidon.Status

/-!
This module contains the root hub of a unit: the state of its port and the four paths of
`zzusbhw_device.c` that rewrite it.
-/

namespace ZZUsb

namespace Speed

def low : UInt16 := 0
def full : UInt16 := 1
def high : UInt16 := 2

end Speed

/-- The bits `UPSF_PORT_*` of `zz_PortStatus` -/
structure PortStatus where
  power : Bool
  connection : Bool
  enable : Bool
  suspend : Bool
  reset : Bool
  highSpeed : Bool
  lowSpeed : Bool
  deriving DecidableEq, Repr

/-- The bits `UPSF_C_PORT_*` of `zz_PortChange` -/
structure PortChange where
  connection : Bool
  enable : Bool
  suspend : Bool
  overCurrent : Bool
  reset : Bool
  deriving DecidableEq, Repr

def PortStatus.powerOnly : PortStatus where
  power := true
  connection := false
  enable := false
  suspend := false
  reset := false
  highSpeed := false
  lowSpeed := false

def PortChange.none : PortChange where
  connection := false
  enable := false
  suspend := false
  overCurrent := false
  reset := false

def PortChange.connectionOnly : PortChange := { PortChange.none with connection := true }

structure RootHub where
  portPresent : Bool
  portDead : Bool
  rootHubAddr : UInt16
  portChange : PortChange
  portStatus : PortStatus
  speed : UInt16
  deriving DecidableEq, Repr

/-- What a request leaves in its `IOUsbHWReq`. -/
structure PortReply where
  error : IoError
  operational : Option Bool
  deriving DecidableEq, Repr

/-- The status that the proxy answers to `CHECK_PORT` or `RESET_PORT`, and the speed it reports. -/
structure PortAnswer where
  status : UInt16
  speed : UInt16
  deriving DecidableEq, Repr

inductive HubFeature where
  | portConnection
  | portEnable
  | portSuspend
  | portOverCurrent
  | portReset
  | portPower
  | portLowSpeed
  | cPortConnection
  | cPortEnable
  | cPortSuspend
  | cPortOverCurrent
  | cPortReset
  | unknown
  deriving DecidableEq, Repr

inductive HubRecipient where
  | device
  | other
  | unknown
  deriving DecidableEq, Repr

def numPorts : UInt16 := 1

namespace RootHub

def init : RootHub where
  portPresent := false
  portDead := false
  rootHubAddr := 0
  portChange := .none
  portStatus := .powerOnly
  speed := 0

def markDirectLowSpeedUnsupported (unit : RootHub) : RootHub :=
  { unit with
    portDead := true
    portPresent := false
    speed := Speed.low
    portStatus := .powerOnly
    portChange := .connectionOnly }

/-- The status of a connected port, which stays enabled and suspended while its speed does. -/
def connectedStatus (unit : RootHub) (speed : UInt16) : PortStatus :=
  let same := unit.portPresent && unit.speed = speed
  { PortStatus.powerOnly with
    connection := true
    enable := same && unit.portStatus.enable
    suspend := same && unit.portStatus.suspend
    highSpeed := speed = Speed.high
    lowSpeed := speed ≠ Speed.high && speed = Speed.low }

def updatePortState (unit : RootHub) (answer : PortAnswer) : RootHub :=
  if answer.status = EngineStatus.ok then
    if unit.portDead then
      unit
    else if answer.speed = Speed.low then
      unit.markDirectLowSpeedUnsupported
    else
      let portStatus := unit.connectedStatus answer.speed
      if !unit.portPresent || unit.speed ≠ answer.speed then
        { unit with
          portPresent := true
          speed := answer.speed
          portStatus := portStatus
          portChange := .connectionOnly }
      else
        { unit with portStatus := portStatus }
  else if answer.status = EngineStatus.offline then
    let unit := { unit with portDead := false }
    if unit.portPresent then
      { unit with
        portPresent := false
        speed := 0
        portStatus := .powerOnly
        portChange := .connectionOnly }
    else
      unit
  else
    -- A failure of the mailbox says nothing about the physical connection.
    unit

/--
`UHCMD_USBRESET`. The second answer is the one to the `CHECK_PORT` that is only sent after a failed
reset.
-/
def usbReset (unit : RootHub) (answer check : PortAnswer) : RootHub × PortReply :=
  let unit := { unit with rootHubAddr := 0 }
  let done := ⟨.noError, some true⟩
  if answer.status = EngineStatus.ok then
    if answer.speed = Speed.low then
      (unit.markDirectLowSpeedUnsupported, done)
    else
      let portStatus := { PortStatus.powerOnly with connection := true }
      let portStatus :=
        if answer.speed = Speed.high then
          { portStatus with highSpeed := true }
        else
          { portStatus with enable := true, lowSpeed := answer.speed = Speed.low }
      ({ unit with
         speed := answer.speed
         portPresent := true
         portStatus := portStatus
         portChange := .connectionOnly },
       done)
  else
    let failed := ⟨mapProxyStatus answer.status, some false⟩
    if answer.status = EngineStatus.offline ∧ answer.speed = Speed.low then
      (unit.markDirectLowSpeedUnsupported, done)
    else if check.status = EngineStatus.offline then
      ({ unit with
         portPresent := false
         portStatus := .powerOnly
         portChange := .none
         speed := 0 },
       done)
    else
      (unit, failed)

/-- `SET_FEATURE(PORT_RESET)` -/
def setPortReset (unit : RootHub) (answer : PortAnswer) : RootHub :=
  if unit.portDead then
    { unit with
      portPresent := false
      portStatus := .powerOnly
      portChange := { unit.portChange with reset := false } }
  else
    let unit := { unit with
      portStatus := { unit.portStatus with reset := false }
      portChange := { unit.portChange with reset := false } }
    if (answer.status = EngineStatus.ok ∨ answer.status = EngineStatus.offline)
        ∧ answer.speed = Speed.low then
      unit.markDirectLowSpeedUnsupported
    else if answer.status = EngineStatus.ok then
      { unit with
        speed := answer.speed
        portStatus := { unit.portStatus with
          enable := true
          highSpeed := answer.speed = Speed.high
          lowSpeed := answer.speed ≠ Speed.high && answer.speed = Speed.low }
        portChange := { unit.portChange with reset := true } }
    else
      { unit with
        portStatus := { unit.portStatus with
          enable := false
          highSpeed := false
          lowSpeed := false }
        portChange := { unit.portChange with reset := true } }

def setFeature (unit : RootHub) (recipient : HubRecipient) (port : UInt16) (feature : HubFeature)
    (answer : PortAnswer) : RootHub × PortReply :=
  let done := ⟨.noError, none⟩
  let stall := ⟨.stall, none⟩
  match recipient with
  | .device => (unit, done)
  | .unknown => (unit, stall)
  | .other =>
    if port > 0 ∧ port ≤ numPorts then
      match feature with
      | .portReset => (unit.setPortReset answer, done)
      | .portPower => ({ unit with portStatus := { unit.portStatus with power := true } }, done)
      | .portSuspend => ({ unit with portStatus := { unit.portStatus with suspend := true } }, done)
      | _ => (unit, stall)
    else
      (unit, stall)

def clearFeature (unit : RootHub) (recipient : HubRecipient) (port : UInt16) (feature : HubFeature)
    : RootHub × PortReply :=
  let done := ⟨.noError, none⟩
  let stall := ⟨.stall, none⟩
  let change (portChange : PortChange) := ({ unit with portChange := portChange }, done)
  match recipient with
  | .device => (unit, done)
  | .unknown => (unit, stall)
  | .other =>
    if port > 0 ∧ port ≤ numPorts then
      match feature with
      | .portEnable => ({ unit with portStatus := { unit.portStatus with enable := false } }, done)
      | .cPortConnection => change { unit.portChange with connection := false }
      | .cPortEnable => change { unit.portChange with enable := false }
      | .cPortReset => change { unit.portChange with reset := false }
      | .cPortSuspend => change { unit.portChange with suspend := false }
      | .cPortOverCurrent => change { unit.portChange with overCurrent := false }
      | _ => (unit, stall)
    else
      (unit, stall)

end RootHub

/-- The paths that rewrite the port, with the answers of the proxy in them. -/
inductive PortOp where
  | update (answer : PortAnswer)
  | usbReset (answer check : PortAnswer)
  | setFeature (recipient : HubRecipient) (port : UInt16) (feature : HubFeature)
      (answer : PortAnswer)
  | clearFeature (recipient : HubRecipient) (port : UInt16) (feature : HubFeature)
  deriving DecidableEq, Repr

def PortOp.apply (op : PortOp) (unit : RootHub) : RootHub :=
  match op with
  | .update answer => unit.updatePortState answer
  | .usbReset answer check => (unit.usbReset answer check).1
  | .setFeature recipient port feature answer => (unit.setFeature recipient port feature answer).1
  | .clearFeature recipient port feature => (unit.clearFeature recipient port feature).1

/-- All states that a sequence of operations goes through. -/
def portRun (unit : RootHub) (ops : List PortOp) : List RootHub :=
  match ops with
  | [] => [unit]
  | op :: ops => unit :: portRun (op.apply unit) ops

end ZZUsb
