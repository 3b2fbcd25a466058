import TeeIoValidator.Model.GroupSetup.Process

/-! The table of the devices whose configuration spaces are open, as its functions leave it over
any calls. -/

namespace TeeIoValidator.DeviceTable

open GroupSetup

/-- `devices` before the first call. -/
def zeroed : List DeviceInfo := List.replicate maxSupportDeviceNum ⟨0, ""⟩

/-- The loop of `set_deivce_info`: what it returns, and the table; none when the slot of the
descriptor has another name. -/
def setLoop (fd : ℕ) (deviceName : String) : List DeviceInfo → Option (Bool × List DeviceInfo)
  | [] => some (false, [])
  | d :: ds =>
    if d.fd = fd then if d.deviceName = deviceName then some (true, d :: ds) else none
    else if d.fd = 0 then some (true, ⟨fd, deviceName⟩ :: ds)
    else (setLoop fd deviceName ds).map fun result => (result.1, d :: result.2)

/-- `set_deivce_info`; none when an assertion failed. A name that is none is NULL. -/
def setDeivceInfo (fd : ℤ) (deviceName : Option String) (devices : List DeviceInfo) :
    Option (Bool × List DeviceInfo) :=
  match deviceName with
  | none => none
  | some deviceName =>
    if fd ≤ 0 ∨ maxNameLength - 1 < deviceName.length then none
    else setLoop fd.toNat deviceName devices

/-- `unset_device_info`; none when the assertion failed. -/
def unsetDeviceInfo (fd : ℤ) (devices : List DeviceInfo) : Option (Bool × List DeviceInfo) :=
  if fd ≤ 0 then none else some (true, clearSlot fd.toNat devices)

/-- `get_device_info_by_fd`; none when the assertion failed. -/
def getDeviceInfoByFd (fd : ℤ) (devices : List DeviceInfo) : Option (Option DeviceInfo) :=
  if fd ≤ 0 then none else some (devices.find? (·.fd = fd.toNat))

inductive DeviceCall where
  | set (fd : ℤ) (deviceName : Option String)
  | unset (fd : ℤ)
  deriving Repr, DecidableEq

/-- The table after a call that returned. -/
def perform (devices : List DeviceInfo) : DeviceCall → Option (List DeviceInfo)
  | .set fd deviceName => (setDeivceInfo fd deviceName devices).map Prod.snd
  | .unset fd => (unsetDeviceInfo fd devices).map Prod.snd

/-- The table after the calls; none when an assertion of one of them failed, which stops the
program. -/
def run (calls : List DeviceCall) : Option (List DeviceInfo) := calls.foldlM perform zeroed

/-! ## What the table is for -/

/-- What a call leaves of the data of the descriptor. -/
def dataAfter (fd : ℤ) (current : Option String) : DeviceCall → Option String
  | .set fd' deviceName => if fd' = fd then deviceName else current
  | .unset fd' => if fd' = fd then none else current

/-- The name in the most recent set of the descriptor, unless it has been unset since. -/
def latest (calls : List DeviceCall) (fd : ℤ) : Option String := calls.foldl (dataAfter fd) none

end TeeIoValidator.DeviceTable
