import TeeIoValidator.Model.Register

/-! The receivers' minima in `CXL_IDE_CAPABILITY_STRUCT`, and the transmitters' control registers
that are raised to them. -/

namespace TeeIoValidator.CxlTxControl

/-! ## `CXL_IDE_CAPABILITY_STRUCT` -/

def keyRefreshTimeCapability : ℕ := 4
def truncationTransmitDelayCapability : ℕ := 5
def keyRefreshTimeControl : ℕ := 6
def truncationTransmitDelayControl : ℕ := 7
def keyRefreshTimeCapability2 : ℕ := 8

def rxMinKeyRefreshTime : Field := ⟨0, 32, by decide⟩
def txKeyRefreshTime : Field := ⟨0, 32, by decide⟩
def rxMinTruncationTransmitDelay : Field := ⟨0, 8, Field.fits_0_8⟩
def rxMinTruncationTransmitDelay2 : Field := ⟨8, 8, Field.fits_8_8⟩
def txTruncationTransmitDelay : Field := ⟨0, 8, Field.fits_0_8⟩

/-- The ports: what `pcie_check_flit_mode_enabled` says of the host port, and the registers from
`cxl_ide_capability_struct_ptr` on, none for NULL. -/
structure Ports where
  pcieFlitEnabled : Bool
  host : Option Registers
  dev : Option Registers

/-! ## The minima -/

/-- `cxl_get_key_refresh_cap_ptr`, as a register of the structure. -/
def cxlGetKeyRefreshCapPtr (pcieFlitEnabled : Bool) : ℕ :=
  if pcieFlitEnabled then keyRefreshTimeCapability2 else keyRefreshTimeCapability

/-- `cxl_get_rx_min_truncation_delay`. -/
def cxlGetRxMinTruncationDelay (cap : Dword) (pcieFlitEnabled : Bool) : ℕ :=
  if pcieFlitEnabled then rxMinTruncationTransmitDelay2.get cap
  else rxMinTruncationTransmitDelay.get cap

/-- What a port advertises as the minimum between key refreshes. -/
def minKeyRefreshTime (pcieFlitEnabled : Bool) (regs : Registers) : ℕ :=
  rxMinKeyRefreshTime.get (mmioReadReg32 regs (cxlGetKeyRefreshCapPtr pcieFlitEnabled))

/-- What a port advertises as the minimal delay of a truncation. -/
def minTruncationDelay (pcieFlitEnabled : Bool) (regs : Registers) : ℕ :=
  cxlGetRxMinTruncationDelay (mmioReadReg32 regs truncationTransmitDelayCapability) pcieFlitEnabled

/-! ## The control registers -/

/-- One side of either function: a field below the minimum is raised, by a write of the minimum to
the whole register. -/
def program (control : ℕ) (tx : Field) (rxMin : ℕ) (regs : Registers) : Registers :=
  if tx.get (mmioReadReg32 regs control) < rxMin then
    mmioWriteReg32 regs control (BitVec.ofNat 32 rxMin)
  else regs

/-- `cxl_ide_set_key_refresh_control_reg`. -/
def cxlIdeSetKeyRefreshControlReg (p : Ports) : Bool × Ports :=
  match p.host, p.dev with
  | some host, some dev =>
    let host := program keyRefreshTimeControl txKeyRefreshTime
      (minKeyRefreshTime p.pcieFlitEnabled dev) host
    let dev := program keyRefreshTimeControl txKeyRefreshTime
      (minKeyRefreshTime p.pcieFlitEnabled host) dev
    (true, ⟨p.pcieFlitEnabled, some host, some dev⟩)
  | _, _ => (false, p)

/-- `cxl_ide_set_truncation_transmit_control_reg`. -/
def cxlIdeSetTruncationTransmitControlReg (p : Ports) : Bool × Ports :=
  match p.host, p.dev with
  | some host, some dev =>
    let host := program truncationTransmitDelayControl txTruncationTransmitDelay
      (minTruncationDelay p.pcieFlitEnabled dev) host
    let dev := program truncationTransmitDelayControl txTruncationTransmitDelay
      (minTruncationDelay p.pcieFlitEnabled host) dev
    (true, ⟨p.pcieFlitEnabled, some host, some dev⟩)
  | _, _ => (false, p)

/-- The two functions, as the set-up of a group calls them. -/
def setControlRegs (p : Ports) : Bool × Ports :=
  match cxlIdeSetKeyRefreshControlReg p with
  | (false, p) => (false, p)
  | (true, p) => cxlIdeSetTruncationTransmitControlReg p

end TeeIoValidator.CxlTxControl
