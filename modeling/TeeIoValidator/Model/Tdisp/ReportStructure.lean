import TeeIoValidator.Library.Tracked
import TeeIoValidator.Model.Tdisp.Case

/-! `tdisp_test_interface_report_5_run` with the bytes of the report that it reads. -/

namespace TeeIoValidator.Tdisp

open Report

/-! ## Reads -/

/-- Bytes that are read, whose indices are of the type `uint32_t`. -/
def bytesRead (first n : ℕ) : Reads := (List.range n).map fun k => ((first + k) % 2 ^ 32, 1)

/-- The report at an index of the type `uint32_t`. -/
def wrapped (report : ℕ → UInt8) (i : ℕ) : UInt8 := report (i % 2 ^ 32)

def readData16 (report : ℕ → UInt8) (first : ℕ) : Reads × ℕ :=
  (bytesRead first 2, le16 (wrapped report) first)

def readData32 (report : ℕ → UInt8) (first : ℕ) : Reads × ℕ :=
  (bytesRead first 4, le32 (wrapped report) first)

/-! ## The run function -/

/-- What the run function does with the report it fetched. -/
def reportStructureRun (report : ℕ → UInt8) (bufferSize : ℕ) : Reads × List Assertion :=
  let (infoReads, interfaceInfo) := readData16 report 0
  let (countReads, mmioRangeCount) := readData32 report 12
  let (lenReads, deviceSpecificInfoLen) := readData32 report (16 + mmioRangeCount * 16)
  let reads := infoReads ++ (countReads ++ lenReads)
  let res := bufferSize == (16 + mmioRangeCount * 16 + 4 + deviceSpecificInfoLen) % 2 ^ 32
  if !res then (reads, [.check 6 false "sizeof(REPORT_BYTES) = 0x%x" []])
  else
    let ranges := (List.range mmioRangeCount).map fun i => readData32 report (16 + i * 16 + 12)
    (reads ++ ranges.flatMap Prod.fst,
      [.check 6 true "sizeof(REPORT_BYTES) = 0x%x" [],
        .check 7 (interfaceInfo &&& 0xFFE0 == 0) "(REPORT_BYTES.INTERFACE_INFO & 0xFFE0) = 0x%x"
          [interfaceInfo &&& 0xFFE0]] ++
      ranges.map fun (_, rangeAttributes) =>
        .check 8 (rangeAttributes &&& 0xFFF0 == 0)
          "(REPORT_BYTES.MMIO_RANGE[i].RangeAttributes & 0xFFF0) = 0x%x"
          [rangeAttributes &&& 0xFFF0])

/-- `tdisp_test_get_interface_report` as the run function calls it. -/
def fetchInterfaceReport (env : Environment) (fuel : ℕ) (w : World) :
    Option (Bool × State TdispHeader) :=
  let replies := fun k => (env.reply (w.exchanges + k)).reportReply (env.stack (w.exchanges + k))
  tdispTestGetInterfaceReport env.portionLen env.functionId replies env.reportMaxSize
    env.reportStack fuel

/-- The run function: what it reads of the report, whether it goes on, and the state. -/
def tdispTestInterfaceReport5Run (env : Environment) (fuel : ℕ) (w : World) :
    Option (Reads × Bool × World) :=
  match fetchInterfaceReport env fuel w with
  | none => none
  | some (res, report) =>
    let w := { w.record report.records with
      exchanges := w.exchanges + report.requests.length
      requests := w.requests ++ report.requests.map fun request =>
        (.run, .getInterfaceReport request.offset request.length) }
    if res then
      let (reads, records) := reportStructureRun report.buffer report.size
      some (reads, true, w.record records)
    else some ([], false, w)

/-! ## What the case is for -/

/-- The number of MMIO ranges. -/
def rangeCount (report : ℕ → UInt8) : ℕ := le32 report 12

/-- The length of the device specific information, which follows the ranges. -/
def infoLen (report : ℕ → UInt8) : ℕ := le32 report (16 + 16 * rangeCount report)

def rangeAttributes (report : ℕ → UInt8) (i : ℕ) : ℕ := le32 report (16 + 16 * i + 12)

/-- The records that a report of a size deserves. -/
def documentedRecords (report : ℕ → UInt8) (size : ℕ) : List Assertion :=
  if size = 16 + 16 * rangeCount report + 4 + infoLen report then
    [.check 6 true "sizeof(REPORT_BYTES) = 0x%x" [],
      .check 7 (le16 report 0 &&& 0xFFE0 == 0) "(REPORT_BYTES.INTERFACE_INFO & 0xFFE0) = 0x%x"
        [le16 report 0 &&& 0xFFE0]] ++
    (List.range (rangeCount report)).map fun i =>
      .check 8 (rangeAttributes report i &&& 0xFFF0 == 0)
        "(REPORT_BYTES.MMIO_RANGE[i].RangeAttributes & 0xFFF0) = 0x%x"
        [rangeAttributes report i &&& 0xFFF0]
  else [.check 6 false "sizeof(REPORT_BYTES) = 0x%x" []]

/-- After a report was delivered, only its bytes are read and the records are those that it
deserves. -/
def ReportMeets (env : Environment) (fuel : ℕ) (w : World) : Prop :=
  ∀ report, fetchInterfaceReport env fuel w = some (true, report) →
    ∃ reads v, tdispTestInterfaceReport5Run env fuel w = some (reads, true, v) ∧
      reads.Within report.size ∧
      v.records = w.records ++ (report.records ++ documentedRecords report.buffer report.size)

/-- The index that the length of the device specific information is read at. -/
def lenIndex (report : ℕ → UInt8) : ℕ := (16 + 16 * rangeCount report) % 2 ^ 32

/-- The header and the length are in the report, and a count whose ranges do not fit into 32 bits
is not taken for a right one. -/
structure RegularReport (report : ℕ → UInt8) (size : ℕ) : Prop where
  header : 16 ≤ size
  length : lenIndex report + 4 ≤ size
  count : rangeCount report < 2 ^ 28 - 1 ∨
    size ≠ lenIndex report + 4 + le32 report (lenIndex report)

end TeeIoValidator.Tdisp
