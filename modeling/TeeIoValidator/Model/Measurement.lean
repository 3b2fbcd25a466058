import TeeIoValidator.Library.Tracked

/-! The measurements of a device: all of them in one request, or one block after the other. -/

namespace TeeIoValidator.Measurement

/-- What `GET_MEASUREMENTS` asks for. -/
inductive Operation where
  | allMeasurements
  | totalNumber
  | index (i : ℕ)
  deriving Repr, DecidableEq

/-- A request, and whether its attribute is to generate a signature. -/
structure Request where
  operation : Operation
  signature : Bool
  deriving Repr, DecidableEq

/-- The answers of `libspdm_get_measurement`, none for an error: the record of all measurements,
which fits what it is asked for with, the number of blocks, and the block with an index. -/
structure Responder (capacity : ℕ) where
  allMeasurements : Option { record : List UInt8 // record.length ≤ capacity }
  numberOfBlocks : Option UInt8
  block : ℕ → Option (List UInt8)

/-- `libspdm_return_t`, as far as it is told apart; an error is one of `libspdm_get_measurement`. -/
inductive Status where
  | success
  | error
  | bufferTooSmall
  | invalidStatePeer
  deriving Repr, DecidableEq

/-- The variables of the loop, and the requests that were sent, which the code does not keep. -/
structure State where
  record : Tracked UInt8
  offset : ℕ
  received : ℕ
  signature : Bool
  requests : List Request

/-- What the caller has then: the record's buffer and its length. -/
structure Outcome where
  status : Status
  record : Tracked UInt8
  length : ℕ
  requests : List Request

section Run

variable {capacity : ℕ} (responder : Responder capacity)

/-- How a loop ends: by its condition or a `break`, or with a status that is returned. -/
abbrev Left := Option Status × State

/-- The loop over the indices; none when its assertion failed. The length of a block and the rest
of the capacity are 32-bit numbers, and so is their difference. -/
def queryBlocks (numberOfBlocks : ℕ) : List ℕ → State → Option Left
  | [], s => some (none, s)
  | index :: indices, s =>
    if s.received = numberOfBlocks then some (none, s)
    else
      let signature := if s.received + 1 = numberOfBlocks then true else s.signature
      let s := { s with signature, requests := s.requests ++ [⟨.index index, signature⟩] }
      match responder.block index with
      | none => queryBlocks numberOfBlocks indices s
      | some block =>
        let s := { s with received := s.received + 1 }
        if capacity < s.offset then none
        else if block.length < capacity - s.offset then
          queryBlocks numberOfBlocks indices
            { s with
              record := s.record.writeBlock s.offset block
              offset := s.offset + block.length }
        else some (some .bufferTooSmall, s)

/-- `index` goes from 1 to 0xFE. -/
def indices : List ℕ := List.range' 1 0xFE

/-- What follows a failed request for all measurements; `buffer` is the caller's. -/
def oneByOne (buffer : ℕ → UInt8) (requests : List Request) : Option Outcome :=
  let requests := requests ++ [⟨.totalNumber, false⟩]
  match responder.numberOfBlocks with
  | none => some ⟨.error, .start buffer, capacity, requests⟩
  | some numberOfBlocks =>
    (queryBlocks responder numberOfBlocks.toNat indices
      ⟨.start buffer, 0, 0, false, requests⟩).map fun
      | (some status, s) => ⟨status, s.record, capacity, s.requests⟩
      | (none, s) =>
        if s.received ≠ numberOfBlocks.toNat then
          ⟨.invalidStatePeer, s.record, capacity, s.requests⟩
        else ⟨.success, s.record, s.offset, s.requests⟩

/-- `spdm_send_receive_get_measurement`; none when an assertion failed. -/
def spdmSendReceiveGetMeasurement (buffer : ℕ → UInt8) : Option Outcome :=
  let requests := [⟨.allMeasurements, true⟩]
  match responder.allMeasurements with
  | some record =>
    some ⟨.success, (Tracked.start buffer).writeBlock 0 record.val, record.val.length, requests⟩
  | none => oneByOne responder buffer requests

/-! ## What is to be received -/

/-- The blocks that there are, in the order of their indices. -/
def found : List (List UInt8) := indices.filterMap responder.block

/-- How many blocks the requests have brought. -/
def blocksReceived (requests : List Request) : ℕ :=
  requests.countP fun request =>
    match request.operation with
    | .index i => (responder.block i).isSome
    | _ => false

end Run

end TeeIoValidator.Measurement
