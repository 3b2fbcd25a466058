import TeeIoValidator.Verification.Doe.Accesses

/-! Data objects in the read mailbox: the position that the accesses of the host reach in
the current object, whose second dword announces its length. -/

namespace TeeIoValidator.Doe

/-- Where the read mailbox stands: between two objects, after the first dword of one, or
with a positive number of dwords still to be read. -/
inductive ReadPosition where
  | boundary
  | header
  | inside (remaining : ℕ)
  deriving Repr, DecidableEq

def ReadPosition.ofRemaining : ℕ → ReadPosition
  | 0 => .boundary
  | remaining + 1 => .inside (remaining + 1)

/-- A read dword advances in the object and a DOE abort discards it. -/
def ReadPosition.step (lengthOf : Dword → Dword) (p : ReadPosition) (a : Access) :
    ReadPosition :=
  match a with
  | .readMailbox data =>
    match p with
    | .boundary => .header
    | .header => .ofRemaining (objectCount (lengthOf data) - 2)
    | .inside remaining => .ofRemaining (remaining - 1)
  | _ => if a.setsAbort then .boundary else p

def positionAfter (lengthOf : Dword → Dword) (p : ReadPosition) (as : List Access) :
    ReadPosition :=
  as.foldl (ReadPosition.step lengthOf) p

section

variable (lengthOf : Dword → Dword) (p : ReadPosition)

@[simp] theorem positionAfter_nil : positionAfter lengthOf p [] = p := rfl

@[simp] theorem positionAfter_append (as bs : List Access) :
    positionAfter lengthOf p (as ++ bs) =
      positionAfter lengthOf (positionAfter lengthOf p as) bs :=
  List.foldl_append

@[simp] theorem positionAfter_readMailbox (data : Dword) (as : List Access) :
    positionAfter lengthOf p (.readMailbox data :: as) =
      positionAfter lengthOf (p.step lengthOf (.readMailbox data)) as := rfl

@[simp] theorem positionAfter_ackMailbox (data : Dword) (as : List Access) :
    positionAfter lengthOf p (.ackMailbox data :: as) = positionAfter lengthOf p as := rfl

@[simp] theorem positionAfter_abortAccess (dev : Instance) (k : ℕ) (as : List Access) :
    positionAfter lengthOf p (abortAccess dev k :: as) =
      positionAfter lengthOf .boundary as := by
  have h : p.step lengthOf (abortAccess dev k) = .boundary := by
    have := abortAccess_setsAbort dev k
    simp only [abortAccess] at this
    simp [ReadPosition.step, abortAccess, this]
  simp [positionAfter, h]

theorem positionAfter_boundary_abortIfError (dev : Instance) (k c : ℕ) :
    positionAfter lengthOf .boundary (abortIfError dev k c) = .boundary := by
  unfold abortIfError
  split <;> simp

theorem positionAfter_abortIfError_of_error {dev : Instance} {k : ℕ} (c : ℕ)
    (h : errorAt dev k) : positionAfter lengthOf p (abortIfError dev k c) = .boundary := by
  simp [abortIfError, h]

end

/-! ## Reading consecutive dwords -/

/-- The accesses that read the dwords `index, ..., index + count - 1` of an object. -/
def readAccesses (object : ℕ → Dword) : ℕ → ℕ → List Access
  | 0, _ => []
  | count + 1, index =>
    .readMailbox (object index) :: .ackMailbox (object index) ::
      readAccesses object count (index + 1)

theorem readAccesses_append (object : ℕ → Dword) (count rest index : ℕ) :
    readAccesses object (count + rest) index =
      readAccesses object count index ++ readAccesses object rest (index + count) := by
  induction count generalizing index with
  | zero => simp [readAccesses]
  | succ count ih =>
      rw [Nat.add_right_comm, readAccesses, ih, readAccesses]
      simp [Nat.add_comm, Nat.add_left_comm]

/-- The dwords taken from the read mailbox, in order. -/
def readDwords (as : List Access) : List Dword :=
  as.filterMap fun
    | .readMailbox data => some data
    | _ => none

@[simp] theorem readDwords_append (as bs : List Access) :
    readDwords (as ++ bs) = readDwords as ++ readDwords bs :=
  List.filterMap_append

@[simp] theorem readDwords_abortIfError (dev : Instance) (k c : ℕ) :
    readDwords (abortIfError dev k c) = [] := by
  unfold abortIfError
  split <;> rfl

theorem readDwords_readAccesses (object : ℕ → Dword) (count index : ℕ) :
    readDwords (readAccesses object count index) =
      (List.range' index count).map object := by
  induction count generalizing index with
  | zero => rfl
  | succ count ih =>
      have h := ih (index + 1)
      simp only [readDwords] at h
      simp [readDwords, readAccesses, List.range'_succ, h]

/-- Reading exactly the announced number of dwords ends at an object boundary. -/
theorem positionAfter_ofRemaining_readAccesses (lengthOf : Dword → Dword)
    (object : ℕ → Dword) (count index : ℕ) :
    positionAfter lengthOf (.ofRemaining count) (readAccesses object count index) =
      .boundary := by
  induction count generalizing index with
  | zero => rfl
  | succ count ih =>
      have h := ih (index + 1)
      cases count with
      | zero => simp [readAccesses, ReadPosition.ofRemaining, ReadPosition.step]
      | succ _ => simpa [readAccesses, ReadPosition.ofRemaining, ReadPosition.step] using h

/-- Reading the two header dwords leaves the rest of the announced object to be read. -/
theorem positionAfter_header_readAccesses (lengthOf : Dword → Dword) (object : ℕ → Dword) :
    positionAfter lengthOf .boundary (readAccesses object 2 0) =
      .ofRemaining (objectCount (lengthOf (object 1)) - 2) := by
  simp [readAccesses, ReadPosition.step]

theorem ofRemaining_eq_boundary_iff (remaining : ℕ) :
    ReadPosition.ofRemaining remaining = .boundary ↔ remaining = 0 := by
  cases remaining <;> simp [ReadPosition.ofRemaining]

end TeeIoValidator.Doe
