import TeeIoValidator.Model.Tsp.Capabilities
import TeeIoValidator.Verification.Tsp.Cases

/-! # The verdicts of the capabilities case -/

namespace TeeIoValidator.Tsp

open Flags

/-! ## Masked fields -/

section Masked

variable {w : ℕ} (v : BitVec w)

theorem mask_bne_zero (is : List (Fin w)) :
    (v &&& mask is != 0#w) = is.any fun i => v.getLsbD i := by
  rw [Bool.eq_iff_iff, bne_iff_ne, and_mask_ne_zero_iff, List.any_eq_true]

theorem masked_bne_zero {is js : List (Fin w)} (h : js ⊆ is) :
    (v &&& mask is &&& mask js != 0#w) = js.any fun i => v.getLsbD i := by
  rw [and_mask_and_mask v h, mask_bne_zero]

end Masked

/-- The flag of encryption is the last bit. -/
theorem mask_beq_one {i : Fin 16} (hi : i = 0) (v : BitVec 16) :
    (v &&& mask [i] == 1#16) = v.getLsbD i := by
  subst hi
  rw [and_mask_singleton]
  cases v.getLsbD (0 : Fin 16) with
  | false => rfl
  | true => rfl

/-! ## What is documented -/

section Documented

variable (lib : TspMessages) (flags : TspFlags)

def documentedMemoryEncryption (r : Capabilities) : List (ℕ × Bool) :=
  [(4, r.memoryEncryptionFeaturesSupported.getLsbD flags.encryption),
    (5, r.memoryEncryptionAlgorithmsSupported.getLsbD flags.aesXts128 ||
      r.memoryEncryptionAlgorithmsSupported.getLsbD flags.aesXts256),
    (6, if r.memoryEncryptionFeaturesSupported.getLsbD flags.rangeBasedEncryption then
        r.memoryEncryptionNumberOfRangeBasedKeys != 0
      else r.memoryEncryptionNumberOfRangeBasedKeys == 0)]

def documentedTeState (r : Capabilities) : List (ℕ × Bool) :=
  let has (i : Fin 16) := r.teStateChangeAndAccessControlFeaturesSupported.getLsbD i
  let oob := has flags.explicitOobTeStateChange
  let ib := has flags.explicitIbTeStateChange
  [(7, !has flags.writeAccessControl || !(!oob && !ib)),
    (8, !has flags.readAccessControl || !(!has flags.implicitTeStateChange && !oob && !ib)),
    (9, !has flags.implicitTeStateChange ||
      (ib && r.supportedExplicitIbTeStateGranularity.getLsbD 0)),
    (10, !has flags.explicitTeStateChangeSanitize || !(!oob && !ib)),
    (11, if oob then r.supportedExplicitOobTeStateGranularity != 0#32
      else r.supportedExplicitOobTeStateGranularity == 0#32),
    (12, if ib then r.supportedExplicitIbTeStateGranularity &&& 0x800007FF#32 != 0#32
      else r.supportedExplicitIbTeStateGranularity == 0#32)]

def documentedCkids (r : Capabilities) : List (ℕ × Bool) :=
  [(13, if r.memoryEncryptionFeaturesSupported.getLsbD flags.ckidBasedEncryption then
      decide (2 ≤ r.numberOfCkids) && decide (r.numberOfCkids < 2 ^ 13)
    else r.numberOfCkids == 0)]

def documentedSessions (r : Capabilities) : List (ℕ × Bool) :=
  [(14, if r.configurationFeaturesSupported.getLsbD flags.targetSupportAdditionalSpdmSessions then
      decide (0 < r.numberOfSecondarySessions) && decide (r.numberOfSecondarySessions ≤ 4)
    else r.numberOfSecondarySessions == 0)]

/-- Assertions 2.1.4 to 2.1.14. -/
def documentedCapabilities (r : Capabilities) : List (ℕ × Bool) :=
  documentedMemoryEncryption flags r ++ documentedTeState flags r ++ documentedCkids flags r ++
    documentedSessions flags r

/-- Assertions 2.1.1 to 2.1.14: without the size there are no others. -/
def documentedVerdicts (reply : CapabilitiesReply) : List (ℕ × Bool) :=
  let sized := reply.size == lib.getTargetCapabilitiesRspSize
  (1, sized) ::
    if sized then
      (2, reply.header.opCode == lib.getTargetCapabilitiesRsp) ::
        (3, reply.header.tspVersion == lib.messageVersion10) ::
          documentedCapabilities flags reply.response
    else []

/-- A response is judged as documented, and not read when it does not have the size. -/
structure JudgesCapabilities (reply : CapabilitiesReply) : Prop where
  verdicts : verdicts (testCxlTspGetCapabilities lib flags reply) =
    documentedVerdicts lib flags reply
  unread : reply.size ≠ lib.getTargetCapabilitiesRspSize → ∀ other : CapabilitiesReply,
    other.error = reply.error → other.status = reply.status → other.size = reply.size →
      testCxlTspGetCapabilities lib flags other = testCxlTspGetCapabilities lib flags reply

end Documented

/-! ## The checks of the capabilities -/

variable {lib : TspMessages} {flags : TspFlags}

theorem memoryEncryptionChecks_verdicts (r : Capabilities) :
    verdicts (memoryEncryptionChecks flags r
        (r.memoryEncryptionFeaturesSupported &&& mask flags.memoryEncryptionFeatures)) =
      documentedMemoryEncryption flags r := by
  have hencryption : [flags.encryption] ⊆ flags.memoryEncryptionFeatures := by
    simp [TspFlags.memoryEncryptionFeatures]
  have hrange : [flags.rangeBasedEncryption] ⊆ flags.memoryEncryptionFeatures := by
    simp [TspFlags.memoryEncryptionFeatures]
  simp only [memoryEncryptionChecks, verdicts_check, verdicts_nil, and_mask_and_mask _ hencryption,
    mask_beq_one flags.encryption_eq, masked_bne_zero _ hrange, mask_bne_zero,
    TspFlags.memoryEncryptionAlgorithms, List.any_cons, List.any_nil, Bool.or_false,
    documentedMemoryEncryption]

/-- An implication whose other branch passes. -/
theorem ite_true_eq_not_or (a b : Bool) : (if a then b else true) = (!a || b) := by
  cases a with
  | false => rfl
  | true => rfl

theorem teStateChecks_verdicts (r : Capabilities) :
    verdicts (teStateChecks flags r
        (r.teStateChangeAndAccessControlFeaturesSupported &&& mask flags.teStateChangeFeatures)) =
      documentedTeState flags r := by
  have hmasked (js : List (Fin 16)) (hjs : js.all (flags.teStateChangeFeatures.contains ·)) :
      (r.teStateChangeAndAccessControlFeaturesSupported &&& mask flags.teStateChangeFeatures &&&
        mask js != 0#16) =
      js.any fun i => r.teStateChangeAndAccessControlFeaturesSupported.getLsbD i := by
    refine masked_bne_zero _ fun i hi => ?_
    have hcontains := List.all_eq_true.mp hjs i hi
    simpa using hcontains
  have hgranularity : (r.supportedExplicitIbTeStateGranularity &&& mask [granularity64B] != 0#32) =
      r.supportedExplicitIbTeStateGranularity.getLsbD 0 := by
    rw [mask_bne_zero, List.any_cons, List.any_nil, Bool.or_false]
    rfl
  simp (disch := simp [TspFlags.teStateChangeFeatures]) only [teStateChecks, verdicts_check,
    verdicts_nil, hmasked, hgranularity, ite_true_eq_not_or, List.any_cons, List.any_nil,
    Bool.or_false, granularities, documentedTeState, Bool.not_and, Bool.not_not, Bool.or_assoc]

theorem sessionChecks_verdicts (r : Capabilities) :
    verdicts (sessionChecks flags r) = documentedSessions flags r := by
  have hadditional : [flags.targetSupportAdditionalSpdmSessions] ⊆ flags.configurationFeatures := by
    simp [TspFlags.configurationFeatures]
  have hset := masked_bne_zero r.configurationFeaturesSupported hadditional
  rw [List.any_cons, List.any_nil, Bool.or_false, bne, Bool.not_eq_eq_eq_not] at hset
  simp only [sessionChecks, verdicts_check, verdicts_nil, hset, documentedSessions]
  cases r.configurationFeaturesSupported.getLsbD flags.targetSupportAdditionalSpdmSessions with
  | false => rfl
  | true => rfl

/-- The verdict that the code gives to assertion 13. -/
theorem ckidChecks_verdicts (r : Capabilities) :
    verdicts (ckidChecks flags r
        (r.memoryEncryptionFeaturesSupported &&& mask flags.memoryEncryptionFeatures)) =
      [(13, if r.memoryEncryptionFeaturesSupported.getLsbD flags.ckidBasedEncryption then
          decide (2 ≤ r.numberOfCkids) && decide (r.numberOfCkids < 0x2000)
        else r.numberOfCkids != 0)] := by
  have hckid : [flags.ckidBasedEncryption] ⊆ flags.memoryEncryptionFeatures := by
    simp [TspFlags.memoryEncryptionFeatures]
  simp only [ckidChecks, verdicts_check, verdicts_nil, masked_bne_zero _ hckid, List.any_cons,
    List.any_nil, Bool.or_false]

/-- Without the feature, assertion 13 passes just when it should not. -/
theorem ckidChecks_documented_iff (r : Capabilities) :
    verdicts (ckidChecks flags r
        (r.memoryEncryptionFeaturesSupported &&& mask flags.memoryEncryptionFeatures)) =
      documentedCkids flags r ↔
      r.memoryEncryptionFeaturesSupported.getLsbD flags.ckidBasedEncryption = true := by
  rw [ckidChecks_verdicts, documentedCkids]
  cases r.memoryEncryptionFeaturesSupported.getLsbD flags.ckidBasedEncryption with
  | false => simp [bne]
  | true => simp

theorem validateCapability_documented_iff (r : Capabilities) :
    verdicts (teeioCxlTspValidateCapability flags r) = documentedCapabilities flags r ↔
      r.memoryEncryptionFeaturesSupported.getLsbD flags.ckidBasedEncryption = true := by
  rw [← ckidChecks_documented_iff, teeioCxlTspValidateCapability, documentedCapabilities]
  simp only [verdicts_append, memoryEncryptionChecks_verdicts, teStateChecks_verdicts,
    sessionChecks_verdicts, List.append_cancel_right_eq, List.append_cancel_left_eq]

theorem testResponse_verdicts {size : ℕ} {opCode : UInt8} {more : Reply → List Assertion}
    {reply : Reply} (hreceived : reply.error = false) :
    verdicts (testResponse lib size opCode more reply) =
      (1, reply.size == size) ::
        if reply.size == size then
          (2, reply.header.opCode == opCode) ::
            (3, reply.header.tspVersion == lib.messageVersion10) :: verdicts (more reply)
        else [] := by
  rw [testResponse, if_neg (by simp [hreceived])]
  cases hsize : reply.size == size with
  | false => simp
  | true => simp

/-- Nothing of a response without the size is read. -/
theorem testResponse_unread {size : ℕ} {opCode : UInt8} {more more' : Reply → List Assertion}
    {reply other : Reply} (hsize : reply.size ≠ size) (herror : other.error = reply.error)
    (hstatus : other.status = reply.status) (hother : other.size = reply.size) :
    testResponse lib size opCode more' other = testResponse lib size opCode more reply := by
  rw [testResponse, testResponse, herror, hstatus, hother]
  simp [hsize]

/-- When the capabilities case judges a response as documented. -/
theorem judgesCapabilities_iff (lib : TspMessages) (flags : TspFlags) (reply : CapabilitiesReply)
    (hreceived : reply.error = false) :
    JudgesCapabilities lib flags reply ↔ (reply.size = lib.getTargetCapabilitiesRspSize →
      reply.response.memoryEncryptionFeaturesSupported.getLsbD
        flags.ckidBasedEncryption = true) := by
  have hverdicts : verdicts (testCxlTspGetCapabilities lib flags reply) =
      documentedVerdicts lib flags reply ↔ (reply.size = lib.getTargetCapabilitiesRspSize →
        verdicts (teeioCxlTspValidateCapability flags reply.response) =
          documentedCapabilities flags reply.response) := by
    rw [testCxlTspGetCapabilities, testResponse_verdicts hreceived, documentedVerdicts]
    by_cases hsize : reply.size = lib.getTargetCapabilitiesRspSize
    · simp [hsize]
    · simp [hsize]
  rw [← validateCapability_documented_iff, ← hverdicts]
  refine ⟨JudgesCapabilities.verdicts, fun h => ⟨h, fun hsize other herror hstatus hother => ?_⟩⟩
  exact testResponse_unread hsize herror hstatus hother

def exampleFlags : TspFlags where
  encryption := 0
  ckidBasedEncryption := 1
  rangeBasedEncryption := 2
  initiatorSuppliedEntropy := 3
  ckidBasedRequired := 4
  aesXts128 := ⟨0, by decide⟩
  aesXts256 := ⟨1, by decide⟩
  writeAccessControl := 0
  readAccessControl := 1
  implicitTeStateChange := 2
  explicitOobTeStateChange := 3
  explicitIbTeStateChange := 4
  explicitTeStateChangeSanitize := 5
  lockedTargetFwUpdate := 0
  targetSupportAdditionalSpdmSessions := 1
  encryption_eq := rfl
  encryption_distinct := by decide
  algorithms_distinct := by decide

/-- A device with one way of encryption, and with the CKIDs that go with it. -/
def capableDevice (memoryEncryption : BitVec 16) (keys ckids : ℕ) : CapabilitiesReply where
  error := false
  status := 0
  size := 28
  header := ⟨0x10, 0x02⟩
  errorCode := 0
  errorData := 0
  response := ⟨memoryEncryption, 0x1#32, keys, 0x10#16, 0#32, 0x1#32, 0#16, ckids, 0⟩

theorem judgesCapabilities_ckidBased :
    JudgesCapabilities exampleMessages exampleFlags (capableDevice 0x3#16 0 2) :=
  (judgesCapabilities_iff _ _ _ rfl).mpr fun _ => rfl

/-- A device with ranges only, and so without CKIDs. -/
theorem not_judgesCapabilities_rangeBased :
    ¬JudgesCapabilities exampleMessages exampleFlags (capableDevice 0x5#16 4 0) := by
  intro h
  have hverdicts := h.verdicts
  revert hverdicts
  decide

end TeeIoValidator.Tsp
