import TeeIoValidator.Model.Tsp.Configuration
import TeeIoValidator.Verification.Tsp.Capabilities

/-! # The verdicts of the configuration case -/

namespace TeeIoValidator.Tsp

open Flags

/-! ## What is documented -/

section Documented

variable (lib : ConfigurationMessages) (flags : TspFlags) (supported : Capabilities)

/-- Assertions 4.1.4 to 4.1.7. -/
def documentedModes (r : Configuration) : List (ℕ × Bool) :=
  let features := r.memoryEncryptionFeaturesEnabled
  let algorithm := r.memoryEncryptionAlgorithmSelected
  [(4, features &&& supported.memoryEncryptionFeaturesSupported == features),
    (5, features.getLsbD flags.ckidBasedEncryption ^^ features.getLsbD flags.rangeBasedEncryption),
    (6, algorithm &&& supported.memoryEncryptionAlgorithmsSupported == algorithm),
    (7, algorithm.getLsbD flags.aesXts128 ^^ algorithm.getLsbD flags.aesXts256)]

/-- Assertions 4.1.8 to 4.1.10. -/
def documentedFeatures (r : Configuration) : List (ℕ × Bool) :=
  let features := r.teStateChangeAndAccessControlFeaturesEnabled
  let granularity := r.explicitOobTeStateGranularityEnabled
  let configuration := r.configurationFeaturesEnabled
  [(8, features &&& supported.teStateChangeAndAccessControlFeaturesSupported == features),
    (9, granularity &&& supported.supportedExplicitOobTeStateGranularity == granularity),
    (10, configuration &&& supported.configurationFeaturesSupported &&& 0x1#16 == configuration)]

/-- Assertions 4.1.11 and 4.1.12. -/
def documentedState (r : Configuration) : List (ℕ × Bool) :=
  [(11, !r.memoryEncryptionFeaturesEnabled.getLsbD flags.ckidBasedRequired ||
      (decide (r.ckidBase < 2 ^ 13) && decide (r.ckidBase + r.numberOfCkids < 2 ^ 13))),
    (12, r.currentTspState == lib.configUnlocked || r.currentTspState == lib.configLocked ||
      r.currentTspState == lib.stateError)]

/-- Every entry is unused or at most 7, and no index is repeated. -/
def ValidEntries (entries : List UInt8) : Prop :=
  (∀ e ∈ entries, e = 0xff ∨ e ≤ 7) ∧ (entries.filter (· ≠ 0xff)).Nodup

/-- Assertions 4.1.1 to 4.1.13, the last with a verdict of its own: without the size there are no
others. -/
def documentedConfiguration (reply : ConfigurationReply) (last : Bool) : List (ℕ × Bool) :=
  let sized := reply.size == lib.getTargetConfigurationRspSize
  (1, sized) ::
    if sized then
      (2, reply.header.opCode == lib.getTargetConfigurationRsp) ::
        (3, reply.header.tspVersion == lib.messageVersion10) ::
          (documentedModes flags supported reply.response ++
            documentedFeatures supported reply.response ++
            documentedState lib flags reply.response ++ [(13, last)])
    else []

/-- A response is judged as documented, whatever C does with a shift that it leaves undefined, and
there is no such shift. -/
structure JudgesConfiguration (reply : ConfigurationReply) : Prop where
  verdicts : ∀ undefined, ∃ last,
    (reply.response.teStateChangeAndAccessControlFeaturesEnabled.getLsbD
        flags.explicitIbTeStateChange = true →
      (last = true ↔ ValidEntries reply.response.explicitIbTeStateGranularityEntry.toList)) ∧
    verdicts (testCxlTspGetConfiguration lib flags undefined supported reply).1 =
      documentedConfiguration lib flags supported reply last
  shifts : ∀ undefined, ∀ count ∈
    (testCxlTspGetConfiguration lib flags undefined supported reply).2, count < 32

end Documented

variable {lib : ConfigurationMessages} {flags : TspFlags} {supported : Capabilities}

/-! ## The entries of the granularity -/

section Entries

variable (undefined : ℕ → BitVec 32)

@[simp] theorem checkGranularity_unused (s : Granularities) :
    checkGranularity undefined s 0xff = s :=
  rfl

/-- An entry that is too large fails the assertion. -/
theorem checkGranularity_large {s : Granularities} {e : UInt8} (hused : e ≠ 0xff) (he : 7 < e) :
    (checkGranularity undefined s e).res = false := by
  simp [checkGranularity, hused, he]

theorem setWidth_and_twoPow_bne_zero (bits : BitVec 8) {n : ℕ} (hn : n < 8) :
    (bits.setWidth 32 &&& BitVec.twoPow 32 n != 0#32) = bits.getLsbD n := by
  have hbit := mask_bne_zero (bits.setWidth 32) [⟨n, Nat.lt_trans hn (by decide)⟩]
  have hmask : mask [(⟨n, Nat.lt_trans hn (by decide)⟩ : Fin 32)] = BitVec.twoPow 32 n := by
    rw [mask, mask, BitVec.or_zero]
  rw [hmask, List.any_cons, List.any_nil, Bool.or_false, BitVec.getLsbD_setWidth] at hbit
  rw [hbit, decide_eq_true (Nat.lt_trans hn (by decide)), Bool.true_and]

/-- An entry in range fails the assertion when its index was used, and uses it. -/
theorem checkGranularity_small {s : Granularities} {e : UInt8} (he : e ≤ 7) :
    (checkGranularity undefined s e).res = (s.res && !s.lengthIndexBit.getLsbD e.toNat) ∧
      (checkGranularity undefined s e).lengthIndexBit =
        s.lengthIndexBit ||| BitVec.twoPow 8 e.toNat := by
  have hlt : e.toNat < 8 := Nat.lt_succ_of_le (UInt8.le_iff_toNat_le.mp he)
  have hused : e ≠ 0xff := by
    rintro rfl
    exact absurd he (by decide)
  have hshift : shiftOne undefined e.toNat = BitVec.twoPow 32 e.toNat :=
    if_pos (Nat.lt_trans hlt (by decide))
  rw [checkGranularity, if_neg hused, if_neg (UInt8.not_lt.mpr he)]
  simp only [hshift, setWidth_and_twoPow_bne_zero s.lengthIndexBit hlt]
  refine ⟨?_, BitVec.eq_of_getLsbD_eq fun i hi => ?_⟩
  · cases s.lengthIndexBit.getLsbD e.toNat with
    | false => simp
    | true => simp
  · simp only [BitVec.getLsbD_setWidth, BitVec.getLsbD_or, BitVec.getLsbD_twoPow, hi, hlt,
      Nat.lt_trans hi (by decide : 8 < 32), Nat.lt_trans hlt (by decide : 8 < 32), decide_true,
      Bool.true_and]

/-- A state that has failed stays so. -/
theorem checkGranularity_res_false {s : Granularities} (hs : s.res = false) (e : UInt8) :
    (checkGranularity undefined s e).res = false := by
  rw [checkGranularity]
  split_ifs
  · exact hs
  all_goals simp [hs]

theorem foldl_res_false {s : Granularities} (hs : s.res = false) (es : List UInt8) :
    (es.foldl (checkGranularity undefined) s).res = false := by
  induction es generalizing s with
  | nil => exact hs
  | cons e es ih => exact ih (checkGranularity_res_false undefined hs e)

theorem validEntries_cons {e : UInt8} {es : List UInt8} (hused : e ≠ 0xff) :
    ValidEntries (e :: es) ↔ e ≤ 7 ∧ e ∉ es ∧ ValidEntries es := by
  have hkept : (e :: es).filter (· ≠ 0xff) = e :: es.filter (· ≠ 0xff) :=
    List.filter_cons_of_pos (decide_eq_true hused)
  have hmem : e ∈ es.filter (· ≠ 0xff) ↔ e ∈ es := by
    simp [List.mem_filter, hused]
  rw [ValidEntries, ValidEntries, hkept, List.nodup_cons, hmem, List.forall_mem_cons,
    or_iff_right hused]
  tauto

/-- What the loop finds: nothing too large, nothing repeated and nothing used before. -/
theorem foldl_checkGranularity_res_iff (es : List UInt8) (s : Granularities) :
    (es.foldl (checkGranularity undefined) s).res = true ↔
      s.res = true ∧ ValidEntries es ∧
        ∀ e ∈ es, e ≠ 0xff → s.lengthIndexBit.getLsbD e.toNat = false := by
  induction es generalizing s with
  | nil => simp [ValidEntries]
  | cons e es ih =>
      rw [List.foldl_cons]
      by_cases hused : e = 0xff
      · subst hused
        rw [checkGranularity_unused, ih]
        simp [ValidEntries]
      · rw [validEntries_cons hused, List.forall_mem_cons]
        by_cases he : e ≤ 7
        · obtain ⟨hres, hbits⟩ := checkGranularity_small undefined (s := s) he
          have hlt : e.toNat < 8 := Nat.lt_succ_of_le (UInt8.le_iff_toNat_le.mp he)
          have hmarked (e' : UInt8) :
              (checkGranularity undefined s e).lengthIndexBit.getLsbD e'.toNat = false ↔
                s.lengthIndexBit.getLsbD e'.toNat = false ∧ e' ≠ e := by
            rw [hbits, BitVec.getLsbD_or, BitVec.getLsbD_twoPow, decide_eq_true hlt, Bool.true_and,
              Bool.or_eq_false_iff, decide_eq_false_iff_not, UInt8.toNat_inj, ← ne_eq, ne_comm]
          rw [ih, hres, Bool.and_eq_true, Bool.not_eq_true']
          simp only [hmarked]
          constructor
          · rintro ⟨⟨hs, hfree⟩, hvalid, hrest⟩
            have hnew : e ∉ es := fun hmem => (hrest e hmem hused).2 rfl
            exact ⟨hs, ⟨he, hnew, hvalid⟩, fun _ => hfree, fun e' he' h => (hrest e' he' h).1⟩
          · rintro ⟨hs, ⟨-, hnew, hvalid⟩, hfree, hrest⟩
            refine ⟨⟨hs, hfree hused⟩, hvalid, fun e' he' h => ⟨hrest e' he' h, ?_⟩⟩
            rintro rfl
            exact hnew he'
        · have hlarge := checkGranularity_large undefined (s := s) hused (UInt8.not_le.mp he)
          rw [foldl_res_false undefined hlarge]
          exact iff_of_false Bool.false_ne_true fun h => he h.2.1.1

/-- The loop keeps the verdict of assertion 12. -/
theorem checkGranularities_res_iff (res : Bool) (entries : List UInt8) :
    (checkGranularities undefined res entries).res = true ↔
      res = true ∧ ValidEntries entries := by
  rw [checkGranularities, foldl_checkGranularity_res_iff]
  simp

theorem checkGranularity_shifts {s : Granularities} {e : UInt8} (hused : e ≠ 0xff) :
    (checkGranularity undefined s e).shifts = s.shifts ++ [e.toNat, e.toNat] := by
  rw [checkGranularity, if_neg hused]

theorem mem_foldl_shifts_iff (es : List UInt8) (s : Granularities) (count : ℕ) :
    count ∈ (es.foldl (checkGranularity undefined) s).shifts ↔
      count ∈ s.shifts ∨ ∃ e ∈ es, e ≠ 0xff ∧ e.toNat = count := by
  induction es generalizing s with
  | nil => simp
  | cons e es ih =>
      rw [List.foldl_cons, ih]
      by_cases hused : e = 0xff
      · subst hused
        simp
      · rw [checkGranularity_shifts undefined hused]
        simp [hused, or_assoc, eq_comm]

/-- A shift is undefined just when some entry in use is at least 32. -/
theorem checkGranularities_shifts_iff (res : Bool) (entries : List UInt8) :
    (∀ count ∈ (checkGranularities undefined res entries).shifts, count < 32) ↔
      ∀ e ∈ entries, e = 0xff ∨ e < 32 := by
  simp only [checkGranularities, mem_foldl_shifts_iff, List.not_mem_nil, false_or]
  constructor
  · intro h e he
    by_cases hused : e = 0xff
    · exact Or.inl hused
    · exact Or.inr (UInt8.lt_iff_toNat_lt.mpr (h e.toNat ⟨e, he, hused, rfl⟩))
  · rintro h count ⟨e, he, hused, rfl⟩
    exact UInt8.lt_iff_toNat_lt.mp ((h e he).resolve_left hused)

end Entries

/-! ## The modes and the last assertion -/

/-- Two flags of which one is to be set are taken as right when both are. -/
theorem xor_mask_bne_zero {w : ℕ} (v : BitVec w) {i j : Fin w} (hne : i ≠ j) :
    ((v &&& mask [i]) ^^^ (v &&& mask [j]) != 0#w) = (v.getLsbD i || v.getLsbD j) := by
  rw [Bool.eq_iff_iff, bne_iff_ne, xor_ne_zero_iff hne, Bool.or_eq_true]

theorem or_eq_xor_iff (a b : Bool) : (a || b) = (a ^^ b) ↔ ¬(a = true ∧ b = true) := by
  cases a with
  | false => simp
  | true => simp

/-- Nothing is lost of two flags in the lower half. -/
theorem setWidth_xor_mask_bne_zero (v : BitVec 32) {i j : Fin 32} (hi : i.val < 16)
    (hj : j.val < 16) :
    (((v &&& mask [i]) ^^^ (v &&& mask [j])).setWidth 16 != 0#16) =
      ((v &&& mask [i]) ^^^ (v &&& mask [j]) != 0#32) := by
  have hhigh (n : Fin 32) (hn : 16 ≤ n.val) {k : Fin 32} (hk : k.val < 16) :
      (mask [k]).getLsbD n = false := by
    rw [Bool.eq_false_iff]
    intro hbit
    rw [List.mem_singleton.mp ((getLsbD_mask [k] n).mp hbit)] at hn
    exact absurd hn (Nat.not_le.mpr hk)
  rw [Bool.eq_iff_iff, bne_iff_ne, bne_iff_ne, not_iff_not]
  constructor
  · intro h
    refine BitVec.eq_of_getLsbD_eq fun n hn => ?_
    by_cases hlow : n < 16
    · have hbit := congrArg (fun u => u.getLsbD n) h
      simp only [BitVec.getLsbD_setWidth, hlow, decide_true, Bool.true_and] at hbit
      rw [hbit, BitVec.getLsbD_zero, BitVec.getLsbD_zero]
    · have hn' : 16 ≤ (⟨n, hn⟩ : Fin 32).val := Nat.not_lt.mp hlow
      have hfirst : (mask [i]).getLsbD n = false := hhigh ⟨n, hn⟩ hn' hi
      have hsecond : (mask [j]).getLsbD n = false := hhigh ⟨n, hn⟩ hn' hj
      simp [BitVec.getLsbD_xor, hfirst, hsecond]
  · intro h
    rw [h]
    rfl

/-- Assertions 4 to 7 are as documented when neither both modes nor both algorithms are set. -/
theorem enabledModeChecks_documented_iff (r : Configuration) (h128 : flags.aesXts128.val < 16)
    (h256 : flags.aesXts256.val < 16) :
    verdicts (enabledModeChecks flags supported r) = documentedModes flags supported r ↔
      ¬(r.memoryEncryptionFeaturesEnabled.getLsbD flags.ckidBasedEncryption = true ∧
          r.memoryEncryptionFeaturesEnabled.getLsbD flags.rangeBasedEncryption = true) ∧
        ¬(r.memoryEncryptionAlgorithmSelected.getLsbD flags.aesXts128 = true ∧
          r.memoryEncryptionAlgorithmSelected.getLsbD flags.aesXts256 = true) := by
  have hmodes : flags.ckidBasedEncryption ≠ flags.rangeBasedEncryption := by
    have hdistinct := flags.encryption_distinct
    grind
  have hselected (v : BitVec 32) :
      (((v &&& mask [flags.aesXts128]) ^^^ (v &&& mask [flags.aesXts256])).setWidth 16 != 0#16) =
        (v.getLsbD flags.aesXts128 || v.getLsbD flags.aesXts256) := by
    rw [setWidth_xor_mask_bne_zero v h128 h256, xor_mask_bne_zero v flags.algorithms_distinct]
  simp only [enabledModeChecks, documentedModes, verdicts_check, verdicts_nil,
    xor_mask_bne_zero _ hmodes, hselected, List.cons.injEq, Prod.mk.injEq, true_and, and_true,
    or_eq_xor_iff]

/-- With the feature, assertion 13 is as documented, for shifts that C defines, just when the
entries do not need the state to be right and are small enough. -/
theorem enabledGranularities_documented_iff {r : Configuration}
    (hib : r.teStateChangeAndAccessControlFeaturesEnabled.getLsbD
      flags.explicitIbTeStateChange = true) :
    (∀ undefined, ((enabledGranularities lib flags undefined r).res = true ↔
          ValidEntries r.explicitIbTeStateGranularityEntry.toList) ∧
        ∀ count ∈ (enabledGranularities lib flags undefined r).shifts, count < 32) ↔
      (ValidEntries r.explicitIbTeStateGranularityEntry.toList →
        r.currentTspState ≤ lib.stateError) ∧
      ∀ e ∈ r.explicitIbTeStateGranularityEntry.toList, e = 0xff ∨ e < 32 := by
  have henabled (undefined : ℕ → BitVec 32) : enabledGranularities lib flags undefined r =
      checkGranularities undefined (decide (r.currentTspState ≤ lib.stateError))
        r.explicitIbTeStateGranularityEntry.toList := by
    rw [enabledGranularities, mask_bne_zero, List.any_cons, hib]
    rfl
  simp only [henabled, checkGranularities_res_iff, checkGranularities_shifts_iff,
    decide_eq_true_eq, forall_const]
  apply and_congr_left'
  exact ⟨fun h hvalid => (h.mpr hvalid).1, fun h => ⟨And.right, fun hv => ⟨h hv, hv⟩⟩⟩

/-! ## The case -/

/-- The case judges the response as documented when the size is neither the right one nor that of
the capabilities. -/
theorem judgesConfiguration_iff (lib : ConfigurationMessages) (flags : TspFlags)
    (supported : Capabilities) (reply : ConfigurationReply) (hreceived : reply.error = false) :
    JudgesConfiguration lib flags supported reply ↔
      reply.size ≠ lib.getTargetCapabilitiesRspSize ∧
        reply.size ≠ lib.getTargetConfigurationRspSize := by
  constructor
  · intro h
    obtain ⟨last, -, hverdicts⟩ := h.verdicts fun _ => 0#32
    rw [testCxlTspGetConfiguration, testResponse_verdicts hreceived, documentedConfiguration]
      at hverdicts
    have hsizes := congrArg Prod.snd (List.head_eq_of_cons_eq hverdicts)
    rw [Bool.eq_iff_iff, beq_iff_eq, beq_iff_eq] at hsizes
    refine ⟨fun hsize => ?_, fun hsize => ?_⟩
    · exact lib.size_ne (hsize.symm.trans (hsizes.mp hsize))
    · exact lib.size_ne ((hsizes.mpr hsize).symm.trans hsize)
  · rintro ⟨hcapabilities, hconfiguration⟩
    refine ⟨fun undefined => ?_, fun undefined count hcount => ?_⟩
    · obtain ⟨last, hlast⟩ : ∃ last : Bool, last = true ↔
          ValidEntries reply.response.explicitIbTeStateGranularityEntry.toList :=
        ⟨(checkGranularities undefined true _).res, by
          rw [checkGranularities_res_iff, eq_self, true_and]⟩
      refine ⟨last, fun _ => hlast, ?_⟩
      rw [testCxlTspGetConfiguration, testResponse_verdicts hreceived, documentedConfiguration]
      simp [hcapabilities, hconfiguration]
    · simp [testCxlTspGetConfiguration, hcapabilities] at hcount

def exampleConfigurationMessages : ConfigurationMessages where
  toTspMessages := exampleMessages
  getTargetConfiguration := 0x84
  getTargetConfigurationRsp := 0x04
  getTargetConfigurationRspSize := 184
  configUnlocked := 0
  configLocked := 1
  stateError := 2
  ckidBits := 32
  size_ne := by decide
  states state := by
    simp only [UInt8.le_iff_toNat_le, ← UInt8.toNat_inj, UInt8.reduceToNat]
    omega

/-- A device that keeps to what it can do. -/
def configuredDevice (size : ℕ) : ConfigurationReply where
  error := false
  status := 0
  size := size
  header := ⟨0x10, 0x04⟩
  errorCode := 0
  errorData := 0
  response := ⟨0x3#16, 0x1#32, 0x10#16, 0#32, 0#16, 0, 2, 0, Vector.replicate 8 0xff⟩

theorem judgesConfiguration_header : JudgesConfiguration exampleConfigurationMessages exampleFlags
    (capableDevice 0x3#16 0 2).response (configuredDevice 4) :=
  (judgesConfiguration_iff _ _ _ _ rfl).mpr ⟨by decide, by decide⟩

/-- The response of the documented size. -/
theorem not_judgesConfiguration_sized :
    ¬JudgesConfiguration exampleConfigurationMessages exampleFlags
      (capableDevice 0x3#16 0 2).response (configuredDevice 184) := by
  intro h
  obtain ⟨last, -, hverdicts⟩ := h.verdicts fun _ => 0#32
  have hfirst := congrArg Prod.snd (List.head_eq_of_cons_eq hverdicts)
  cases hfirst

end TeeIoValidator.Tsp
