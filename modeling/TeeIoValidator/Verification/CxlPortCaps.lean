import TeeIoValidator.Model.CxlPortCaps
import TeeIoValidator.Verification.Runner

/-! The run exercises the ports that the setup takes for capable, and these are the documented
ones except where a case needs two capabilities and a port has one of them. -/

namespace TeeIoValidator.CxlPortCaps

open CxlIde CxlIdeTest CxlIdeKm Runner

/-! ## The ports -/

theorem mem_ports {maxPortIndex : BitVec 8} {i : ℕ} :
    i ∈ ports maxPortIndex ↔ i ≤ maxPortIndex.toNat := by
  simp only [ports, List.mem_range, Nat.lt_succ_iff]

theorem lt_tableSize (case : CapsCase) {maxPortIndex : BitVec 8} {i : ℕ}
    (hi : i ∈ ports maxPortIndex) : i < case.tableSize maxPortIndex := by
  have hle := mem_ports.mp hi
  have hmax := maxPortIndex.isLt
  cases case <;> simp only [CapsCase.tableSize] <;> omega

section Query

variable {caps : ℕ → BitVec 8} {size : ℕ}

theorem within_cxlIdeGetDevCaps (query : ℕ → Option (BitVec 8)) {is : List ℕ}
    (his : ∀ i ∈ is, i < size)
    {devCaps : Tracked (BitVec 8)} (hdev : devCaps.Within size) :
    (cxlIdeGetDevCaps query is devCaps).2.Within size := by
  induction is generalizing devCaps with
  | nil => exact hdev
  | cons i is ih =>
      rw [List.forall_mem_cons] at his
      rw [cxlIdeGetDevCaps]
      cases query i with
      | none => exact hdev
      | some word => exact ih his.2 ((Tracked.within_write _ _ _).mpr ⟨hdev, his.1⟩)

theorem cxlIdeGetDevCaps_fst (caps : ℕ → BitVec 8) (is : List ℕ) (devCaps : Tracked (BitVec 8)) :
    (cxlIdeGetDevCaps (fun i => some (caps i)) is devCaps).1 = true := by
  induction is generalizing devCaps with
  | nil => rfl
  | cons i is ih => exact ih _

/-- An entry holds the word of its port, unless the port is not among those queried. -/
theorem cxlIdeGetDevCaps_mem (is : List ℕ) (devCaps : Tracked (BitVec 8)) (j : ℕ) :
    (cxlIdeGetDevCaps (fun i => some (caps i)) is devCaps).2.mem j =
      if j ∈ is then caps j else devCaps.mem j := by
  induction is generalizing devCaps with
  | nil => rfl
  | cons i is ih =>
      simp only [cxlIdeGetDevCaps, ih, Tracked.write_mem, List.mem_cons]
      by_cases hj : j ∈ is
      · simp [hj]
      · by_cases hi : j = i
        · subst hi
          simp [hj]
        · simp [hj, hi]

end Query

/-! ## The two decisions -/

variable (case : CapsCase) (maxPortIndex : BitVec 8) (query : ℕ → Option (BitVec 8))
  (caps words : ℕ → BitVec 8)

theorem exercises_eq (word : BitVec 8) : case.exercises word = !case.notSupported word := by
  cases case <;> simp [CapsCase.exercises, CapsCase.notSupported]

/-- The ports that the run exercises. -/
def capable : List ℕ := (ports maxPortIndex).filter fun i => case.exercises (caps i)

theorem capable_eq_nil :
    capable case maxPortIndex caps = [] ↔
      ((ports maxPortIndex).any fun i => !case.notSupported (caps i)) = false := by
  simp [capable, List.filter_eq_nil_iff, exercises_eq]

/-- What the setup does when every query is answered. -/
structure SetUp (s : CapsState) (result : Bool × CapsState) : Prop where
  ret : result.1 = true
  devCaps : ∀ i ∈ ports maxPortIndex, result.2.devCaps.mem i = caps i
  action : result.2.action = if capable case maxPortIndex caps = [] then .skip else s.action
  exercised : result.2.exercised = s.exercised

theorem setUp_setup (s : CapsState) :
    SetUp case maxPortIndex caps s (setup case maxPortIndex (fun i => some (caps i)) s) := by
  have hret := cxlIdeGetDevCaps_fst caps (ports maxPortIndex) s.devCaps
  have hmem : ∀ i ∈ ports maxPortIndex,
      (cxlIdeGetDevCaps (fun i => some (caps i)) (ports maxPortIndex) s.devCaps).2.mem i =
        caps i := fun i hi => by rw [cxlIdeGetDevCaps_mem, if_pos hi]
  rw [setup]
  cases hget : cxlIdeGetDevCaps (fun i => some (caps i)) (ports maxPortIndex) s.devCaps with
  | mk ret devCaps =>
      rw [hget] at hret hmem
      simp only at hret hmem
      subst hret
      refine ⟨rfl, ?_, ?_, rfl⟩
      · intro i hi
        exact (congrFun (Tracked.scan_snd_mem _ _ _ _) i).trans (hmem i hi)
      · have hflag : (ports maxPortIndex).any (fun i => !case.notSupported (devCaps.mem i)) =
            (ports maxPortIndex).any fun i => !case.notSupported (caps i) := by
          rw [Bool.eq_iff_iff, List.any_eq_true, List.any_eq_true]
          exact exists_congr fun i => and_congr_right fun hi => by rw [hmem i hi]
        simp only [Tracked.scan_any, Bool.false_or, hflag, capable_eq_nil]

theorem run_exercised (s : CapsState)
    (hs : ∀ i ∈ ports maxPortIndex, s.devCaps.mem i = caps i) :
    (run case maxPortIndex s).exercised = s.exercised ++ capable case maxPortIndex caps := by
  simp only [run, Tracked.scan_filter, capable]
  congr 1
  exact List.filter_congr fun i hi => by rw [hs i hi]

/-! ## The whole case -/

theorem within_setup {s : CapsState} (hs : s.devCaps.Within (case.tableSize maxPortIndex)) :
    (setup case maxPortIndex query s).2.devCaps.Within (case.tableSize maxPortIndex) := by
  have hports : ∀ i ∈ ports maxPortIndex, i < case.tableSize maxPortIndex :=
    fun i hi => lt_tableSize case hi
  have hqueried := within_cxlIdeGetDevCaps query hports hs
  rw [setup]
  split <;> rename_i hget
  · rwa [hget] at hqueried
  · rw [hget] at hqueried
    exact (Tracked.within_scan _ _ _ _).mpr ⟨hqueried, hports⟩

theorem within_run {s : CapsState} (hs : s.devCaps.Within (case.tableSize maxPortIndex)) :
    (run case maxPortIndex s).devCaps.Within (case.tableSize maxPortIndex) :=
  (Tracked.within_scan _ _ _ _).mpr ⟨hs, fun _ hi => lt_tableSize case hi⟩

/-- The table is not accessed past its end, whatever the queries find. -/
theorem within_setupAndRun :
    (setupAndRun case maxPortIndex query words).devCaps.Within (case.tableSize maxPortIndex) := by
  have hsetup := within_setup case maxPortIndex query
    (s := ⟨Tracked.start words, .run, []⟩) (Tracked.within_start words)
  rw [setupAndRun, runSetup, testCase]
  simp only
  cases hset : setup case maxPortIndex query ⟨Tracked.start words, .run, []⟩ with
  | mk ret s =>
      rw [hset] at hsetup
      cases ret with
      | false => exact hsetup
      | true =>
          simp only [Bool.not_true, Bool.false_eq_true, if_false]
          split_ifs
          · exact hsetup
          · exact within_run case maxPortIndex hsetup

/-- The runner performs the setup and the run, whatever the configuration is. -/
theorem caseBody_testCase (config : List (ConfigItem CapsState)) :
    caseBody caseContext (testCase case maxPortIndex query) config
        ⟨Tracked.start words, .run, []⟩ =
      some (setupAndRun case maxPortIndex query words) := by
  rw [caseBody, setupAndRun]
  simp only
  cases runSetup caseContext (testCase case maxPortIndex query)
      ⟨Tracked.start words, .run, []⟩ with
  | mk ret s =>
      cases ret with
      | false => rfl
      | true =>
          by_cases hskip : s.action = .skip
          · simp [caseContext, hskip, runTeardown, testCase]
          · simp [caseContext, hskip, runTeardown, runAndCheck, runRun, runCheck, testCase]

theorem setupAndRun_action_exercised :
    (setupAndRun case maxPortIndex (fun i => some (caps i)) words).action =
        (if capable case maxPortIndex caps = [] then .skip else .run) ∧
      (setupAndRun case maxPortIndex (fun i => some (caps i)) words).exercised =
        capable case maxPortIndex caps := by
  have hsetup := setUp_setup case maxPortIndex caps ⟨Tracked.start words, .run, []⟩
  rw [setupAndRun, runSetup, testCase]
  simp only
  cases hset : setup case maxPortIndex (fun i => some (caps i))
      ⟨Tracked.start words, .run, []⟩ with
  | mk ret s =>
      rw [hset] at hsetup
      obtain ⟨hret, hmem, haction, hexercised⟩ := hsetup
      simp only at hret hmem haction hexercised
      subst hret
      simp only [Bool.not_true, Bool.false_eq_true, if_false]
      by_cases hnil : capable case maxPortIndex caps = []
      · rw [if_pos hnil] at haction
        rw [if_pos haction, if_pos hnil, hnil]
        exact ⟨haction, hexercised⟩
      · rw [if_neg hnil] at haction
        rw [if_neg (by rw [haction]; decide), if_neg hnil]
        refine ⟨haction, ?_⟩
        rw [run_exercised case maxPortIndex caps s hmem, hexercised, List.nil_append]

/-! ## The documented rule -/

theorem filter_eq_filter_iff {α : Type*} {p q : α → Bool} {xs : List α} :
    xs.filter p = xs.filter q ↔ ∀ x ∈ xs, p x = q x := by
  refine ⟨fun h x hx => ?_, List.filter_congr⟩
  rw [Bool.eq_iff_iff]
  have hmem : x ∈ xs.filter p ↔ x ∈ xs.filter q := by rw [h]
  simpa [hx] using hmem

/-- A port is exercised against the rule when the case needs two capabilities and the port has
one. -/
theorem exercises_eq_not_skips_iff (word : BitVec 8) :
    case.exercises word = !case.skips word ↔
      (case = .getKey1 → ideKeyGenerationCapable word = ivGenerationCapable word) := by
  cases case
  case getKey1 =>
    simp only [CapsCase.exercises, CapsCase.skips, forall_const]
    cases ideKeyGenerationCapable word <;> cases ivGenerationCapable word <;> decide
  all_goals simp [CapsCase.exercises, CapsCase.skips]

theorem capable_eq_qualifying_iff :
    capable case maxPortIndex caps = qualifying case maxPortIndex caps ↔
      (case = .getKey1 → ∀ i ∈ ports maxPortIndex,
        ideKeyGenerationCapable (caps i) = ivGenerationCapable (caps i)) := by
  rw [capable, qualifying, filter_eq_filter_iff]
  simp only [exercises_eq_not_skips_iff]
  exact ⟨fun h hcase i hi => h i hi hcase, fun h i hi hcase => h hcase i hi⟩

theorem meets_iff_bothOrNone :
    Meets case maxPortIndex caps words ↔
      (case = .getKey1 → ∀ i ∈ ports maxPortIndex,
        ideKeyGenerationCapable (caps i) = ivGenerationCapable (caps i)) := by
  obtain ⟨haction, hexercised⟩ := setupAndRun_action_exercised case maxPortIndex caps words
  rw [← capable_eq_qualifying_iff]
  constructor
  · intro h
    exact hexercised.symm.trans h.exercised
  · intro h
    refine ⟨hexercised.trans h, ?_, within_setupAndRun case maxPortIndex _ words⟩
    rw [haction, ← h]
    split_ifs with hnil
    · simp [hnil]
    · simp [hnil]

/-- A port that generates keys and no IV is not exercised, and the case is skipped. -/
theorem not_meets_keyGenerationOnly :
    ¬ Meets .getKey1 0 (fun _ => 0b00100000) fun _ => 0 := by
  intro h
  exact absurd h.exercised (by decide +kernel)

/-- The rounds of the four cases are those of the ports that are exercised. -/
theorem rounds_toCase (lib : CxlIdeKmMessages) (env : CxlIdeKm.Environment) :
    rounds lib env case.toCase =
      (setupAndRun case env.maxPortIndex (fun i => some (env.devCaps i)) words).exercised.flatMap
        (portRounds lib env case) := by
  rw [(setupAndRun_action_exercised case env.maxPortIndex env.devCaps words).2]
  cases case with
  | keyProg7 => exact List.map_eq_flatMap
  | keyProg8 => exact List.map_eq_flatMap
  | ksetStop1 =>
      simp only [rounds, CapsCase.toCase, capablePorts, capable, CapsCase.exercises, Bool.not_not]
      rfl
  | getKey1 => exact List.map_eq_flatMap

end TeeIoValidator.CxlPortCaps
