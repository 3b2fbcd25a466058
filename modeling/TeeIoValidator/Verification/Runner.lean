import Mathlib.Data.List.Basic
import TeeIoValidator.Model.Runner

/-! # Config items around a test case

The functions of the items and of the case are recorded when they are called. Then it can be
said which enabled items are disabled again.
-/

namespace TeeIoValidator.Runner

variable {σ : Type*}

/-! ## Recorded calls -/

/-- A call of a function of the `item`-th config item or of the case, with its result. -/
inductive Event where
  | support (item : ℕ) (ret : Bool)
  | enable (item : ℕ) (ret : Bool)
  | check (item : ℕ) (ret : Bool)
  | disable (item : ℕ) (ret : Bool)
  | setup (ret : Bool)
  | run
  | teardown
  deriving Repr, DecidableEq

/-- A function of a config item that records its calls. -/
def recordedFunc (event : Bool → Event) (func : σ → Bool × σ) (s : σ × List Event) :
    Bool × (σ × List Event) :=
  ((func s.1).1, (func s.1).2, s.2 ++ [event (func s.1).1])

def ConfigItem.recorded (i : ℕ) (item : ConfigItem σ) : ConfigItem (σ × List Event) where
  support := recordedFunc (.support i) item.support
  enable := recordedFunc (.enable i) item.enable
  disable := recordedFunc (.disable i) item.disable
  check := recordedFunc (.check i) item.check

/-- The items from the `i`-th on. -/
def recordedConfig : ℕ → List (ConfigItem σ) → List (ConfigItem (σ × List Event))
  | _, [] => []
  | i, item :: items => item.recorded i :: recordedConfig (i + 1) items

def TestCase.recorded (case : TestCase σ) : TestCase (σ × List Event) where
  setup := case.setup.map (recordedFunc .setup)
  run := case.run.map fun run s => (run s.1).map fun s' => (s', s.2 ++ [.run])
  teardown := case.teardown.map fun teardown s => (teardown s.1, s.2 ++ [.teardown])
  configCheckRequired := case.configCheckRequired

def CaseContext.recorded (ctx : CaseContext σ) : CaseContext (σ × List Event) where
  action s := ctx.action s.1
  setAction action s := (ctx.setAction action s.1, s.2)

/-- `do_run_test_case` with the calls it makes. -/
def recordedTestCase (ctx : CaseContext σ) (case : TestCase σ) (config : List (ConfigItem σ))
    (s : σ) : Option (Bool × (σ × List Event)) :=
  doRunTestCase ctx.recorded case.recorded (recordedConfig 0 config) (s, [])

/-! ## The loops over the items -/

section Loop

variable (func : ConfigItem σ → σ → Bool × σ)

/-- How many items succeed before one fails. -/
def succeeded : List (ConfigItem σ) → σ → ℕ
  | [], _ => 0
  | item :: items, s => if (func item s).1 then succeeded items (func item s).2 + 1 else 0

/-- A loop succeeds when every item does. -/
theorem doRunTestConfig_fst {config : List (ConfigItem σ)} (hne : config ≠ []) (s : σ) :
    (doRunTestConfig func config s).1 = decide (succeeded func config s = config.length) := by
  induction config generalizing s with
  | nil => exact absurd rfl hne
  | cons item items ih =>
      rw [doRunTestConfig, succeeded, List.length_cons]
      cases hret : (func item s).1 with
      | false => simp [hret]
      | true =>
          cases items with
          | nil => simp [hret, succeeded]
          | cons next items =>
              have hrest := ih (List.cons_ne_nil next items) (func item s).2
              simpa [hret] using hrest

/-- The calls of a loop from the `i`-th of `n` items on, of which `k` succeed. -/
def loopEvents (event : ℕ → Bool → Event) (i n k : ℕ) : List Event :=
  (List.range' i k).map (event · true) ++ if k < n then [event (i + k) false] else []

theorem loopEvents_succ (event : ℕ → Bool → Event) (i n k : ℕ) :
    loopEvents event i (n + 1) (k + 1) = event i true :: loopEvents event (i + 1) n k := by
  have hindex : i + (k + 1) = i + 1 + k := by omega
  simp only [loopEvents, List.range'_succ, List.map_cons, List.cons_append, hindex,
    Nat.add_lt_add_iff_right]

/-- A recorded loop does what the loop does, and its calls are known. -/
theorem doRunTestConfig_recorded {recordedFn : ConfigItem (σ × List Event) →
      σ × List Event → Bool × (σ × List Event)} {event : ℕ → Bool → Event}
    (hfunc : ∀ i item, recordedFn (ConfigItem.recorded i item) =
      recordedFunc (event i) (func item))
    (i : ℕ) {config : List (ConfigItem σ)} (hne : config ≠ []) (s : σ) (events : List Event) :
    doRunTestConfig recordedFn (recordedConfig i config) (s, events) =
      ((doRunTestConfig func config s).1, (doRunTestConfig func config s).2,
        events ++ loopEvents event i config.length (succeeded func config s)) := by
  induction config generalizing i s events with
  | nil => exact absurd rfl hne
  | cons item items ih =>
      rw [recordedConfig, doRunTestConfig, hfunc, doRunTestConfig, succeeded]
      cases hret : (func item s).1 with
      | false => simp [recordedFunc, hret, loopEvents]
      | true =>
          cases items with
          | nil => simp [recordedFunc, hret, loopEvents, recordedConfig, succeeded]
          | cons next items =>
              have hrest := ih (i + 1) (List.cons_ne_nil next items) (func item s).2
                (events ++ [event i true])
              simp only [recordedFunc, hret, List.length_cons, loopEvents_succ, if_true]
              simpa [recordedConfig] using hrest

end Loop

section Loops

variable {config : List (ConfigItem σ)} (hne : config ≠ []) (s : σ) (events : List Event)

include hne

theorem support_recorded :
    doRunTestConfig ConfigItem.support (recordedConfig 0 config) (s, events) =
      ((doRunTestConfig ConfigItem.support config s).1,
        (doRunTestConfig ConfigItem.support config s).2,
        events ++ loopEvents .support 0 config.length (succeeded ConfigItem.support config s)) :=
  doRunTestConfig_recorded ConfigItem.support (fun _ _ => rfl) 0 hne s events

theorem enable_recorded :
    doRunTestConfig ConfigItem.enable (recordedConfig 0 config) (s, events) =
      ((doRunTestConfig ConfigItem.enable config s).1,
        (doRunTestConfig ConfigItem.enable config s).2,
        events ++ loopEvents .enable 0 config.length (succeeded ConfigItem.enable config s)) :=
  doRunTestConfig_recorded ConfigItem.enable (fun _ _ => rfl) 0 hne s events

theorem check_recorded :
    doRunTestConfig ConfigItem.check (recordedConfig 0 config) (s, events) =
      ((doRunTestConfig ConfigItem.check config s).1,
        (doRunTestConfig ConfigItem.check config s).2,
        events ++ loopEvents .check 0 config.length (succeeded ConfigItem.check config s)) :=
  doRunTestConfig_recorded ConfigItem.check (fun _ _ => rfl) 0 hne s events

theorem disable_recorded :
    doRunTestConfig ConfigItem.disable (recordedConfig 0 config) (s, events) =
      ((doRunTestConfig ConfigItem.disable config s).1,
        (doRunTestConfig ConfigItem.disable config s).2,
        events ++ loopEvents .disable 0 config.length (succeeded ConfigItem.disable config s)) :=
  doRunTestConfig_recorded ConfigItem.disable (fun _ _ => rfl) 0 hne s events

end Loops

/-! ## A whole case -/

def runTeardown (case : TestCase σ) (s : σ) : σ :=
  match case.teardown with
  | some teardown => teardown s
  | none => s

def runRun (case : TestCase σ) (s : σ) : Option σ :=
  match case.run with
  | some run => run s
  | none => some s

def runCheck (case : TestCase σ) (config : List (ConfigItem σ)) (s : σ) : σ :=
  if case.configCheckRequired then (doRunTestConfig ConfigItem.check config s).2 else s

/-- The run function and the check of the config. -/
def runAndCheck (case : TestCase σ) (config : List (ConfigItem σ)) (s : σ) : Option σ :=
  (runRun case s).map (runCheck case config)

/-- From the setup of a case to its teardown; none when its run function does not return. -/
def caseBody (ctx : CaseContext σ) (case : TestCase σ) (config : List (ConfigItem σ)) (s : σ) :
    Option σ :=
  let (ret, s) := runSetup ctx case s
  if ret = false ∨ ctx.action s = .skip then some (runTeardown case s)
  else (runAndCheck case config s).map (runTeardown case)

theorem testCaseDone_eq (case : TestCase σ) (config : List (ConfigItem σ)) (s : σ) :
    testCaseDone case config s =
      (true, (doRunTestConfig ConfigItem.disable config (runTeardown case s)).2) := rfl

theorem doRunTestCase_eq (ctx : CaseContext σ) (case : TestCase σ) (config : List (ConfigItem σ))
    (s : σ) :
    doRunTestCase ctx case config s =
      if ctx.action s = .skip then some (true, s)
      else
        let supported := doRunTestConfig ConfigItem.support config s
        if supported.1 = false then some (true, supported.2)
        else
          let enabled := doRunTestConfig ConfigItem.enable config supported.2
          if enabled.1 = false then some (true, enabled.2)
          else (caseBody ctx case config enabled.2).map fun s =>
            (true, (doRunTestConfig ConfigItem.disable config s).2) := by
  unfold doRunTestCase caseBody
  simp only [Bool.not_eq_true', testCaseDone_eq]
  split
  · rfl
  · split
    · rfl
    · split
      · rfl
      · generalize runSetup ctx case _ = r
        rcases r with ⟨ret, s'⟩
        cases ret with
        | false => rfl
        | true =>
            by_cases hskip : ctx.action s' = .skip
            · simp [hskip]
            · simp only [hskip, if_false, or_false, Bool.true_eq_false, runAndCheck, runRun]
              cases case.run with
              | none => rfl
              | some run => cases hrun : run s' <;> simp [hrun, runCheck]

/-! ## What all functions keep -/

structure ConfigItem.Keeps (item : ConfigItem σ) (P : σ → Prop) : Prop where
  support : ∀ s, P s → P (item.support s).2
  enable : ∀ s, P s → P (item.enable s).2
  disable : ∀ s, P s → P (item.disable s).2
  check : ∀ s, P s → P (item.check s).2

structure TestCase.Keeps (case : TestCase σ) (P : σ → Prop) : Prop where
  setup : ∀ setup ∈ case.setup, ∀ s, P s → P (setup s).2
  run : ∀ run ∈ case.run, ∀ s s', run s = some s' → P s → P s'
  teardown : ∀ teardown ∈ case.teardown, ∀ s, P s → P (teardown s)

section Keeps

variable {P : σ → Prop} {ctx : CaseContext σ} {case : TestCase σ} {config : List (ConfigItem σ)}

theorem doRunTestConfig_keeps {func : ConfigItem σ → σ → Bool × σ}
    (hfunc : ∀ item ∈ config, ∀ s, P s → P (func item s).2) {s : σ} (hs : P s) :
    P (doRunTestConfig func config s).2 := by
  induction config generalizing s with
  | nil => exact hs
  | cons item items ih =>
      rw [List.forall_mem_cons] at hfunc
      rw [doRunTestConfig]
      simp only
      split
      · exact ih hfunc.2 (hfunc.1 s hs)
      · exact hfunc.1 s hs

theorem runSetup_keeps (hcase : case.Keeps P) (hset : ∀ s, P s → P (ctx.setAction .skip s))
    {s : σ} (hs : P s) : P (runSetup ctx case s).2 := by
  rw [runSetup]
  split
  · rename_i setup hsetup
    have hkept := hcase.setup setup hsetup s hs
    cases hret : (setup s).1 with
    | false => simpa [hret] using hset _ hkept
    | true => simpa [hret] using hkept
  · exact hs

theorem runTeardown_keeps (hcase : case.Keeps P) {s : σ} (hs : P s) :
    P (runTeardown case s) := by
  rw [runTeardown]
  split
  · rename_i teardown hteardown
    exact hcase.teardown teardown hteardown s hs
  · exact hs

theorem runRun_keeps (hcase : case.Keeps P) {s s' : σ} (hs : P s)
    (h : runRun case s = some s') : P s' := by
  rw [runRun] at h
  split at h
  · rename_i run hrun
    exact hcase.run run hrun s s' h hs
  · cases h
    exact hs

variable (hconfig : ∀ item ∈ config, ConfigItem.Keeps item P)

include hconfig

theorem runCheck_keeps {s : σ} (hs : P s) : P (runCheck case config s) := by
  rw [runCheck]
  split
  · exact doRunTestConfig_keeps (fun item hitem => (hconfig item hitem).check) hs
  · exact hs

theorem caseBody_keeps (hcase : case.Keeps P) (hset : ∀ s, P s → P (ctx.setAction .skip s))
    {s s' : σ} (hs : P s) (h : caseBody ctx case config s = some s') : P s' := by
  rw [caseBody] at h
  have hsetup := runSetup_keeps hcase hset hs
  simp only at h
  split at h
  · cases h
    exact runTeardown_keeps hcase hsetup
  · rw [runAndCheck, Option.map_map, Option.map_eq_some_iff] at h
    rcases h with ⟨s₁, hrun, rfl⟩
    exact runTeardown_keeps hcase (runCheck_keeps hconfig (runRun_keeps hcase hsetup hrun))

/-- What every function keeps, a whole case keeps. -/
theorem doRunTestCase_keeps (hcase : case.Keeps P) (hset : ∀ s, P s → P (ctx.setAction .skip s))
    {s s' : σ} {ret : Bool} (hs : P s) (h : doRunTestCase ctx case config s = some (ret, s')) :
    P s' := by
  have hsupport := doRunTestConfig_keeps (fun item hitem => (hconfig item hitem).support) hs
  have henable := doRunTestConfig_keeps (fun item hitem => (hconfig item hitem).enable) hsupport
  rw [doRunTestCase_eq] at h
  split at h
  · cases h
    exact hs
  · simp only at h
    split at h
    · cases h
      exact hsupport
    · split at h
      · cases h
        exact henable
      · rw [Option.map_eq_some_iff] at h
        rcases h with ⟨s₁, hbody, heq⟩
        cases heq
        exact doRunTestConfig_keeps (fun item hitem => (hconfig item hitem).disable)
          (caseBody_keeps hconfig hcase hset henable hbody)

end Keeps

/-- A case returns when its run function does. -/
theorem doRunTestCase_returns (ctx : CaseContext σ) (case : TestCase σ)
    (config : List (ConfigItem σ)) (hrun : ∀ run ∈ case.run, ∀ s, ∃ s', run s = some s') (s : σ) :
    ∃ r, doRunTestCase ctx case config s = some r := by
  have hran : ∀ s, ∃ s', runRun case s = some s' := by
    intro s
    rw [runRun]
    split
    · rename_i run hsome
      exact hrun run hsome s
    · exact ⟨s, rfl⟩
  have hbody : ∀ s, ∃ s', caseBody ctx case config s = some s' := by
    intro s
    rw [caseBody]
    simp only
    split
    · exact ⟨_, rfl⟩
    · obtain ⟨s₁, hs₁⟩ := hran (runSetup ctx case s).2
      exact ⟨_, by rw [runAndCheck, hs₁]; rfl⟩
  rw [doRunTestCase_eq]
  split
  · exact ⟨_, rfl⟩
  · simp only
    split
    · exact ⟨_, rfl⟩
    · split
      · exact ⟨_, rfl⟩
      · obtain ⟨s₁, hs₁⟩ := hbody
          (doRunTestConfig ConfigItem.enable config
            (doRunTestConfig ConfigItem.support config s).2).2
        exact ⟨_, by rw [hs₁]; rfl⟩

/-! ## The calls of a case -/

/-- The calls of the functions of a case. -/
def Event.ofCase : Event → Bool
  | .setup _ | .run | .teardown => true
  | .support .. | .enable .. | .check .. | .disable .. => false

/-- The calls between enabling and disabling. -/
def Event.between : Event → Bool
  | .setup _ | .run | .teardown | .check .. => true
  | .support .. | .enable .. | .disable .. => false

theorem loopEvents_between {event : ℕ → Bool → Event} (hevent : ∀ i ret, (event i ret).between)
    (i n k : ℕ) : ∀ e ∈ loopEvents event i n k, e.between = true := by
  intro e he
  rcases List.mem_append.mp he with hpassed | hfailed
  · rcases List.mem_map.mp hpassed with ⟨j, -, rfl⟩
    exact hevent j true
  · split at hfailed
    · rw [List.mem_singleton.mp hfailed]
      exact hevent _ false
    · cases hfailed

theorem runSetup_recorded (ctx : CaseContext σ) (case : TestCase σ) (s : σ)
    (events : List Event) :
    ∃ calls, (∀ e ∈ calls, Event.between e = true) ∧
      runSetup ctx.recorded case.recorded (s, events) =
        ((runSetup ctx case s).1, (runSetup ctx case s).2, events ++ calls) := by
  cases hsetup : case.setup with
  | none =>
      refine ⟨[], by simp, ?_⟩
      simp [runSetup, TestCase.recorded, hsetup]
  | some setup =>
      refine ⟨[.setup (setup s).1], by simp [Event.between], ?_⟩
      cases hret : (setup s).1 <;>
        simp [runSetup, TestCase.recorded, hsetup, recordedFunc, hret, CaseContext.recorded]

theorem runTeardown_recorded (case : TestCase σ) :
    ∃ calls : List Event, (∀ e ∈ calls, Event.between e = true) ∧ ∀ s events,
      runTeardown case.recorded (s, events) = (runTeardown case s, events ++ calls) := by
  cases hteardown : case.teardown with
  | none =>
      refine ⟨[], by simp, ?_⟩
      simp [runTeardown, TestCase.recorded, hteardown]
  | some teardown =>
      refine ⟨[.teardown], by simp [Event.between], ?_⟩
      simp [runTeardown, TestCase.recorded, hteardown]

theorem runRun_recorded (case : TestCase σ) (s : σ) (events : List Event) :
    ∃ calls : List Event, (∀ e ∈ calls, Event.between e = true) ∧
      runRun case.recorded (s, events) = (runRun case s).map fun s' => (s', events ++ calls) := by
  cases hrun : case.run with
  | none =>
      refine ⟨[], by simp, ?_⟩
      simp [runRun, TestCase.recorded, hrun]
  | some run =>
      refine ⟨[.run], by simp [Event.between], ?_⟩
      simp [runRun, TestCase.recorded, hrun]

theorem runCheck_recorded (case : TestCase σ) {config : List (ConfigItem σ)}
    (hne : config ≠ []) (s : σ) (events : List Event) :
    ∃ calls, (∀ e ∈ calls, Event.between e = true) ∧
      runCheck case.recorded (recordedConfig 0 config) (s, events) =
        (runCheck case config s, events ++ calls) := by
  by_cases hcheck : case.configCheckRequired
  · refine ⟨loopEvents .check 0 config.length (succeeded ConfigItem.check config s), ?_, ?_⟩
    · exact loopEvents_between (fun _ _ => rfl) _ _ _
    · simp only [runCheck, TestCase.recorded, hcheck, if_true]
      rw [check_recorded hne]
  · refine ⟨[], by simp, ?_⟩
    simp [runCheck, TestCase.recorded, hcheck]

theorem runAndCheck_recorded (case : TestCase σ) {config : List (ConfigItem σ)}
    (hne : config ≠ []) (s : σ) (events : List Event) :
    ∃ calls, (∀ e ∈ calls, Event.between e = true) ∧
      runAndCheck case.recorded (recordedConfig 0 config) (s, events) =
        (runAndCheck case config s).map fun s' => (s', events ++ calls) := by
  rcases runRun_recorded case s events with ⟨ran, hran, hranEq⟩
  rw [runAndCheck, runAndCheck, hranEq]
  cases hrun : runRun case s with
  | none => exact ⟨[], by simp, rfl⟩
  | some s' =>
      rcases runCheck_recorded case hne s' (events ++ ran) with ⟨checks, hchecks, hchecksEq⟩
      refine ⟨ran ++ checks, List.forall_mem_append.mpr ⟨hran, hchecks⟩, ?_⟩
      simp only [Option.map_some, hchecksEq, List.append_assoc]

/-- The calls of the body of a case are none of enabling and disabling. -/
theorem caseBody_recorded (ctx : CaseContext σ) (case : TestCase σ) {config : List (ConfigItem σ)}
    (hne : config ≠ []) (s : σ) (events : List Event) :
    ∃ calls, (∀ e ∈ calls, Event.between e = true) ∧
      caseBody ctx.recorded case.recorded (recordedConfig 0 config) (s, events) =
        (caseBody ctx case config s).map fun s' => (s', events ++ calls) := by
  rcases runSetup_recorded ctx case s events with ⟨setupCalls, hsetup, hsetupEq⟩
  rcases runTeardown_recorded case with ⟨down, hdown, hdownEq⟩
  rcases runAndCheck_recorded case hne (runSetup ctx case s).2 (events ++ setupCalls) with
    ⟨calls, hcalls, hcallsEq⟩
  rw [caseBody, caseBody, hsetupEq]
  by_cases hskip : (runSetup ctx case s).1 = false ∨ ctx.action (runSetup ctx case s).2 = .skip
  · refine ⟨setupCalls ++ down, List.forall_mem_append.mpr ⟨hsetup, hdown⟩, ?_⟩
    simp only [CaseContext.recorded, if_pos hskip, hdownEq, List.append_assoc, Option.map_some]
  · refine ⟨setupCalls ++ (calls ++ down), ?_, ?_⟩
    · exact List.forall_mem_append.mpr ⟨hsetup, List.forall_mem_append.mpr ⟨hcalls, hdown⟩⟩
    · simp only [CaseContext.recorded, if_neg hskip, hcallsEq, Option.map_map]
      apply congrArg (Option.map · _)
      funext s'
      simp only [Function.comp_apply, hdownEq, List.append_assoc]

/-! ## Enabled items are disabled -/

def Event.isDisable (i : ℕ) : Event → Bool
  | .disable j _ => j == i
  | _ => false

/-- The case is run only when all `n` items are supported and enabled, and every item that was
enabled is disabled exactly once afterwards. -/
structure Clean (n : ℕ) (events : List Event) : Prop where
  prepared : ∀ before e after, events = before ++ e :: after → e.ofCase →
    ∀ i < n, .support i true ∈ before ∧ .enable i true ∈ before
  released : ∀ before i after, events = before ++ .enable i true :: after →
    after.countP (·.isDisable i) = 1

section Split

variable {α : Type*} {xs ys before after : List α} {e : α}

theorem split_of_not_mem_left (h : xs ++ ys = before ++ e :: after) (he : e ∉ xs) :
    ∃ tail, before = xs ++ tail ∧ ys = tail ++ e :: after := by
  rcases List.append_eq_append_iff.mp h with ⟨tail, hbefore, hys⟩ | ⟨tail, hxs, htail⟩
  · exact ⟨tail, hbefore, hys⟩
  · cases tail with
    | nil => exact ⟨[], by simpa using hxs.symm, by simpa using htail.symm⟩
    | cons c tail =>
        rw [List.cons_append, List.cons.injEq] at htail
        exact absurd (by simp [hxs, htail.1]) he

theorem split_of_not_mem_right (h : xs ++ ys = before ++ e :: after) (he : e ∉ ys) :
    ∃ tail, xs = before ++ e :: tail ∧ after = tail ++ ys := by
  rcases List.append_eq_append_iff.mp h with ⟨tail, -, hys⟩ | ⟨tail, hxs, htail⟩
  · exact absurd (by simp [hys]) he
  · cases tail with
    | nil =>
        rw [List.nil_append] at htail
        rw [← htail] at he
        exact absurd List.mem_cons_self he
    | cons c tail =>
        rw [List.cons_append, List.cons.injEq] at htail
        exact ⟨tail, by rw [hxs, htail.1], htail.2⟩

end Split

section Loops

variable {event : ℕ → Bool → Event} {n k : ℕ}

theorem mem_loopEvents_iff {e : Event} : e ∈ loopEvents event 0 n k ↔
    (∃ i < k, event i true = e) ∨ (k < n ∧ e = event k false) := by
  rw [loopEvents, List.mem_append, List.mem_map, Nat.zero_add]
  apply or_congr
  · simp
  · by_cases hk : k < n <;> simp [hk]

theorem countP_loopEvents_disable (i : ℕ) :
    (loopEvents Event.disable 0 n k).countP (·.isDisable i) =
      if i < k ∨ (i = k ∧ k < n) then 1 else 0 := by
  have hpassed : ((List.range' 0 k).map (Event.disable · true)).countP (·.isDisable i) =
      if i < k then 1 else 0 := by
    induction k with
    | zero => simp
    | succ k ih =>
        rw [List.range'_concat, List.map_append, List.countP_append, ih]
        have hlast : ([0 + 1 * k].map (Event.disable · true)).countP (·.isDisable i) =
            if k = i then 1 else 0 := by simp [Event.isDisable, List.countP_singleton]
        rw [hlast]
        split <;> split <;> split <;> omega
  rw [loopEvents, List.countP_append, hpassed]
  by_cases hk : k < n
  · have hfailed : [Event.disable (0 + k) false].countP (·.isDisable i) =
        if k = i then 1 else 0 := by simp [Event.isDisable, List.countP_singleton]
    rw [if_pos hk, hfailed]
    split <;> split <;> split <;> omega
  · simp [hk]

theorem countP_loopEvents_of_enable (i : ℕ) :
    (loopEvents Event.enable 0 n k).countP (·.isDisable i) = 0 := by
  rw [List.countP_eq_zero]
  intro e he
  rcases mem_loopEvents_iff.mp he with ⟨j, -, rfl⟩ | ⟨-, rfl⟩ <;> simp [Event.isDisable]

end Loops

/-! ## The whole run -/

section Run

variable (ctx : CaseContext σ) (case : TestCase σ) {config : List (ConfigItem σ)}

/-- The calls before the body of a case. -/
def prepareEvents (n supported enabled : ℕ) : List Event :=
  loopEvents .support 0 n supported ++ loopEvents .enable 0 n enabled

theorem not_ofCase_of_mem_prepareEvents {n supported enabled : ℕ} {e : Event}
    (he : e ∈ prepareEvents n supported enabled) : e.ofCase = false := by
  rcases List.mem_append.mp he with hsupport | henable
  · rcases mem_loopEvents_iff.mp hsupport with ⟨i, -, rfl⟩ | ⟨-, rfl⟩ <;> rfl
  · rcases mem_loopEvents_iff.mp henable with ⟨i, -, rfl⟩ | ⟨-, rfl⟩ <;> rfl

theorem countP_prepareEvents (n supported enabled i : ℕ) :
    (prepareEvents n supported enabled).countP (·.isDisable i) = 0 := by
  rw [prepareEvents, List.countP_append, countP_loopEvents_of_enable, List.countP_eq_zero.mpr]
  intro e he
  rcases mem_loopEvents_iff.mp he with ⟨j, -, rfl⟩ | ⟨-, rfl⟩ <;> simp [Event.isDisable]

theorem enable_mem_prepareEvents_iff {n supported enabled i : ℕ} :
    Event.enable i true ∈ prepareEvents n supported enabled ↔ i < enabled := by
  rw [prepareEvents, List.mem_append, mem_loopEvents_iff, mem_loopEvents_iff]
  simp

theorem clean_of_forall {n : ℕ} {events : List Event} (hcase : ∀ e ∈ events, e.ofCase = false)
    (henable : ∀ i, Event.enable i true ∉ events) : Clean n events where
  prepared := by
    intro before e after hsplit he
    have hmem : e ∈ events := by simp [hsplit]
    rw [hcase e hmem] at he
    cases he
  released := by
    intro before i after hsplit
    exact absurd (by simp [hsplit]) (henable i)

/-- Nothing is disabled when the body of the case is not reached. -/
theorem clean_prepareEvents_iff (n supported enabled : ℕ) :
    Clean n (prepareEvents n supported enabled) ↔ enabled = 0 := by
  refine ⟨?_, ?_⟩
  · intro h
    by_contra hne
    have hmem : Event.enable 0 true ∈ prepareEvents n supported enabled :=
      enable_mem_prepareEvents_iff.mpr (Nat.pos_of_ne_zero hne)
    rcases List.append_of_mem hmem with ⟨before, after, hsplit⟩
    have hnone := countP_prepareEvents n supported enabled 0
    rw [hsplit, List.countP_append, List.countP_cons, h.released before 0 after hsplit] at hnone
    omega
  · rintro rfl
    apply clean_of_forall
    · exact fun e => not_ofCase_of_mem_prepareEvents
    · exact fun i hmem => absurd (enable_mem_prepareEvents_iff.mp hmem) (Nat.not_lt_zero i)

variable {calls : List Event} (hcalls : ∀ e ∈ calls, Event.between e = true)

include hcalls

/-- After the body of the case the items up to the first one that cannot be disabled are
disabled. -/
theorem countP_disableEvents (n k i : ℕ) :
    (calls ++ loopEvents .disable 0 n k).countP (·.isDisable i) =
      if i < k ∨ (i = k ∧ k < n) then 1 else 0 := by
  have hnone : calls.countP (·.isDisable i) = 0 := by
    rw [List.countP_eq_zero]
    intro e he
    have hbetween := hcalls e he
    cases e <;> simp_all [Event.between, Event.isDisable]
  rw [List.countP_append, hnone, countP_loopEvents_disable, Nat.zero_add]

theorem enable_not_mem_disableEvents (n k i : ℕ) :
    Event.enable i true ∉ calls ++ loopEvents .disable 0 n k := by
  intro hmem
  rcases List.mem_append.mp hmem with hcall | hdisable
  · exact absurd (hcalls _ hcall) (by simp [Event.between])
  · rcases mem_loopEvents_iff.mp hdisable with ⟨j, -, heq⟩ | ⟨-, heq⟩ <;> cases heq

/-- When the body of the case is reached, all items are enabled, and the disabling must not
stop before the last one. -/
theorem clean_disableEvents_iff (n k : ℕ) :
    Clean n (prepareEvents n n n ++ (calls ++ loopEvents .disable 0 n k)) ↔ n ≤ k + 1 := by
  refine ⟨?_, ?_⟩
  · intro h
    by_contra hlt
    have hmem : Event.enable (k + 1) true ∈ prepareEvents n n n :=
      enable_mem_prepareEvents_iff.mpr (by omega)
    rcases List.append_of_mem hmem with ⟨before, after, hsplit⟩
    have hall := h.released before (k + 1) (after ++ (calls ++ loopEvents .disable 0 n k))
      (by simp [hsplit])
    have hnone := countP_prepareEvents n n n (k + 1)
    rw [hsplit, List.countP_append, List.countP_cons] at hnone
    rw [List.countP_append, countP_disableEvents hcalls, if_neg (by omega)] at hall
    omega
  · intro hle
    refine ⟨?_, ?_⟩
    · intro before e after hsplit hcase
      have he : e ∉ prepareEvents n n n := by
        intro hmem
        rw [not_ofCase_of_mem_prepareEvents hmem] at hcase
        cases hcase
      rcases split_of_not_mem_left hsplit he with ⟨tail, rfl, -⟩
      intro i hi
      refine ⟨List.mem_append_left _ ?_, List.mem_append_left _ ?_⟩
      · exact List.mem_append_left _ (mem_loopEvents_iff.mpr (Or.inl ⟨i, hi, rfl⟩))
      · exact enable_mem_prepareEvents_iff.mpr hi
    · intro before i after hsplit
      rcases split_of_not_mem_right hsplit (enable_not_mem_disableEvents hcalls n k i) with
        ⟨tail, hprepare, rfl⟩
      have hi : i < n := by
        rw [← enable_mem_prepareEvents_iff, hprepare]
        simp
      have hnone := countP_prepareEvents n n n i
      rw [hprepare, List.countP_append, List.countP_cons] at hnone
      rw [List.countP_append, countP_disableEvents hcalls, if_pos (by omega)]
      omega

end Run

/-- The calls that are recorded do not change whether the case runs. -/
theorem recorded_ne_skip {ctx : CaseContext σ} {s : σ} {calls : List Event}
    (hrun : ctx.action s = .run) :
    ctx.recorded.action (s, calls) ≠ .skip := by
  rw [CaseContext.recorded, hrun]
  decide

section Prepare

variable (ctx : CaseContext σ) (case : TestCase σ) {config : List (ConfigItem σ)}
  (hne : config ≠ []) (s : σ)

include hne

theorem recordedTestCase_unsupported (hrun : ctx.action s = .run)
    (hsupport : succeeded ConfigItem.support config s ≠ config.length) :
    recordedTestCase ctx case config s =
      some (true, (doRunTestConfig ConfigItem.support config s).2,
        loopEvents .support 0 config.length (succeeded ConfigItem.support config s)) := by
  rw [recordedTestCase, doRunTestCase_eq, if_neg (recorded_ne_skip hrun)]
  simp only [support_recorded hne, doRunTestConfig_fst _ hne, hsupport, decide_false, if_true,
    List.nil_append]

theorem recordedTestCase_notEnabled (hrun : ctx.action s = .run)
    (hsupport : succeeded ConfigItem.support config s = config.length)
    (henable : succeeded ConfigItem.enable config
      (doRunTestConfig ConfigItem.support config s).2 ≠ config.length) :
    recordedTestCase ctx case config s =
      some (true, (doRunTestConfig ConfigItem.enable config
          (doRunTestConfig ConfigItem.support config s).2).2,
        prepareEvents config.length config.length (succeeded ConfigItem.enable config
          (doRunTestConfig ConfigItem.support config s).2)) := by
  rw [recordedTestCase, doRunTestCase_eq, if_neg (recorded_ne_skip hrun)]
  simp only [support_recorded hne, enable_recorded hne, doRunTestConfig_fst _ hne, hsupport,
    henable, decide_true, decide_false, Bool.true_eq_false, if_false, if_true, List.nil_append]
  rfl

/-- A run in which all items are enabled. -/
theorem recordedTestCase_prepared (hrun : ctx.action s = .run)
    (hsupport : succeeded ConfigItem.support config s = config.length)
    (henable : succeeded ConfigItem.enable config
      (doRunTestConfig ConfigItem.support config s).2 = config.length) :
    ∃ calls, (∀ e ∈ calls, Event.between e = true) ∧
      recordedTestCase ctx case config s =
        (caseBody ctx case config (doRunTestConfig ConfigItem.enable config
            (doRunTestConfig ConfigItem.support config s).2).2).map fun s' =>
          (true, (doRunTestConfig ConfigItem.disable config s').2,
            prepareEvents config.length config.length config.length ++
              (calls ++ loopEvents .disable 0 config.length
                (succeeded ConfigItem.disable config s'))) := by
  rcases caseBody_recorded ctx case hne (doRunTestConfig ConfigItem.enable config
    (doRunTestConfig ConfigItem.support config s).2).2
    (prepareEvents config.length config.length config.length) with ⟨calls, hcalls, hbody⟩
  refine ⟨calls, hcalls, ?_⟩
  rw [recordedTestCase, doRunTestCase_eq, if_neg (recorded_ne_skip hrun)]
  simp only [support_recorded hne, enable_recorded hne, doRunTestConfig_fst _ hne, hsupport,
    henable, decide_true, Bool.true_eq_false, if_false, List.nil_append]
  rw [← prepareEvents, hbody, Option.map_map]
  apply congrArg (Option.map · _)
  funext s'
  simp only [Function.comp_apply, disable_recorded hne, List.append_assoc]

end Prepare

/-- Recording the calls changes nothing else. -/
theorem recordedTestCase_erase (ctx : CaseContext σ) (case : TestCase σ)
    {config : List (ConfigItem σ)} (hne : config ≠ []) (s : σ) :
    (recordedTestCase ctx case config s).map (fun r => (r.1, r.2.1)) =
      doRunTestCase ctx case config s := by
  rw [doRunTestCase_eq]
  cases hrun : ctx.action s with
  | skip =>
      have hskip : recordedTestCase ctx case config s = some (true, s, []) := by
        rw [recordedTestCase, doRunTestCase_eq, if_pos (by exact hrun)]
      rw [hskip]
      rfl
  | run =>
      simp only [reduceCtorEq, if_false, doRunTestConfig_fst _ hne]
      by_cases hsupport : succeeded ConfigItem.support config s = config.length
      · by_cases henable : succeeded ConfigItem.enable config
            (doRunTestConfig ConfigItem.support config s).2 = config.length
        · rcases recordedTestCase_prepared ctx case hne s hrun hsupport henable with
            ⟨calls, -, heq⟩
          simp only [heq, Option.map_map, hsupport, henable, decide_true, Bool.true_eq_false,
            if_false]
          rfl
        · rw [recordedTestCase_notEnabled ctx case hne s hrun hsupport henable]
          simp [hsupport, henable]
      · rw [recordedTestCase_unsupported ctx case hne s hrun hsupport]
        simp [hsupport]

/-- When the items are supported: either the first one cannot be enabled, or all of them can,
and then none but the last one fails to be disabled. -/
def ReleaseCondition (ctx : CaseContext σ) (case : TestCase σ) (config : List (ConfigItem σ))
    (s : σ) : Prop :=
  ctx.action s = .run → succeeded ConfigItem.support config s = config.length →
    let s := (doRunTestConfig ConfigItem.support config s).2
    succeeded ConfigItem.enable config s = 0 ∨
      (succeeded ConfigItem.enable config s = config.length ∧
        ∀ s', caseBody ctx case config (doRunTestConfig ConfigItem.enable config s).2 = some s' →
          config.length ≤ succeeded ConfigItem.disable config s' + 1)

/-- The case is run on supported and enabled items only, and they are all disabled again, exactly
when `ReleaseCondition` holds. -/
theorem doRunTestCase_clean_iff (ctx : CaseContext σ) (case : TestCase σ)
    {config : List (ConfigItem σ)} (hne : config ≠ []) (s : σ) :
    (∀ ret s' events, recordedTestCase ctx case config s = some (ret, s', events) →
        Clean config.length events) ↔
      ReleaseCondition ctx case config s := by
  cases hrun : ctx.action s with
  | skip =>
      have hskip : recordedTestCase ctx case config s = some (true, s, []) := by
        rw [recordedTestCase, doRunTestCase_eq, if_pos (by exact hrun)]
      refine ⟨fun _ hrun' => ?_, ?_⟩
      · rw [hrun] at hrun'
        cases hrun'
      · rintro - ret s' events heq
        rw [hskip] at heq
        cases heq
        exact clean_of_forall (by simp) (by simp)
  | run =>
      by_cases hsupport : succeeded ConfigItem.support config s = config.length
      · by_cases henable : succeeded ConfigItem.enable config
            (doRunTestConfig ConfigItem.support config s).2 = config.length
        · rcases recordedTestCase_prepared ctx case hne s hrun hsupport henable with
            ⟨calls, hcalls, heq⟩
          have hpos := List.length_pos_of_ne_nil hne
          refine ⟨?_, ?_⟩
          · intro h _ _
            refine Or.inr ⟨henable, ?_⟩
            intro s' hbody
            rw [hbody] at heq
            exact (clean_disableEvents_iff hcalls _ _).mp (h _ _ _ heq)
          · intro h ret s' events hevents
            rcases h hrun hsupport with hzero | ⟨-, hdisable⟩
            · omega
            · rw [heq, Option.map_eq_some_iff] at hevents
              rcases hevents with ⟨s'', hbody, hevents⟩
              cases hevents
              exact (clean_disableEvents_iff hcalls _ _).mpr (hdisable s'' hbody)
        · have heq := recordedTestCase_notEnabled ctx case hne s hrun hsupport henable
          refine ⟨?_, ?_⟩
          · intro h _ _
            exact Or.inl ((clean_prepareEvents_iff _ _ _).mp (h _ _ _ heq))
          · intro h ret s' events hevents
            rw [heq] at hevents
            cases hevents
            rcases h hrun hsupport with hzero | ⟨hall, -⟩
            · exact (clean_prepareEvents_iff _ _ _).mpr hzero
            · exact absurd hall henable
      · have heq := recordedTestCase_unsupported ctx case hne s hrun hsupport
        refine ⟨fun _ _ hall => absurd hall hsupport, ?_⟩
        rintro - ret s' events hevents
        rw [heq] at hevents
        cases hevents
        apply clean_of_forall
        · intro e he
          rcases mem_loopEvents_iff.mp he with ⟨i, -, rfl⟩ | ⟨-, rfl⟩ <;> rfl
        · intro i he
          rcases mem_loopEvents_iff.mp he with ⟨j, -, heq⟩ | ⟨-, heq⟩ <;> cases heq

/-- An item whose functions succeed, but for the enable function. -/
def stubItem (enabled : Bool) : ConfigItem Unit where
  support s := (true, s)
  enable s := (enabled, s)
  disable s := (true, s)
  check s := (true, s)

def stubContext : CaseContext Unit := ⟨fun _ => .run, fun _ s => s⟩

def stubCase : TestCase Unit := ⟨none, none, none, false⟩

/-- An item that can be enabled is disabled again. -/
theorem doRunTestCase_clean_single :
    [stubItem true] ≠ [] ∧
      ((∀ ret s' events,
          recordedTestCase stubContext stubCase [stubItem true] () = some (ret, s', events) →
            Clean 1 events) ↔
        ReleaseCondition stubContext stubCase [stubItem true] ()) :=
  ⟨by simp, doRunTestCase_clean_iff stubContext stubCase (by simp) ()⟩

/-- The first item stays enabled when the second one cannot be enabled. -/
theorem doRunTestCase_leftEnabled :
    ¬ ∀ ret s' events, recordedTestCase stubContext stubCase [stubItem true, stubItem false] () =
      some (ret, s', events) → Clean 2 events := by
  intro h
  have hclean := h true () [.support 0 true, .support 1 true, .enable 0 true, .enable 1 false] rfl
  exact absurd (hclean.released [.support 0 true, .support 1 true] 0 [.enable 1 false] rfl)
    (by decide)

end TeeIoValidator.Runner
