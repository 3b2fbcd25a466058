import TeeIoValidator.Model.Stopping
import TeeIoValidator.Verification.Runner

/-! # The run of a case that an assertion can stop

A run that reaches its setup function goes on to the end, and what lies between the functions
of the case is known.
-/

namespace TeeIoValidator.Runner

variable {ω τ : Type*}

/-- What the functions keep while the program runs. -/
theorem running_keeps {P : ω → Prop} {func : ω → Option (Bool × ω)}
    (hfunc : ∀ a ret a', func a = some (ret, a') → P a → P a') {s : Option ω}
    (hs : ∀ a ∈ s, P a) : ∀ a ∈ (running func s).2, P a := by
  intro a ha
  cases s with
  | none => cases ha
  | some b =>
      rw [running] at ha
      cases hcall : func b with
      | none => simp [hcall] at ha
      | some r =>
          simp only [hcall] at ha
          cases ha
          exact hfunc b r.1 r.2 hcall (hs b rfl)

/-! ## Loops over the configurations -/

/-- A loop over configurations whose functions are implemented. -/
def configLoop (f : τ → ω → Bool × ω) : List τ → ω → Bool × ω
  | [], w => (false, w)
  | type :: types, w =>
    if (f type w).1 && !types.isEmpty then configLoop f types (f type w).2 else f type w

theorem configLoop_invariant {f : τ → ω → Bool × ω} {P : ω → Prop}
    (hf : ∀ type w, P w → P (f type w).2) (types : List τ) {w : ω}
    (hw : P w) : P (configLoop f types w).2 := by
  induction types generalizing w with
  | nil => exact hw
  | cons type types ih =>
      rw [configLoop]
      split
      · exact ih (hf type w hw)
      · exact hf type w hw

/-- What the first function of a successful loop brings about, and the others keep. -/
theorem configLoop_cons_invariant {f : τ → ω → Bool × ω} {P : ω → Prop}
    (hf : ∀ type w, P w → P (f type w).2) {type : τ} {types : List τ} {w w' : ω}
    (hfirst : (f type w).1 = true → P (f type w).2)
    (h : configLoop f (type :: types) w = (true, w')) : P w' := by
  rw [configLoop] at h
  split at h
  · rename_i hcontinue
    rw [Bool.and_eq_true] at hcontinue
    have hrest := configLoop_invariant hf types (hfirst hcontinue.1)
    rwa [h] at hrest
  · rw [h] at hfirst
    exact hfirst rfl

section Loop

variable (table : ConfigFunctions τ ω) (f : τ → ω → Bool × ω)

theorem func_running (type : τ) (w : ω) :
    table.func f type (some w) =
      if table.implemented type then ((f type w).1, some (f type w).2) else (false, none) := by
  rw [ConfigFunctions.func, running]
  cases table.implemented type <;> rfl

variable {func : ConfigItem (Option ω) → Option ω → Bool × Option ω}
  (hfunc : ∀ type, func (table.item type) = table.func f type)

include hfunc

theorem doRunTestConfig_stopped (types : List τ) :
    doRunTestConfig func (types.map table.item) none = (false, none) := by
  cases types with
  | nil => rfl
  | cons type types =>
      rw [List.map_cons, doRunTestConfig, hfunc]
      rfl

theorem doRunTestConfig_implemented {types : List τ}
    (hall : ∀ type ∈ types, table.implemented type = true) (w : ω) :
    doRunTestConfig func (types.map table.item) (some w) =
      ((configLoop f types w).1, some (configLoop f types w).2) := by
  induction types generalizing w with
  | nil => rfl
  | cons type types ih =>
      rw [List.forall_mem_cons] at hall
      rw [List.map_cons, doRunTestConfig, hfunc, func_running, configLoop]
      simp only [hall.1, if_true, List.isEmpty_map]
      split
      · exact ih hall.2 _
      · rfl

/-- A loop that succeeds has come to the last item. -/
theorem implemented_of_succeeds {types : List τ} {w : ω}
    (h : (doRunTestConfig func (types.map table.item) (some w)).1 = true) :
    ∀ type ∈ types, table.implemented type = true := by
  induction types generalizing w with
  | nil => simp
  | cons type types ih =>
      rw [List.map_cons, doRunTestConfig, hfunc, func_running] at h
      cases himpl : table.implemented type with
      | false => simp [himpl] at h
      | true =>
          rw [List.forall_mem_cons]
          refine ⟨himpl, ?_⟩
          simp only [himpl, if_true, List.isEmpty_map] at h
          split at h
          · exact ih h
          · rename_i hstop
            cases types with
            | nil => simp
            | cons next types => simp_all

theorem doRunTestConfig_invariant {P : ω → Prop} (hf : ∀ type w, P w → P (f type w).2)
    {types : List τ} {w w' : ω} (hw : P w)
    (h : (doRunTestConfig func (types.map table.item) (some w)).2 = some w') : P w' := by
  have hkept : ∀ w₁ ∈ (doRunTestConfig func (types.map table.item) (some w)).2, P w₁ := by
    apply doRunTestConfig_keeps (P := fun s => ∀ w ∈ s, P w)
    · intro item hitem s hs
      rcases List.mem_map.mp hitem with ⟨type, -, rfl⟩
      rw [hfunc]
      refine running_keeps (fun w ret w₁ hrun hw => ?_) hs
      split at hrun
      · have hkept := hf type w hw
        rwa [Option.some.inj hrun] at hkept
      · cases hrun
    · intro w₁ hw₁
      cases hw₁
      exact hw
  exact hkept w' h

end Loop

/-! ## Reaching the setup function -/

/-- `do_run_test_case` calls the setup function in a state. -/
structure ReachesSetup (ctx : CaseContext ω) (table : ConfigFunctions τ ω) (types : List τ)
    (w w₀ : ω) : Prop where
  action : ctx.action w = .run
  supported : (doRunTestConfig ConfigItem.support (types.map table.item) (some w)).1 = true
  enabled : doRunTestConfig ConfigItem.enable (types.map table.item)
    (doRunTestConfig ConfigItem.support (types.map table.item) (some w)).2 = (true, some w₀)

section Reached

variable {ctx : CaseContext ω} {table : ConfigFunctions τ ω} {types : List τ} {w w₀ : ω}

theorem ReachesSetup.implemented (h : ReachesSetup ctx table types w w₀) :
    ∀ type ∈ types, table.implemented type = true :=
  implemented_of_succeeds table table.support (fun _ => rfl) h.supported

theorem ReachesSetup.configLoop_enable (h : ReachesSetup ctx table types w w₀) :
    configLoop table.enable types (configLoop table.support types w).2 = (true, w₀) := by
  have henabled := h.enabled
  rw [doRunTestConfig_implemented table table.support (fun _ => rfl) h.implemented,
    doRunTestConfig_implemented table table.enable (fun _ => rfl) h.implemented,
    Prod.mk.injEq, Option.some.injEq] at henabled
  exact Prod.ext henabled.1 henabled.2

/-- What the configurations keep before the setup function. -/
theorem ReachesSetup.invariant {P : ω → Prop} (h : ReachesSetup ctx table types w w₀)
    (hsupport : ∀ type w, P w → P (table.support type w).2)
    (henable : ∀ type w, P w → P (table.enable type w).2) (hw : P w) : P w₀ := by
  have hkept := configLoop_invariant henable types (configLoop_invariant hsupport types hw)
  rwa [h.configLoop_enable] at hkept

/-- The check of the configuration after a case, when it asks for one. -/
def checked (table : ConfigFunctions τ ω) (types : List τ) (case : CaseFunctions ω) (w : ω) : ω :=
  if case.configCheckRequired then (configLoop table.check types w).2 else w

/-- The state after the configurations are disabled. -/
def disabled (table : ConfigFunctions τ ω) (types : List τ) (w : ω) : ω :=
  (configLoop table.disable types w).2

/-- A case from its setup function on. -/
def fromSetup (ctx : CaseContext ω) (table : ConfigFunctions τ ω) (types : List τ)
    (case : CaseFunctions ω) (w : ω) : Option ω :=
  match case.setup w with
  | none => none
  | some (false, w) => (case.teardown (ctx.setAction .skip w)).map (disabled table types)
  | some (true, w) =>
    ((case.run w).bind fun w => case.teardown (checked table types case w)).map
      (disabled table types)

/-- How a case ends that returns. -/
theorem fromSetup_eq_some_iff {case : CaseFunctions ω} {w' : ω} :
    fromSetup ctx table types case w = some w' ↔
      (∃ w₁ w₂, case.setup w = some (false, w₁) ∧
        case.teardown (ctx.setAction .skip w₁) = some w₂ ∧ disabled table types w₂ = w') ∨
      ∃ w₁ w₂ w₃, case.setup w = some (true, w₁) ∧ case.run w₁ = some w₂ ∧
        case.teardown (checked table types case w₂) = some w₃ ∧ disabled table types w₃ = w' := by
  rw [fromSetup]
  rcases case.setup w with _ | ⟨_ | _, w₁⟩
  · simp
  · simp [Option.map_eq_some_iff]
  · simp [Option.map_eq_some_iff, Option.bind_eq_some_iff]

theorem checked_invariant {P : ω → Prop} {case : CaseFunctions ω}
    (hcheck : ∀ type w, P w → P (table.check type w).2) (hw : P w) :
    P (checked table types case w) := by
  rw [checked]
  split
  · exact configLoop_invariant hcheck types hw
  · exact hw

theorem disabled_invariant {P : ω → Prop} (hdisable : ∀ type w, P w → P (table.disable type w).2)
    (hw : P w) : P (disabled table types w) :=
  configLoop_invariant hdisable types hw

theorem runCheck_eq (case : CaseFunctions ω)
    (h : ∀ type ∈ types, table.implemented type = true) (s : Option ω) :
    runCheck case.testCase (types.map table.item) s = s.map (checked table types case) := by
  cases hrequired : case.configCheckRequired with
  | false =>
      have hid : checked table types case = id := by
        funext w
        simp [checked, hrequired]
      simp [runCheck, CaseFunctions.testCase, hrequired, hid]
  | true =>
      simp only [runCheck, CaseFunctions.testCase, hrequired, if_true]
      cases s with
      | none =>
          exact congrArg Prod.snd
            (doRunTestConfig_stopped table table.check (fun _ => rfl) types)
      | some w =>
          rw [Option.map_some, checked, if_pos hrequired]
          exact congrArg Prod.snd
            (doRunTestConfig_implemented table table.check (fun _ => rfl) h w)

/-- The action is not changed before the run function, but where the setup function fails. -/
structure KeepsAction (ctx : CaseContext ω) (table : ConfigFunctions τ ω)
    (case : CaseFunctions ω) : Prop where
  support : ∀ type w, ctx.action (table.support type w).2 = ctx.action w
  enable : ∀ type w, ctx.action (table.enable type w).2 = ctx.action w
  setup : ∀ w w', case.setup w = some (true, w') → ctx.action w' = ctx.action w

theorem doRun_eq {case : CaseFunctions ω} (hkeeps : KeepsAction ctx table case)
    (h : ReachesSetup ctx table types w w₀) :
    case.doRun ctx table types w = fromSetup ctx table types case w₀ := by
  have haction : ctx.stopping.action (some w) ≠ .skip := by
    change ctx.action w ≠ .skip
    rw [h.action]
    decide
  have haction₀ : ctx.action w₀ = .run :=
    h.invariant (P := fun w => ctx.action w = .run)
      (fun type w hw => (hkeeps.support type w).trans hw)
      (fun type w hw => (hkeeps.enable type w).trans hw) h.action
  have hdisable : ∀ w, (doRunTestConfig ConfigItem.disable (types.map table.item) (some w)).2 =
      some (disabled table types w) := fun w =>
    congrArg Prod.snd
      (doRunTestConfig_implemented table table.disable (fun _ => rfl) h.implemented w)
  have hstop : (doRunTestConfig ConfigItem.disable (types.map table.item) none).2 = none :=
    congrArg Prod.snd (doRunTestConfig_stopped table table.disable (fun _ => rfl) types)
  have hfinish : ∀ s : Option ω,
      (doRunTestConfig ConfigItem.disable (types.map table.item) s).2 =
        s.map (disabled table types) := by
    intro s
    cases s with
    | none => exact hstop
    | some w => exact hdisable w
  rw [CaseFunctions.doRun, doRunTestCase_eq, if_neg haction]
  simp only [h.supported, h.enabled, Bool.true_eq_false, if_false]
  rw [fromSetup]
  rcases hsetup : case.setup w₀ with _ | ⟨ret, w₁⟩
  · have hrun : runSetup ctx.stopping case.testCase (some w₀) = (false, none) := by
      simp [runSetup, CaseFunctions.testCase, running, hsetup, CaseContext.stopping]
    simp only [caseBody, hrun, true_or, if_true, Option.map_some]
    exact hstop
  · cases ret with
    | false =>
        have hrun : runSetup ctx.stopping case.testCase (some w₀) =
            (false, some (ctx.setAction .skip w₁)) := by
          simp [runSetup, CaseFunctions.testCase, running, hsetup, CaseContext.stopping]
        simp only [caseBody, hrun, true_or, if_true, Option.map_some]
        exact hfinish (case.teardown (ctx.setAction .skip w₁))
    | true =>
        have hrun : runSetup ctx.stopping case.testCase (some w₀) = (true, some w₁) := by
          simp [runSetup, CaseFunctions.testCase, running, hsetup]
        have haction₁ : ctx.stopping.action (some w₁) ≠ .skip := by
          change ctx.action w₁ ≠ .skip
          rw [hkeeps.setup w₀ w₁ hsetup, haction₀]
          decide
        have hran : runRun case.testCase (some w₁) = some (case.run w₁) := rfl
        simp only [caseBody, hrun, haction₁, Bool.true_eq_false, or_self, if_false, runAndCheck,
          hran, Option.map_some, runCheck_eq case h.implemented]
        rw [hfinish]
        change Option.map _ (((case.run w₁).map (checked table types case)).bind case.teardown) = _
        rw [Option.bind_map]
        rfl

/-- What the configurations keep, a run keeps that does not come to its setup function. -/
theorem doRun_not_reached {case : CaseFunctions ω} {P : ω → Prop} {w' : ω}
    (hsupport : ∀ type w, P w → P (table.support type w).2)
    (henable : ∀ type w, P w → P (table.enable type w).2) (hw : P w)
    (h : ∀ w₀, ¬ReachesSetup ctx table types w w₀)
    (hrun : case.doRun ctx table types w = some w') : P w' := by
  have hdo : ∃ ret, doRunTestCase ctx.stopping case.testCase (types.map table.item) (some w) =
      some (ret, some w') := by
    rw [CaseFunctions.doRun] at hrun
    split at hrun
    · cases hrun
    · rename_i ret s heq
      exact ⟨ret, hrun ▸ heq⟩
  rcases hdo with ⟨ret, hrun⟩
  rw [doRunTestCase_eq] at hrun
  split at hrun
  · cases hrun
    exact hw
  · rename_i hskip
    have haction : ctx.action w = .run := by
      cases haction : ctx.action w with
      | run => rfl
      | skip => exact absurd haction hskip
    simp only at hrun
    split at hrun
    · rw [Option.some.injEq, Prod.mk.injEq] at hrun
      exact doRunTestConfig_invariant table table.support (fun _ => rfl) hsupport hw hrun.2
    · rename_i hsupported
      rw [Bool.not_eq_false] at hsupported
      have hall := implemented_of_succeeds table table.support (fun _ => rfl) hsupported
      have heq : doRunTestConfig ConfigItem.support (types.map table.item) (some w) = _ :=
        doRunTestConfig_implemented table table.support (fun _ => rfl) hall w
      have heq' : doRunTestConfig ConfigItem.enable (types.map table.item)
          (some (configLoop table.support types w).2) = _ :=
        doRunTestConfig_implemented table table.enable (fun _ => rfl) hall _
      rw [heq, heq'] at hrun
      split at hrun
      · rw [Option.some.injEq, Prod.mk.injEq, Option.some.injEq] at hrun
        rw [← hrun.2]
        exact configLoop_invariant henable types (configLoop_invariant hsupport types hw)
      · rename_i henabled
        rw [Bool.not_eq_false] at henabled
        refine absurd ⟨haction, hsupported, ?_⟩
          (h (configLoop table.enable types (configLoop table.support types w).2).2)
        rw [heq, heq', henabled]

/-- The run function of a case begins in a state. -/
structure RunBegins (ctx : CaseContext ω) (table : ConfigFunctions τ ω) (types : List τ)
    (case : CaseFunctions ω) (w w₁ : ω) : Prop where
  reaches : ∃ w₀, ReachesSetup ctx table types w w₀ ∧ case.setup w₀ = some (true, w₁)

theorem RunBegins.unique {case : CaseFunctions ω} {w₁ w₁' : ω}
    (h : RunBegins ctx table types case w w₁) (h' : RunBegins ctx table types case w w₁') :
    w₁ = w₁' := by
  rcases h.reaches with ⟨w₀, hreaches, hsetup⟩
  rcases h'.reaches with ⟨w₀', hreaches', hsetup'⟩
  have hstart := hreaches.enabled.symm.trans hreaches'.enabled
  rw [Prod.mk.injEq, Option.some.injEq] at hstart
  rw [← hstart.2, hsetup, Option.some.injEq, Prod.mk.injEq] at hsetup'
  exact hsetup'.2

/-- Nothing but the run function changes what a relation speaks of. -/
structure Outside (R : ω → ω → Prop) (ctx : CaseContext ω) (table : ConfigFunctions τ ω)
    (case : CaseFunctions ω) : Prop where
  refl : ∀ w, R w w
  trans : ∀ {w w' w''}, R w w' → R w' w'' → R w w''
  support : ∀ type w, R w (table.support type w).2
  enable : ∀ type w, R w (table.enable type w).2
  check : ∀ type w, R w (table.check type w).2
  disable : ∀ type w, R w (table.disable type w).2
  setup : ∀ {w ret w'}, case.setup w = some (ret, w') → R w w'
  skip : ∀ w, R w (ctx.setAction .skip w)
  teardown : ∀ {w w'}, case.teardown w = some w' → R w w'

section Outside

variable {case : CaseFunctions ω} {R : ω → ω → Prop} (hR : Outside R ctx table case)

include hR

theorem Outside.reaches (h : ReachesSetup ctx table types w w₀) : R w w₀ :=
  h.invariant (fun type w' hw' => hR.trans hw' (hR.support type w'))
    (fun type w' hw' => hR.trans hw' (hR.enable type w')) (hR.refl w)

theorem Outside.begins {w₁ : ω} (h : RunBegins ctx table types case w w₁) : R w w₁ := by
  rcases h.reaches with ⟨w₀, hreaches, hsetup⟩
  exact hR.trans (hR.reaches hreaches) (hR.setup hsetup)

theorem Outside.disabled (types : List τ) (w : ω) : R w (disabled table types w) :=
  disabled_invariant (fun type w' hw' => hR.trans hw' (hR.disable type w')) (hR.refl w)

theorem Outside.checked (w : ω) : R w (checked table types case w) :=
  checked_invariant (fun type w' hw' => hR.trans hw' (hR.check type w')) (hR.refl w)

theorem Outside.ends {w₂ w₃ : ω}
    (h : case.teardown (Runner.checked table types case w₂) = some w₃) :
    R w₂ (Runner.disabled table types w₃) :=
  hR.trans (hR.checked w₂) (hR.trans (hR.teardown h) (hR.disabled types w₃))

variable (hkeeps : KeepsAction ctx table case)

include hkeeps

/-- A run that returns has had its run function called, or nothing has changed. -/
theorem Outside.doRun_cases {w' : ω} (h : case.doRun ctx table types w = some w') :
    R w w' ∨ ∃ w₁ w₂, RunBegins ctx table types case w w₁ ∧ case.run w₁ = some w₂ ∧ R w₂ w' := by
  by_cases hreaches : ∃ w₀, ReachesSetup ctx table types w w₀
  · rcases hreaches with ⟨w₀, hreaches⟩
    rw [doRun_eq hkeeps hreaches] at h
    rcases fromSetup_eq_some_iff.mp h with ⟨w₁, w₂, hsetup, hteardown, rfl⟩ |
      ⟨w₁, w₂, w₃, hsetup, hrun, hteardown, rfl⟩
    · have hfailed := hR.trans (hR.reaches hreaches) (hR.setup hsetup)
      have hdone := hR.trans (hR.skip w₁) (hR.trans (hR.teardown hteardown) (hR.disabled types w₂))
      exact Or.inl (hR.trans hfailed hdone)
    · exact Or.inr ⟨w₁, w₂, ⟨w₀, hreaches, hsetup⟩, hrun, hR.ends hteardown⟩
  · have hnot : ∀ w₀, ¬ReachesSetup ctx table types w w₀ := fun w₀ h => hreaches ⟨w₀, h⟩
    exact Or.inl (doRun_not_reached (fun type w' hw' => hR.trans hw' (hR.support type w'))
      (fun type w' hw' => hR.trans hw' (hR.enable type w')) (hR.refl w) hnot h)

/-- A run returns when its run function and its teardown function do. -/
theorem Outside.doRun_returns {w₁ w₂ : ω} (h : RunBegins ctx table types case w w₁)
    (hrun : case.run w₁ = some w₂)
    (hteardown : (case.teardown (Runner.checked table types case w₂)).isSome = true) :
    ∃ w', case.doRun ctx table types w = some w' ∧ R w₂ w' := by
  rcases h.reaches with ⟨w₀, hreaches, hsetup⟩
  rcases Option.isSome_iff_exists.mp hteardown with ⟨w₃, hteardown⟩
  refine ⟨_, ?_, hR.ends hteardown⟩
  rw [doRun_eq hkeeps hreaches]
  exact fromSetup_eq_some_iff.mpr (Or.inr ⟨w₁, w₂, w₃, hsetup, hrun, hteardown, rfl⟩)

end Outside

end Reached

end TeeIoValidator.Runner
