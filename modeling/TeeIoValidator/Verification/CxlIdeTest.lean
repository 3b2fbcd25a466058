import TeeIoValidator.Model.CxlIdeTest
import TeeIoValidator.Verification.CxlIde
import TeeIoValidator.Verification.Stopping

/-! # Whether the CXL key refresh case passes only with completed refreshes

A port query that fails ends the refreshes without a failure.
-/

namespace TeeIoValidator.CxlIdeTest

open CxlIde Runner

variable {lib : CxlIdeKmLib} {env : Environment}

/-! ## What lies outside the run function -/

/-- What a step leaves of the case as it is. -/
structure SameCase (w w' : World) : Prop where
  assertions : w'.assertions = w.assertions
  action : w'.action = w.action
  refreshes : w'.refreshes = w.refreshes

/-- What the case is reported with. -/
structure SameReport (w w' : World) : Prop where
  assertions : w'.assertions = w.assertions
  refreshes : w'.refreshes = w.refreshes

theorem SameCase.report {w w' : World} (h : SameCase w w') : SameReport w w' :=
  ⟨h.assertions, h.refreshes⟩

theorem SameCase.refl (w : World) : SameCase w w := ⟨rfl, rfl, rfl⟩

theorem SameCase.trans {w w' w'' : World} (h : SameCase w w') (h' : SameCase w' w'') :
    SameCase w w'' where
  assertions := h'.assertions.trans h.assertions
  action := h'.action.trans h.action
  refreshes := h'.refreshes.trans h.refreshes

theorem cxlIdeQueryPortIndex_sameCase {w w' : World} {ret : Bool}
    (h : cxlIdeQueryPortIndex env w = some (ret, w')) : SameCase w w' := by
  rw [cxlIdeQueryPortIndex] at h
  split at h
  · cases h
  · split at h
    · cases h
      exact ⟨rfl, rfl, rfl⟩
    · split at h
      · cases h
      · cases h
        exact ⟨rfl, rfl, rfl⟩
      · cases h
        exact ⟨rfl, rfl, rfl⟩

theorem setupIdeStream_sameCase {keyRefresh ret : Bool} {w w' : World}
    (h : setupIdeStream lib env keyRefresh w = some (ret, w')) : SameCase w w' := by
  rw [setupIdeStream] at h
  split at h
  · cases h
    exact ⟨rfl, rfl, rfl⟩
  · split at h
    · cases h
      exact ⟨rfl, rfl, rfl⟩
    · cases h

theorem setup_sameCase {w w' : World} {ret : Bool}
    (h : cxlIdeTestKeyrefreshSetup lib env w = some (ret, w')) : SameCase w w' := by
  rw [cxlIdeTestKeyrefreshSetup] at h
  split at h
  · cases h
  · rename_i hquery
    cases h
    exact cxlIdeQueryPortIndex_sameCase hquery
  · rename_i hquery
    exact (cxlIdeQueryPortIndex_sameCase hquery).trans (setupIdeStream_sameCase h)

theorem teardown_sameCase (w : World) : SameCase w (cxlTeardownIdeStream lib env w).2 := by
  have hstop : SameCase w (cxlStopIdeStream lib env w).2 := by
    rw [cxlStopIdeStream, cxlIdeKmKeySetStop]
    split <;> rename_i heq <;> rw [Prod.mk.injEq] at heq <;> rcases heq with ⟨-, rfl⟩ <;>
      exact ⟨rfl, rfl, rfl⟩
  have hstopped : SameCase w
      (if kSetStopCapable env.devCaps then cxlStopIdeStream lib env w else (true, w)).2 := by
    split
    · exact hstop
    · exact SameCase.refl w
  rw [cxlTeardownIdeStream]
  split <;> rename_i heq <;> rw [heq] at hstopped
  · exact hstopped
  · exact ⟨hstopped.assertions, hstopped.action, hstopped.refreshes⟩

theorem setCxlIdePcrcDisable_sameCase (set : Bool) (w : World) :
    SameCase w (setCxlIdePcrcDisable set w).2 := by
  rw [setCxlIdePcrcDisable]
  split
  · exact SameCase.refl w
  · simp only
    split <;> exact ⟨rfl, rfl, rfl⟩

theorem support_snd (type : ConfigurationType) (w : World) :
    ((configFunctions env).support type w).2 = w := by
  cases type <;> rfl

theorem enable_sameCase (type : ConfigurationType) (w : World) :
    SameCase w ((configFunctions env).enable type w).2 := by
  cases type with
  | pcrcDisable => exact setCxlIdePcrcDisable_sameCase true w
  | _ => exact SameCase.refl w

theorem disable_sameCase (type : ConfigurationType) (w : World) :
    SameCase w ((configFunctions env).disable type w).2 := by
  cases type with
  | pcrcDisable => exact setCxlIdePcrcDisable_sameCase false w
  | _ => exact SameCase.refl w

/-! ## The loop -/

/-- Every port query of a refresh that is reached, those before having been completed, finds
the port. -/
def QueriesHold (lib : CxlIdeKmLib) (env : Environment) : List Bool → World → Prop
  | [], _ => True
  | true :: _, _ => True
  | false :: typed, w => ∀ found w₁, cxlIdeQueryPortIndex env w = some (found, w₁) →
    found = true ∧ ∀ w₂, setupIdeStream lib env true w₁ = some (true, w₂) →
      QueriesHold lib env typed { w₂ with refreshes := w₂.refreshes ++ [true] }

/-- How the loop ends: whether it succeeds, and the refreshes that were started. -/
structure Refreshed (w : World) (res : Bool) (w' : World) (log : List Bool) : Prop where
  assertions : w'.assertions = w.assertions
  refreshes : w'.refreshes = w.refreshes ++ log

/-- A refresh is started and the loop goes on. -/
theorem Refreshed.cons {w w₁ w' : World} {res : Bool} {log : List Bool} (h : SameCase w w₁)
    (hrest : Refreshed { w₁ with refreshes := w₁.refreshes ++ [true] } res w' log) :
    Refreshed w res w' (true :: log) where
  assertions := hrest.assertions.trans h.assertions
  refreshes := by
    rw [hrest.refreshes, h.refreshes, List.append_assoc, List.singleton_append]

/-- The loop succeeds with all refreshes completed if the queries hold, and else with the last
one not completed. -/
theorem keyrefreshLoop_refreshed {typed : List Bool} {w w' : World} {res : Bool}
    (h : keyrefreshLoop lib env typed w = some (res, w')) :
    ∃ log, Refreshed w res w' log ∧ (QueriesHold lib env typed w → res = true → false ∉ log) ∧
      (¬QueriesHold lib env typed w → res = true ∧ false ∈ log) := by
  induction typed generalizing w with
  | nil => cases h
  | cons quit typed ih =>
      cases quit with
      | true =>
          cases h
          exact ⟨[], ⟨rfl, (List.append_nil _).symm⟩, by simp, fun h => absurd trivial h⟩
      | false =>
          rw [keyrefreshLoop] at h
          rcases hquery : cxlIdeQueryPortIndex env w with _ | ⟨found, w₁⟩
          · rw [hquery] at h
            cases h
          · rw [hquery] at h
            have hsame := cxlIdeQueryPortIndex_sameCase hquery
            have hholds : QueriesHold lib env (false :: typed) w ↔ found = true ∧
                ∀ w₂, setupIdeStream lib env true w₁ = some (true, w₂) →
                  QueriesHold lib env typed { w₂ with refreshes := w₂.refreshes ++ [true] } := by
              simp [QueriesHold, hquery]
            cases found with
            | false =>
                cases h
                refine ⟨[false], ⟨hsame.assertions, congrArg (· ++ [false]) hsame.refreshes⟩,
                  ?_, by simp⟩
                rw [hholds]
                rintro ⟨hfound, -⟩
                cases hfound
            | true =>
                simp only at h
                rcases hsetup : setupIdeStream lib env true w₁ with _ | ⟨_ | _, w₂⟩
                · rw [hsetup] at h
                  cases h
                · rw [hsetup] at h
                  cases h
                  have hsame₂ := hsame.trans (setupIdeStream_sameCase hsetup)
                  refine ⟨[false],
                    ⟨hsame₂.assertions, congrArg (· ++ [false]) hsame₂.refreshes⟩, nofun, ?_⟩
                  rw [hholds]
                  simp [hsetup]
                · rw [hsetup] at h
                  rcases ih h with ⟨log, hrefreshed, hholds', hfails'⟩
                  have hrest : QueriesHold lib env (false :: typed) w ↔
                      QueriesHold lib env typed
                        { w₂ with refreshes := w₂.refreshes ++ [true] } := by
                    rw [hholds]
                    simp [hsetup]
                  refine ⟨true :: log, hrefreshed.cons
                    (hsame.trans (setupIdeStream_sameCase hsetup)), ?_, ?_⟩
                  · rw [hrest]
                    intro hq hres
                    simpa using hholds' hq hres
                  · rw [hrest]
                    intro hq
                    simpa using hfails' hq

/-- The loop returns when a query fails. -/
theorem keyrefreshLoop_returns {typed : List Bool} {w : World}
    (h : ¬QueriesHold lib env typed w) : (keyrefreshLoop lib env typed w).isSome = true := by
  induction typed generalizing w with
  | nil => exact absurd trivial h
  | cons quit typed ih =>
      cases quit with
      | true => rfl
      | false =>
          rw [keyrefreshLoop]
          rcases hquery : cxlIdeQueryPortIndex env w with _ | ⟨_ | _, w₁⟩
          · exact absurd (fun _ _ heq => by rw [hquery] at heq; cases heq) h
          · rfl
          · simp only
            rcases hsetup : setupIdeStream lib env true w₁ with _ | ⟨_ | _, w₂⟩
            · exact absurd (by simp [QueriesHold, hquery, hsetup]) h
            · rfl
            · refine ih fun hrest => h ?_
              simpa [QueriesHold, hquery, hsetup] using hrest

/-! ## The case -/

/-- A run that is reported as passed has completed every refresh that it started. -/
def PassesRefreshed (lib : CxlIdeKmLib) (env : Environment) (configs : List ConfigurationType)
    (w : World) : Prop :=
  ∀ w', doRunKeyrefresh lib env configs w = some w' → w'.result = .pass →
    false ∉ w'.refreshes.drop w.refreshes.length

theorem outside_sameReport :
    Outside SameReport caseContext (configFunctions env) (keyrefresh lib env) where
  refl w := ⟨rfl, rfl⟩
  trans h h' := ⟨h'.assertions.trans h.assertions, h'.refreshes.trans h.refreshes⟩
  support type w := by
    rw [support_snd]
    exact ⟨rfl, rfl⟩
  enable type w := (enable_sameCase type w).report
  check _ _ := ⟨rfl, rfl⟩
  disable type w := (disable_sameCase type w).report
  setup h := (setup_sameCase h).report
  skip _ := ⟨rfl, rfl⟩
  teardown h := by
    cases h
    exact (teardown_sameCase _).report

theorem keepsAction : KeepsAction caseContext (configFunctions env) (keyrefresh lib env) where
  support type w := congrArg World.action (support_snd type w)
  enable type w := (enable_sameCase type w).action
  setup _ _ h := (setup_sameCase h).action

/-- The one assertion of the case. -/
theorem cxlIdeTestKeyrefreshRun_eq_some {w w' : World}
    (h : cxlIdeTestKeyrefreshRun lib env w = some w') (hw : w.assertions = []) :
    ∃ res w₂, keyrefreshLoop lib env env.typed w = some (res, w₂) ∧
      w'.refreshes = w₂.refreshes ∧ (w'.result = .pass ↔ res = true) := by
  rw [cxlIdeTestKeyrefreshRun] at h
  split at h
  · cases h
  · rename_i res w₂ hloop
    cases h
    rcases keyrefreshLoop_refreshed hloop with ⟨log, hrefreshed, -, -⟩
    refine ⟨res, w₂, hloop, rfl, ?_⟩
    rw [World.result, hrefreshed.assertions, hw]
    cases res <;> simp [testCaseResult, Assertion.check, TestResult.ofBool]

/-- The case passes with completed refreshes only, exactly when the port queries of its
refreshes hold. -/
theorem passesRefreshed_iff {configs : List ConfigurationType} {w : World}
    (hw : w.assertions = []) :
    PassesRefreshed lib env configs w ↔
      ∀ w₁, RunBegins caseContext (configFunctions env) configs (keyrefresh lib env) w w₁ →
        QueriesHold lib env env.typed w₁ := by
  refine ⟨?_, ?_⟩
  · intro hpasses w₁ hbegins
    have hsame := outside_sameReport.begins hbegins
    by_contra hfails
    rcases Option.isSome_iff_exists.mp (keyrefreshLoop_returns hfails) with ⟨⟨res, w₂⟩, hloop⟩
    rcases keyrefreshLoop_refreshed hloop with ⟨log, hrefreshed, -, hlog⟩
    have hran : ∃ w₃, cxlIdeTestKeyrefreshRun lib env w₁ = some w₃ := by
      rw [cxlIdeTestKeyrefreshRun, hloop]
      exact ⟨_, rfl⟩
    rcases hran with ⟨w₃, hran⟩
    rcases cxlIdeTestKeyrefreshRun_eq_some hran (hsame.assertions.trans hw) with
      ⟨res', w₂', hloop', hrefreshes, hresult⟩
    rw [hloop, Option.some.injEq, Prod.mk.injEq] at hloop'
    rcases hloop' with ⟨rfl, rfl⟩
    rcases outside_sameReport.doRun_returns keepsAction hbegins hran rfl with ⟨w', hrun, hends⟩
    refine hpasses w' hrun ?_ ?_
    · rw [World.result, hends.assertions]
      exact hresult.mpr (hlog hfails).1
    · rw [hends.refreshes, hrefreshes, hrefreshed.refreshes, hsame.refreshes, List.drop_left]
      exact (hlog hfails).2
  · intro hholds w' hrun hpass
    rcases outside_sameReport.doRun_cases keepsAction hrun with hsame |
      ⟨w₁, w₂, hbegins, hran, hends⟩
    · rw [World.result, hsame.assertions, hw] at hpass
      cases hpass
    · have hsame := outside_sameReport.begins hbegins
      rcases cxlIdeTestKeyrefreshRun_eq_some hran (hsame.assertions.trans hw) with
        ⟨res, w₃, hloop, hrefreshes, hresult⟩
      rcases keyrefreshLoop_refreshed hloop with ⟨log, hrefreshed, hlog, -⟩
      have hres : res = true := by
        rw [← hresult, World.result, ← hends.assertions]
        exact hpass
      rw [hends.refreshes, hrefreshes, hrefreshed.refreshes, hsame.refreshes, List.drop_left]
      exact hlog (hholds w₁ hbegins) hres

end TeeIoValidator.CxlIdeTest
