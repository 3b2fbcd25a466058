import TeeIoValidator.Verification.TestData.Run

/-! A whole run follows no pointer wrongly and frees each block of the test data once, but
those of the switch connections. -/

namespace TeeIoValidator.TestData

open Ownership

variable {ω : Type} {R X : Set ℕ} {h : TestHeap} {g : Globals ω}

/-! ## The reports -/

/-- The program changes nothing. -/
def Reads (m : HeapM ω Unit) (h : TestHeap) (g : Globals ω) : Prop :=
  Runs False m h g fun _ h' g' => h' = h ∧ g' = g

theorem Reads.bind {m m' : HeapM ω Unit} (hm : Reads m h g) (hm' : Reads m' h g) :
    Reads (do m; m') h g :=
  Runs.bind hm fun _ h' g' heq => by
    obtain ⟨rfl, rfl⟩ := heq
    exact hm'

theorem reads_forEach (hb : Built R X h) {k : Kind} (hnext : owns k .next = some k)
    {body : ℕ → HeapM ω Unit} (hbody : ∀ a, h.Is k a → Reads (body a) h g) {fuel : ℕ}
    {p : Option ℕ} (hp : ∀ a, p = some a → h.Is k a ∧ h.next ≤ a + fuel) :
    Reads (forEach k body fuel p) h g := by
  induction fuel generalizing p with
  | zero =>
      cases p with
      | none => exact Runs.pure ⟨rfl, rfl⟩
      | some a =>
          obtain ⟨ha, hle⟩ := hp a rfl
          exact absurd (hb.forest.lt_next ha.live) (Nat.not_lt.mpr hle)
  | succ fuel ih =>
      cases p with
      | none => exact Runs.pure ⟨rfl, rfl⟩
      | some a =>
          obtain ⟨ha, hfuel⟩ := hp a rfl
          refine Runs.bind (hbody a ha) ?_
          rintro - h' g' ⟨rfl, rfl⟩
          obtain ⟨b, hblock, hkind⟩ := ha
          refine Runs.bind_getLink hblock hkind (ih fun x hx => ?_)
          obtain ⟨hlt, hk⟩ := hb.link hblock hkind hx hnext
          exact ⟨hk, by omega⟩

/-- A list that a field of a block points to. -/
theorem reads_forEach_link (hb : Built R X h) {k kp : Kind} {f : Field} {a : ℕ}
    {b : Block Kind Field Data} (hblock : h.block a = some b) (hkind : b.kind = kp)
    (howns : owns kp f = some k) (hnext : owns k .next = some k) {body : ℕ → HeapM ω Unit}
    (hbody : ∀ a, h.Is k a → Reads (body a) h g) :
    Reads (do forEach k body (← bound) (b.links f)) h g :=
  Runs.bind_bound (reads_forEach hb hnext hbody fun _ hx =>
    ⟨(hb.link hblock hkind hx howns).2, Nat.le_add_left ..⟩)

section Reports

variable (hb : Built R ∅ h) (detail : Bool)

include hb

theorem reads_printCaseResult {a : ℕ} (ha : h.Is .caseResult a) :
    Reads (printCaseResult detail a : HeapM ω Unit) h g := by
  obtain ⟨b, hblock, hkind⟩ := ha
  refine Runs.bind_deref hblock hkind ?_
  cases detail with
  | false => exact Runs.pure ⟨rfl, rfl⟩
  | true =>
      exact reads_forEach_link (f := .assertionResult) hb hblock hkind rfl rfl
        fun _ _ => Runs.pure ⟨rfl, rfl⟩

theorem reads_printGroupResult {a : ℕ} (ha : h.Is .groupResult a) :
    Reads (printGroupResult detail a : HeapM ω Unit) h g := by
  obtain ⟨b, q, hblock, hkind, hq, -, c, hc, hckind⟩ :=
    hb.needed (f := .caseResult) ha rfl (Set.notMem_empty a) rfl
  refine Runs.bind_getLink hblock hkind ?_
  rw [hq]
  refine Runs.bind_deref hc hckind ?_
  rw [← hq]
  exact reads_forEach_link hb hblock hkind rfl rfl fun _ hx => reads_printCaseResult hb detail hx

theorem reads_printConfigResult {a : ℕ} (ha : h.Is .configResult a) :
    Reads (printConfigResult detail a : HeapM ω Unit) h g := by
  obtain ⟨b, hblock, hkind⟩ := ha
  exact Runs.bind_getLink hblock hkind (reads_forEach_link hb hblock hkind rfl rfl
    fun _ hx => reads_printGroupResult hb detail hx)

theorem reads_printSuite {a : ℕ} (ha : h.Is .runTestSuite a) :
    Reads (printSuite detail a : HeapM ω Unit) h g := by
  obtain ⟨b, q, hblock, hkind, hq, -, c, hc, hckind⟩ :=
    hb.needed (f := .testContext) ha rfl (Set.notMem_empty a) rfl
  have hstatics : Reads (testSuiteCasesStatics a : HeapM ω Unit) h g := by
    refine Runs.bind_getLink hblock hkind ?_
    rw [hq]
    exact Runs.bind_getLink hc hckind (reads_forEach_link hb hc hckind rfl rfl
      fun _ _ => Runs.pure ⟨rfl, rfl⟩)
  refine Runs.bind_getLink hblock hkind ?_
  rw [hq]
  refine Runs.bind_deref hc hckind (hstatics.bind ?_)
  exact Runs.bind_getLink hc hckind (reads_forEach_link hb hc hckind rfl rfl
    fun _ hx => reads_printConfigResult hb detail hx)

theorem reads_printTestResults {p : Option ℕ} (hp : ∀ a, p = some a → h.Is .runTestSuite a) :
    Reads (printTestResults detail p : HeapM ω Unit) h g :=
  Runs.bind_bound (reads_forEach hb rfl (fun _ ha => reads_printSuite hb detail ha)
    fun a ha => ⟨hp a ha, Nat.le_add_left ..⟩)

end Reports

/-! ## Cleaning -/

/-- All fields are cleaned but those that lead to the switch connections. -/
def Cleaned (k : Kind) (f : Field) : Prop :=
  ∃ k', owns k f = some k' ∧ k' ≠ .switchInternalConnContext

section Clean

attribute [local simp] Cleaned owns

variable {G : TestHeap} (hf : Forest owns R G)

include hf

theorem cleans_freeContext {k : Kind} (hk : ∀ f, ¬Cleaned k f) :
    Cleans G Cleaned k (freeContext k : Option ℕ → HeapM ω Unit) :=
  hf.cleans_block ⟨fun f => by simpa using hk f, by simp, by simp⟩

/-- The cleaners of the fields of a kind. -/
theorem cleans_cleanAll {k : Kind} (hnext : owns k .next = some k)
    {cleaners : List (Field × (Option ℕ → HeapM ω Unit))}
    (hkind : CleansKind owns G Cleaned k [.next] cleaners) :
    Cleans G Cleaned k (cleanAll k cleaners) :=
  hf.cleans_list hnext hkind

omit hf in
theorem cleansLink {k k' : Kind} {f : Field} (howns : owns k f = some k')
    (hne : k' ≠ .switchInternalConnContext) {clean : Option ℕ → HeapM ω Unit}
    (hclean : Cleans G Cleaned k' clean) : CleansLink owns G Cleaned k (f, clean) :=
  ⟨⟨k', howns, hne⟩, k', howns, hclean⟩

theorem cleans_cleanTestCases :
    Cleans G Cleaned .runTestCase (cleanTestCases : Option ℕ → HeapM ω Unit) := by
  have hcontext := cleans_freeContext (ω := ω) hf (k := .caseContext) (by simp)
  refine cleans_cleanAll hf rfl ⟨fun f => ?_, ?_, by simp⟩
  · cases f <;> simp
  · simpa using cleansLink rfl (by decide) hcontext

theorem cleans_cleanTestGroups :
    Cleans G Cleaned .runTestGroup (cleanTestGroups : Option ℕ → HeapM ω Unit) := by
  have hcontext := cleans_freeContext (ω := ω) hf (k := .groupContext) fun f => by
    cases f <;> simp
  refine cleans_cleanAll hf rfl ⟨fun f => ?_, ?_, by simp⟩
  · cases f <;> simp
  · simpa using And.intro (cleansLink rfl (by decide) (cleans_cleanTestCases hf))
      (cleansLink rfl (by decide) hcontext)

theorem cleans_cleanTestConfigs :
    Cleans G Cleaned .runTestConfig (cleanTestConfigs : Option ℕ → HeapM ω Unit) := by
  have hcontext := cleans_freeContext (ω := ω) hf (k := .configContext)
    (by simp)
  have hitems : Cleans G Cleaned .runTestConfigItem
      (cleanTestConfigItems : Option ℕ → HeapM ω Unit) := by
    refine cleans_cleanAll hf rfl ⟨fun f => ?_, by simp, by simp⟩
    cases f <;> simp
  refine cleans_cleanAll hf rfl ⟨fun f => ?_, ?_, by simp⟩
  · cases f <;> simp
  · simpa using And.intro (cleansLink rfl (by decide) hitems)
      (cleansLink rfl (by decide) hcontext)

theorem cleans_cleanTestCaseResult :
    Cleans G Cleaned .caseResult (cleanTestCaseResult : Option ℕ → HeapM ω Unit) := by
  have hassertions : Cleans G Cleaned .assertionResult
      (cleanTestCaseAssertionResult : Option ℕ → HeapM ω Unit) := by
    refine cleans_cleanAll hf rfl ⟨fun f => ?_, by simp, by simp⟩
    cases f <;> simp
  have hitems : Cleans G Cleaned .configItemResult
      (cleanTestConfigItemResult : Option ℕ → HeapM ω Unit) := by
    refine cleans_cleanAll hf rfl ⟨fun f => ?_, by simp, by simp⟩
    cases f <;> simp
  refine cleans_cleanAll hf rfl ⟨fun f => ?_, ?_, by simp⟩
  · cases f <;> simp
  · simpa using And.intro (cleansLink rfl (by decide) hassertions)
      (cleansLink rfl (by decide) hitems)

theorem cleans_cleanTestGroupResults :
    Cleans G Cleaned .groupResult (cleanTestGroupResults : Option ℕ → HeapM ω Unit) := by
  refine cleans_cleanAll hf rfl ⟨fun f => ?_, ?_, by simp⟩
  · cases f <;> simp
  · simpa using cleansLink rfl (by decide) (cleans_cleanTestCaseResult hf)

theorem cleans_cleanSuiteContext :
    Cleans G Cleaned .suiteContext (cleanSuiteContext : Option ℕ → HeapM ω Unit) := by
  have hresults : Cleans G Cleaned .configResult
      (cleanConfigResults : Option ℕ → HeapM ω Unit) := by
    refine cleans_cleanAll hf rfl ⟨fun f => ?_, ?_, by simp⟩
    · cases f <;> simp
    · simpa using cleansLink rfl (by decide) (cleans_cleanTestGroupResults hf)
  refine hf.cleans_block ⟨fun f => ?_, ?_, by simp⟩
  · cases f <;> simp
  · simpa using cleansLink rfl (by decide) hresults

theorem cleans_cleanTestsData :
    Cleans G Cleaned .runTestSuite (cleanTestsData : Option ℕ → HeapM ω Unit) := by
  refine cleans_cleanAll hf rfl ⟨fun f => ?_, ?_, by simp⟩
  · cases f <;> simp
  · simpa using And.intro (cleansLink rfl (by decide) (cleans_cleanTestGroups hf))
      (And.intro (cleansLink rfl (by decide) (cleans_cleanTestConfigs hf))
        (cleansLink rfl (by decide) (cleans_cleanSuiteContext hf)))

end Clean

/-- The roots are the first suite, if there is one. -/
theorem Listed.forest {header : Option ℕ} (hl : Suites header h) :
    ∃ R, Built R ∅ h ∧ (∀ a, a ∈ R ↔ header = some a) ∧
      ∀ a, header = some a → h.Is .runTestSuite a := by
  cases header with
  | none => exact ⟨∅, hl, by simp, by simp⟩
  | some head =>
      obtain ⟨hb, hhead, -⟩ := hl
      refine ⟨insert head ∅, hb, fun a => ?_, fun a ha => ?_⟩
      · simp [eq_comm]
      · exact Option.some.inj ha ▸ hhead

/-- The blocks of the switch connections stay, and all others are freed. -/
theorem runs_cleanTestsData {header : Option ℕ} (hb : Built R ∅ h)
    (hR : ∀ a, a ∈ R ↔ header = some a)
    (hsuite : ∀ a, header = some a → h.Is .runTestSuite a) :
    Runs False (cleanTestsData header : HeapM ω Unit) h g fun _ h' _ => ∀ a,
      (h.Is .switchInternalConnContext a → h'.block a = h.block a) ∧
        (¬h.Is .switchInternalConnContext a → h'.block a = none) := by
  have hwithout : Without h ∅ h := ⟨rfl, by simp, fun _ _ => rfl⟩
  refine (cleans_cleanTestsData hb.forest ∅ h g header hwithout hsuite (by simp)).mono ?_
  rintro - h' g' ⟨-, hw⟩ a
  rw [Set.empty_union] at hw
  have hbelow : ∀ k, h.Is k a →
      (a ∈ Below h Cleaned header ↔ k ≠ .switchInternalConnContext) := by
    intro k hk
    have hiff := hb.forest.below_roots_iff (C := Cleaned)
      (K := (· = .switchInternalConnContext)) ?_ ?_ ?_ hk
    · refine Iff.trans ?_ hiff
      constructor
      · rintro ⟨r, hr, hpath⟩
        exact ⟨r, (hR r).mpr hr, mem_below_some.mpr hpath⟩
      · rintro ⟨r, hr, hpath⟩
        exact ⟨r, (hR r).mp hr, mem_below_some.mp hpath⟩
    · intro k f k' howns
      simp [Cleaned, howns]
    · rintro k f k' howns rfl
      cases f <;> first | exact (Option.some.inj howns).symm | cases howns
    · intro r hr k hk' hconn
      subst hconn
      cases hk'.kind_unique (hsuite r ((hR r).mp hr))
  refine ⟨fun hconn => hw.kept a fun hmem => (hbelow _ hconn).mp hmem rfl, fun hconn => ?_⟩
  by_cases hmem : a ∈ Below h Cleaned header
  · exact hw.freed a hmem
  · cases hblock : h.block a with
    | none => exact (hw.kept a hmem).trans hblock
    | some b =>
        refine absurd ((hbelow b.kind ⟨b, hblock, rfl⟩).mpr fun hk => ?_) hmem
        exact hconn ⟨b, hblock, hk⟩

/-- Nothing is filled yet. -/
def Globals.start (world : ω) : Globals ω := ⟨none, none, none, world⟩

/-- Whatever the tests do, `run` follows no null pointer and none to a block that is freed or
of another kind, and frees no block twice, when the configuration passes the checks of
`prepare_tests_data` and no group that is set up lacks its teardown function. It comes to an end,
unless the tests are not complete and an assertion stops it. What it then leaves on the heap are
the blocks of the switch connections; there are some just when a suite has a group whose paths go
through a switch. -/
theorem run_safe (globals : IniConfig.Globals) (testConfig : IniConfig.IdeTestConfig)
    (tests : Tests ω) (hpaired : tests.Paired) (configCheckRequired : ℕ → Bool) (world : ω)
    {suites : List IniConfig.IdeRunTestSuite}
    (hok : IniConfig.prepareTestsData globals testConfig = .ok suites) :
    Runs (¬tests.Complete) (run globals testConfig tests configCheckRequired) Heap.empty
      (Globals.start world) fun _ h _ => (∀ a, h.Live a → h.Is .switchInternalConnContext a) ∧
        ((∃ a, h.Live a) ↔
          ∃ i, LeavesConns testConfig (testConfig.testSuites.records i)) := by
  refine ((runs_prepareTestsData hok).imp_stops False.elim).bind ?_
  rintro header h₁ g₁ ⟨rfl, hl, hconn⟩
  obtain ⟨R, hb, hR, hsuite⟩ := hl.forest
  refine Runs.bind_bound ?_
  have hi : Inv R ∅ h₁ (Globals.start world) :=
    ⟨hb, ⟨fun p hp => absurd hp (Option.some_ne_none p).symm,
      fun p hp => absurd hp (Option.some_ne_none p).symm,
      fun p hp => absurd hp (Option.some_ne_none p).symm⟩,
      fun a ha => absurd ha (Set.notMem_empty a)⟩
  refine (runs_runTestSuites hpaired configCheckRequired hi rfl rfl rfl (hi.within _)
    fun a ha => ⟨hsuite a ha, Nat.le_add_left ..⟩).bind ?_
  rintro - h₂ g₂ hk₂
  have hsuite₂ := fun a ha => hk₂.adds.is (hsuite a ha)
  have hreads := reads_printTestResults hk₂.inv.built (g := g₂) (p := header)
  refine Runs.bind ((hreads true hsuite₂).imp_stops False.elim) ?_
  rintro - h₃ g₃ ⟨rfl, rfl⟩
  refine Runs.bind ((hreads false hsuite₂).imp_stops False.elim) ?_
  rintro - h₄ g₄ ⟨rfl, rfl⟩
  refine ((runs_cleanTestsData hk₂.inv.built hR hsuite₂).imp_stops False.elim).mono ?_
  intro _ h₅ _ hleft
  have hlive : ∀ a, h₅.Live a → h₄.Is .switchInternalConnContext a := by
    rintro a ⟨b, hblock⟩
    by_contra hnot
    cases ((hleft a).2 hnot).symm.trans hblock
  have hkept : ∀ a, h₄.Is .switchInternalConnContext a →
      h₅.Is .switchInternalConnContext a := by
    intro a ha
    obtain ⟨b, hblock, hkind⟩ := ha
    exact ⟨b, ((hleft a).1 ⟨b, hblock, hkind⟩).trans hblock, hkind⟩
  refine ⟨fun a ha => hkept a (hlive a ha), ?_⟩
  rw [← hconn, ← hk₂.adds.hasConn_iff (by simp [isResult])]
  constructor
  · rintro ⟨a, ha⟩
    exact ⟨a, hlive a ha⟩
  · rintro ⟨a, ha⟩
    exact ⟨a, (hkept a ha).live⟩

/-- A suite whose topology goes through a switch. -/
@[irreducible] def behindSwitch : IniConfig.IdeTestConfig :=
  let ports : Table IniConfig.IdePort IniConfig.maxSupportedSwitchPortsNum :=
    ⟨2, fun i => { id := i.val + 1, enabled := true }⟩
  { portsConfig := ⟨3, fun i => { id := i.val + 1, enabled := true }⟩,
    switchesConfig := ⟨1, fun _ => { id := 1, enabled := true, ports }⟩,
    topologies := ⟨1, fun i =>
      { id := i.val + 1, enabled := true, connection := .switch, rootPort := 1, upperPort := 2,
        lowerPort := 3, swConn1 := [⟨1, 1, 2⟩] }⟩,
    configurations := ⟨1, fun i => { id := i.val + 1, enabled := true, bitMap := 1 }⟩,
    testSuites := ⟨1, fun i =>
      { id := if i.val = 0 then 1 else 0, enabled := true, topologyId := 1,
        configurationId := 1, testCases := fun j => if j.val = 0 then [1, 2] else [] }⟩ }

/-- Each function passes, and there are all of them. -/
def passing : Tests Unit := ⟨fun _ => true, fun _ _ action world => some (true, [], action, world)⟩

theorem passing_complete : passing.Complete where
  present _ _ := rfl
  returns _ _ _ _ := Option.some_ne_none _
  records := by
    rintro callee h action world answer hcall caseClass caseId a ha
    cases hcall
    cases ha

theorem exists_eq_ok_of_isOk {α : Type} {c : IniConfig.Checked α} (hc : c.isOk = true) :
    ∃ a, c = .ok a := by
  cases c with
  | ok a => exact ⟨a, rfl⟩
  | error fault => cases hc

theorem run_safe_behindSwitch :
    Runs False (run {} behindSwitch passing fun _ => true) Heap.empty (Globals.start ())
      fun _ h _ => (∀ a, h.Live a → h.Is .switchInternalConnContext a) ∧
        ((∃ a, h.Live a) ↔
          ∃ i, LeavesConns behindSwitch (behindSwitch.testSuites.records i)) := by
  have hprepared : (IniConfig.prepareTestsData {} behindSwitch).isOk = true := by decide +kernel
  obtain ⟨suites, hok⟩ := exists_eq_ok_of_isOk hprepared
  exact (run_safe {} behindSwitch passing (fun _ h => h) (fun _ => true) () hok).imp_stops
    fun hnot => hnot passing_complete

end TeeIoValidator.TestData
