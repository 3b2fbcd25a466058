import Mathlib.Data.List.Range
import TeeIoValidator.Verification.Suite.Events
import TeeIoValidator.Verification.Suite.Returns

/-! # The groups and cases that a suite runs -/

namespace TeeIoValidator.Suite

open Runner

variable {ω : Type}

/-- The position of the group that an event is about. -/
def Event.groupIndex : Event → ℕ
  | .group _ g => g
  | .groupSetup _ g _ => g
  | .case _ g _ _ => g

/-- The case that is run, when it is one of a configuration and of a group. -/
def Event.attempt (config group : ℕ) : Event → Option ℕ
  | .case c g i _ => if c = config ∧ g = group then some i else none
  | .group .. | .groupSetup .. => none

/-- The cases that are run for a configuration and a group, in their order. -/
def attempts (config group : ℕ) (events : List Event) : List ℕ :=
  events.filterMap (Event.attempt config group)

/-- Every pair is run once; where the setup of the group succeeds, its cases are run in their
order, and no run finds its case skipped before. -/
structure Executes (suite : RunTestSuite ω) (events : List Event) : Prop where
  pairs : ∀ config < suite.testConfig.length, ∀ group < suite.testGroup.length,
    events.count (.group config group) = 1
  cases : ∀ config group testGroup, suite.testGroup[group]? = some testGroup →
    .groupSetup config group true ∈ events →
      attempts config group events = List.range testGroup.testCase.length
  independent : ∀ config group case action, .case config group case action ∈ events →
    action = .run

section Logged

variable {c g : ℕ}

theorem attempts_append (events events' : List Event) :
    attempts c g (events ++ events') = attempts c g events ++ attempts c g events' :=
  List.filterMap_append

theorem attempts_eq_nil {events : List Event} (h : ∀ e ∈ events, e.groupIndex ≠ g) :
    attempts c g events = [] := by
  rw [attempts, List.filterMap_eq_nil_iff]
  intro e he
  cases e with
  | group => rfl
  | groupSetup => rfl
  | case _ group case action =>
      have hne : group ≠ g := h _ he
      simp [Event.attempt, hne]

theorem attempts_caseEvents (case n : ℕ) :
    attempts c g (caseEvents c g case n) = List.range' case n := by
  rw [attempts, caseEvents, List.filterMap_map]
  have hsome : Event.attempt c g ∘ (fun i => Event.case c g i .run) = some := by
    funext i
    simp [Event.attempt]
  rw [hsome, List.filterMap_some]

theorem mem_groupEvents {testGroup : RunTestGroup ω} {ret : Bool} {e : Event}
    (h : e ∈ groupEvents c g testGroup ret) :
    e = .groupSetup c g ret ∨ ∃ i, e = .case c g i .run := by
  rw [groupEvents] at h
  split at h
  · cases h
  · rcases List.mem_cons.mp h with hsetup | hcase
    · exact .inl hsetup
    · split at hcase
      · rcases List.mem_map.mp hcase with ⟨i, -, rfl⟩
        exact .inr ⟨i, rfl⟩
      · cases hcase

theorem groupEvents_groupIndex {testGroup : RunTestGroup ω} {ret : Bool} :
    ∀ e ∈ groupEvents c g testGroup ret, e.groupIndex = g := by
  intro e he
  rcases mem_groupEvents he with rfl | ⟨i, rfl⟩ <;> rfl

theorem attempts_groupEvents {testGroup : RunTestGroup ω}
    (h : testGroup.testCase.isEmpty = false) :
    attempts c g (groupEvents c g testGroup true) = List.range testGroup.testCase.length := by
  rw [groupEvents, h, List.range_eq_range']
  exact attempts_caseEvents 0 testGroup.testCase.length

variable {testGroups : List (RunTestGroup ω)} {events : List Event}

theorem GroupsLogged.le_groupIndex (h : GroupsLogged c g testGroups events) :
    ∀ e ∈ events, g ≤ e.groupIndex := by
  induction h with
  | nil => exact List.forall_mem_nil _
  | @cons group testGroup testGroups events ret rest ih =>
      rw [List.cons_append, List.forall_mem_cons, List.forall_mem_append]
      refine ⟨Nat.le_refl group, ?_, ?_⟩
      · intro e he
        exact (groupEvents_groupIndex e he).ge
      · intro e he
        exact Nat.le_of_succ_le (ih e he)

theorem GroupsLogged.count_group (h : GroupsLogged c g testGroups events) {config group : ℕ}
    (hle : g ≤ group) (hlt : group < g + testGroups.length) :
    events.count (.group config group) = if config = c then 1 else 0 := by
  induction h with
  | nil => simp at hlt; omega
  | @cons first testGroup testGroups events ret rest ih =>
      have hnone : (groupEvents c first testGroup ret).count (.group config group) = 0 := by
        rw [List.count_eq_zero]
        intro hmem
        rcases mem_groupEvents hmem with h | ⟨i, h⟩ <;> cases h
      rw [List.length_cons] at hlt
      rw [List.cons_append, List.count_cons, List.count_append, hnone, Nat.zero_add]
      by_cases hfirst : group = first
      · subst hfirst
        have hrest : events.count (.group config group) = 0 := by
          rw [List.count_eq_zero]
          intro hmem
          have hindex : group + 1 ≤ group := rest.le_groupIndex _ hmem
          omega
        rw [hrest]
        by_cases hconfig : config = c
        · simp [hconfig]
        · have hne : ¬c = config := fun h => hconfig h.symm
          simp [hconfig, hne]
      · have hne : ¬first = group := fun h => hfirst h.symm
        rw [ih (by omega) (by omega)]
        simp [hne]

theorem GroupsLogged.attempts (h : GroupsLogged c g testGroups events) {config group : ℕ}
    {testGroup : RunTestGroup ω} (hle : g ≤ group)
    (htestGroup : testGroups[group - g]? = some testGroup)
    (hsetup : .groupSetup config group true ∈ events) :
    attempts config group events = List.range testGroup.testCase.length := by
  induction h with
  | nil => cases hsetup
  | @cons first head testGroups events ret rest ih =>
      have hskip : Suite.attempts config group
          (.group c first :: groupEvents c first head ret ++ events) =
            Suite.attempts config group (groupEvents c first head ret) ++
              Suite.attempts config group events := by
        rw [List.cons_append, ← attempts_append]
        rfl
      rw [hskip]
      rw [List.cons_append, List.mem_cons, List.mem_append] at hsetup
      by_cases hfirst : group = first
      · subst hfirst
        rw [Nat.sub_self, List.getElem?_cons_zero, Option.some.injEq] at htestGroup
        subst htestGroup
        have hrest : Suite.attempts config group events = [] := by
          apply attempts_eq_nil
          intro e he
          have hindex := rest.le_groupIndex e he
          omega
        have hmem : Event.groupSetup config group true ∈ groupEvents c group head ret := by
          rcases hsetup with hsetup | hsetup | hsetup
          · cases hsetup
          · exact hsetup
          · have hindex : group + 1 ≤ group := rest.le_groupIndex _ hsetup
            omega
        rw [hrest, List.append_nil]
        rcases mem_groupEvents hmem with heq | ⟨i, heq⟩
        · cases heq
          apply attempts_groupEvents
          cases hempty : head.testCase.isEmpty with
          | false => rfl
          | true => simp [groupEvents, hempty] at hmem
        · cases heq
      · have hnone : Suite.attempts config group (groupEvents c first head ret) = [] := by
          apply attempts_eq_nil
          intro e he
          rw [groupEvents_groupIndex e he]
          exact Ne.symm hfirst
        have hindex : group - first = (group - (first + 1)) + 1 := by omega
        rw [hindex, List.getElem?_cons_succ] at htestGroup
        rw [hnone, List.nil_append]
        apply ih (by omega) htestGroup
        rcases hsetup with hsetup | hsetup | hsetup
        · cases hsetup
        · exact absurd (groupEvents_groupIndex _ hsetup) hfirst
        · exact hsetup

theorem GroupsLogged.action_eq (h : GroupsLogged c g testGroups events) {config group case : ℕ}
    {action : Action} (hcase : .case config group case action ∈ events) : action = .run := by
  induction h with
  | nil => cases hcase
  | @cons first head testGroups events ret rest ih =>
      rw [List.cons_append, List.mem_cons, List.mem_append] at hcase
      rcases hcase with hcase | hcase | hcase
      · cases hcase
      · rcases mem_groupEvents hcase with heq | ⟨i, heq⟩
        · cases heq
        · cases heq
          rfl
      · exact ih hcase

end Logged

/-- The groups are walked for the first configuration only. A suite whose functions return has
such an end, see `RunTestSuite.Returns.exists_doRunTestSuite`: only an assertion of the tests, or
one on the case that a result is recorded of, stops the runner. -/
theorem doRunTestSuite_executes_iff (suite : RunTestSuite ω) (world : ω) (results : Results)
    (m : Machine ω) (h : doRunTestSuite suite (Machine.start world results) = some m) :
    Executes suite m.events ↔ suite.testConfig.length ≤ 1 ∨ suite.testGroup = [] := by
  rcases doRunTestSuite_events h with ⟨hnil, hevents⟩ | ⟨hne, hlogged⟩
  · rw [hnil, hevents]
    refine ⟨fun _ => .inl (Nat.zero_le 1), fun _ => ⟨?_, ?_, ?_⟩⟩
    · intro config hconfig
      rw [hnil] at hconfig
      exact absurd hconfig (Nat.not_lt_zero config)
    · intro config group testGroup _ hmem
      cases hmem
    · intro config group case action hmem
      cases hmem
  · constructor
    · intro hexecutes
      by_contra hboth
      rw [not_or, Nat.not_le] at hboth
      have hgroups : 0 < suite.testGroup.length := List.length_pos_of_ne_nil hboth.2
      have hsecond := hexecutes.pairs 1 hboth.1 0 hgroups
      rw [hlogged.count_group (Nat.zero_le 0) (by omega)] at hsecond
      exact absurd hsecond (by decide)
    · intro hbound
      refine ⟨?_, ?_, ?_⟩
      · intro config hconfig group hgroup
        rw [hlogged.count_group (Nat.zero_le group) (by omega)]
        rcases hbound with hone | hnil
        · rw [if_pos (by omega)]
        · simp [hnil] at hgroup
      · intro config group testGroup htestGroup hsetup
        exact hlogged.attempts (Nat.zero_le group) htestGroup hsetup
      · intro config group case action hcase
        exact hlogged.action_eq hcase

/-- A function that succeeds and records nothing. -/
def succeeding {α : Type} : TestFunc α := fun _ _ a => some (true, [], a)

/-- A suite with one group of one case. -/
def smallSuite (configIds : List ℤ) : RunTestSuite Unit where
  name := "TestSuite_1"
  testCategory := .pcieIde
  testGroup := [⟨"SelectiveIDE", [⟨"Query.1", "Query", 0, 1, false, some succeeding,
    some succeeding, some succeeding⟩], succeeding, succeeding⟩]
  testConfig := configIds.map fun configId =>
    ⟨configId, "default", [⟨succeeding, succeeding, succeeding, succeeding⟩]⟩

def smallStart : Machine Unit :=
  Machine.start () (Results.empty.nextSuite "TestSuite_1" .pcieIde)

theorem doRunTestSuite_executes_iff_small : ∃ m,
    doRunTestSuite (smallSuite [1]) smallStart = some m ∧
      (Executes (smallSuite [1]) m.events ↔
        (smallSuite [1]).testConfig.length ≤ 1 ∨ (smallSuite [1]).testGroup = []) :=
  ⟨_, rfl, doRunTestSuite_executes_iff _ _ _ _ rfl⟩

/-- No group is run for the second configuration. -/
theorem doRunTestSuite_second_not_executes : ∃ m,
    doRunTestSuite (smallSuite [1, 2]) smallStart = some m ∧
      ¬Executes (smallSuite [1, 2]) m.events :=
  ⟨_, rfl, fun h => absurd (h.pairs 1 (by decide) 0 (by decide)) (by decide)⟩

end TeeIoValidator.Suite
