import TeeIoValidator.Verification.TestData.Prepare

/-! Whatever the tests do, running the suites adds results to the forest and follows no pointer
wrongly. -/

namespace TeeIoValidator.TestData

open Ownership

variable {ω α β : Type} {stops : Prop} {R X : Set ℕ} {h h' h'' : TestHeap}
  {g g' g'' : Globals ω}

/-! ## The invariant -/

def isResult (k : Kind) : Prop :=
  k = .configResult ∨ k = .groupResult ∨ k = .caseResult ∨ k = .assertionResult ∨
    k = .configItemResult

/-- The results that are filled are there, one in the other. -/
structure Cursors (h : TestHeap) (g : Globals ω) : Prop where
  config : ∀ p, g.currentConfigResult = some p → h.Is .configResult p
  group : ∀ p, g.currentGroupResult = some p →
    h.Is .groupResult p ∧ ∃ c, g.currentConfigResult = some c
  case : ∀ p, g.currentCaseResult = some p →
    h.Is .caseResult p ∧ ∃ gr, g.currentGroupResult = some gr

/-- Only results of groups are not finished. -/
structure Inv (R X : Set ℕ) (h : TestHeap) (g : Globals ω) : Prop where
  built : Built R X h
  cursors : Cursors h g
  unfinished : ∀ a ∈ X, h.Is .groupResult a

def SameCursors (g g' : Globals ω) : Prop :=
  g'.currentConfigResult = g.currentConfigResult ∧
    g'.currentGroupResult = g.currentGroupResult ∧
    g'.currentCaseResult = g.currentCaseResult

/-- The invariant after a part of the run, which fills the same results. -/
structure Kept (R X : Set ℕ) (h : TestHeap) (g : Globals ω) (h' : TestHeap)
    (g' : Globals ω) : Prop where
  inv : Inv R X h' g'
  cursors : SameCursors g g'
  adds : Adds isResult h h'

theorem Cursors.mono (hc : Cursors h g) (hadds : Adds isResult h h')
    (hsame : SameCursors g g') : Cursors h' g' := by
  obtain ⟨hconfig, hgroup, hcase⟩ := hsame
  refine ⟨fun p hp => ?_, fun p hp => ?_, fun p hp => ?_⟩
  · exact hadds.is (hc.config p (hconfig ▸ hp))
  · obtain ⟨his, c, hc'⟩ := hc.group p (hgroup ▸ hp)
    exact ⟨hadds.is his, c, hconfig.trans hc'⟩
  · obtain ⟨his, gr, hgr⟩ := hc.case p (hcase ▸ hp)
    exact ⟨hadds.is his, gr, hgroup.trans hgr⟩

theorem Inv.kept (hi : Inv R X h g) (hb : Built R X h') (hadds : Adds isResult h h')
    (hsame : SameCursors g g') : Kept R X h g h' g' :=
  ⟨⟨hb, hi.cursors.mono hadds hsame, fun a ha => hadds.is (hi.unfinished a ha)⟩, hsame, hadds⟩

theorem Inv.kept_refl (hi : Inv R X h g) : Kept R X h g h g :=
  ⟨hi, ⟨rfl, rfl, rfl⟩, Adds.refl _ h⟩

theorem Kept.trans (h₁ : Kept R X h g h' g') (h₂ : Kept R X h' g' h'' g'') :
    Kept R X h g h'' g'' := by
  obtain ⟨hc₁, hg₁, hca₁⟩ := h₁.cursors
  obtain ⟨hc₂, hg₂, hca₂⟩ := h₂.cursors
  exact ⟨h₂.inv, ⟨hc₂.trans hc₁, hg₂.trans hg₁, hca₂.trans hca₁⟩, h₁.adds.trans h₂.adds⟩

/-- The result that is filled is that of a case with these ids. -/
def Current (h : TestHeap) (g : Globals ω) (caseClass caseId : ℤ) : Prop :=
  ∃ p d, g.currentCaseResult = some p ∧ h.Holds .caseResult d p ∧ d.classId = caseClass ∧
    d.caseId = caseId

/-- The result that is filled is that of this case. -/
def Fills (h : TestHeap) (g : Globals ω) (testCase : ℕ) : Prop :=
  ∃ d, h.Holds .runTestCase d testCase ∧ Current h g d.classId d.caseId

theorem Kept.current (hk : Kept R X h g h' g') {caseClass caseId : ℤ}
    (hc : Current h g caseClass caseId) : Current h' g' caseClass caseId := by
  obtain ⟨p, d, hp, hd, hids⟩ := hc
  exact ⟨p, d, hk.cursors.2.2.trans hp, hk.adds.holds _ _ _ (by decide) hd, hids⟩

theorem Kept.fills (hk : Kept R X h g h' g') {testCase : ℕ} (hf : Fills h g testCase) :
    Fills h' g' testCase := by
  obtain ⟨d, hd, hc⟩ := hf
  exact ⟨d, hk.adds.holds _ _ _ (by decide) hd, hk.current hc⟩

/-- A part of the run and what follows it. -/
theorem Runs.kept_bind {m : HeapM ω α} {next : α → HeapM ω β}
    {post : α → TestHeap → Prop}
    (hm : Runs stops m h g fun a h' g' => Kept R X h g h' g' ∧ post a h')
    (hnext : ∀ a h' g', Kept R X h g h' g' → post a h' →
      Runs stops (next a) h' g' fun _ h'' g'' => Kept R X h' g' h'' g'') :
    Runs stops (m >>= next) h g fun _ h' g' => Kept R X h g h' g' :=
  hm.bind fun a h' g' ha => (hnext a h' g' ha.1 ha.2).mono fun _ _ _ hk => ha.1.trans hk

theorem Runs.with_true {m : HeapM ω α}
    (hm : Runs stops m h g fun _ h' g' => Kept R X h g h' g') :
    Runs stops m h g fun _ h' g' => Kept R X h g h' g' ∧ True :=
  hm.mono fun _ _ _ hk => ⟨hk, trivial⟩

theorem Runs.onlyIf {c : Bool} {m : HeapM ω Unit} (hi : Inv R X h g)
    (hm : Runs stops m h g fun _ h' g' => Kept R X h g h' g') :
    Runs stops (onlyIf c m) h g fun _ h' g' => Kept R X h g h' g' := by
  cases c with
  | false => exact Runs.pure hi.kept_refl
  | true => exact hm

theorem Runs.bind_getGlobals {next : Globals ω → HeapM ω β}
    {post : β → TestHeap → Globals ω → Prop} (hnext : Runs stops (next g) h g post) :
    Runs stops (getGlobals >>= next) h g post := hnext

theorem Runs.bind_setConfigResult {p : Option ℕ} {next : Unit → HeapM ω β}
    {post : β → TestHeap → Globals ω → Prop}
    (hnext : Runs stops (next ()) h { g with currentConfigResult := p } post) :
    Runs stops (setConfigResult p >>= next) h g post := hnext

theorem Runs.bind_setGroupResult {p : Option ℕ} {next : Unit → HeapM ω β}
    {post : β → TestHeap → Globals ω → Prop}
    (hnext : Runs stops (next ()) h { g with currentGroupResult := p } post) :
    Runs stops (setGroupResult p >>= next) h g post := hnext

theorem Runs.bind_setCaseResult {p : Option ℕ} {next : Unit → HeapM ω β}
    {post : β → TestHeap → Globals ω → Prop}
    (hnext : Runs stops (next ()) h { g with currentCaseResult := p } post) :
    Runs stops (setCaseResult p >>= next) h g post := hnext

/-- A block of a kind that is needed, with its needed field. -/
theorem Inv.needed (hi : Inv R X h g) {k k' : Kind} {f : Field} {a : ℕ} (ha : h.Is k a)
    (hk : k ≠ .groupResult) (hneeds : needs k f = true) (howns : owns k f = some k') :
    ∃ b q c, h.block a = some b ∧ b.kind = k ∧ b.links f = some q ∧ h.block q = some c ∧
      c.kind = k' := by
  have hX : a ∉ X := fun hmem => hk (ha.kind_unique (hi.unfinished a hmem))
  obtain ⟨b, q, hb, hkind, hq, -, c, hc, hckind⟩ := hi.built.needed ha hneeds hX howns
  exact ⟨b, q, c, hb, hkind, hq, hc, hckind⟩

/-! ## Records -/

/-- A result is appended to a list of the results. -/
theorem Inv.runs_append (hi : Inv R X h g) {kp k : Kind} {f : Field} {p : ℕ} {d : Data}
    (hp : h.Is kp p) (howns : owns kp f = some k) (hnext : owns k .next = some k)
    (hneeds : ∀ f, needs k f = false) (hk : isResult k) :
    Runs stops (appendLink kp p f k .next h.next : HeapM ω Unit) (h.alloc k d) g fun _ h' g' =>
      Kept R X h g h' g' ∧ g' = g ∧ h'.Holds k d h.next ∧ ∃ q, h'.Owns p f q := by
  have hadds : Adds isResult h (h.alloc k d) :=
    (hi.built.adds_alloc k d).mono fun k' hk' => hk' ▸ hk
  refine ((hi.built.alloc_simple hneeds d).runs_appendLink (hadds.is hp) howns hnext
    is_alloc_self hi.built.newest_alloc (hi.built.forest.lt_next hp.live) (Set.mem_insert ..)
    isResult).mono ?_
  rintro - h' g' ⟨rfl, hb', hadds', -, hlinked, -⟩
  rw [root_diff_self _ hi.built.notMem_roots] at hb'
  have hne : k ≠ .caseContext := by
    rintro rfl
    simp [isResult] at hk
  exact ⟨hi.kept hb' (hadds.trans hadds') ⟨rfl, rfl, rfl⟩, rfl,
    hadds'.holds _ _ _ hne holds_alloc_self, hlinked⟩

theorem runs_countUp (hi : Inv R X h g) {p : ℕ} (hp : g.currentCaseResult = some p) :
    Runs stops (countUp : HeapM ω Unit) h g fun _ h' g' => Kept R X h g h' g' := by
  obtain ⟨-, gr, hgr⟩ := hi.cursors.case p hp
  obtain ⟨⟨bg, hbg, hkg⟩, c, hc⟩ := hi.cursors.group gr hgr
  obtain ⟨bc, hbc, hkc⟩ := hi.cursors.config c hc
  refine Runs.bind_getGlobals ?_
  rw [hc, hgr]
  exact Runs.bind_deref hbc hkc (Runs.bind_deref hbg hkg (Runs.pure hi.kept_refl))

theorem runs_teeioRecordAssertionResult (hi : Inv R X h g) {caseClass caseId : ℤ}
    (hstops : ¬Current h g caseClass caseId → stops) (result : TestResult) :
    Runs stops (teeioRecordAssertionResult caseClass caseId result : HeapM ω Unit) h g
      fun _ h' g' => Kept R X h g h' g' := by
  refine Runs.bind_getGlobals ?_
  cases hcase : g.currentCaseResult with
  | none =>
      refine Runs.stopped (hstops ?_)
      rintro ⟨p, d, hp, -⟩
      cases hcase.symm.trans hp
  | some p =>
      obtain ⟨his, -⟩ := hi.cursors.case p hcase
      obtain ⟨b, hb, hkind⟩ := his
      refine Runs.bind_deref hb hkind ?_
      split
      · rename_i hother
        refine Runs.stopped (hstops ?_)
        rintro ⟨q, d, hq, ⟨b', hb', -, rfl⟩, hclass, hid⟩
        obtain rfl := Option.some.inj (hcase.symm.trans hq)
        obtain rfl := Option.some.inj (hb.symm.trans hb')
        exact hother.elim (fun hne => hne hclass) fun hne => hne hid
      · refine Runs.bind_malloc ?_
        refine (hi.runs_append ⟨b, hb, hkind⟩ rfl rfl (fun _ => rfl) (by simp [isResult])).bind ?_
        rintro - h₁ g₁ ⟨hk₁, rfl, -⟩
        exact (Runs.onlyIf hk₁.inv (runs_countUp hk₁.inv hcase)).mono
          fun _ _ _ hk => hk₁.trans hk

theorem runs_findConfigItemResult (hb : Built R X h) (configItemId : ℤ) {fuel : ℕ}
    {p : Option ℕ} (hp : ∀ a, p = some a → h.Is .configItemResult a)
    (hfuel : ∀ a, p = some a → h.next ≤ a + fuel) :
    Runs stops (findConfigItemResult configItemId fuel p : HeapM ω (Option ℕ)) h g
      fun _ h' g' => h' = h ∧ g' = g := by
  induction fuel generalizing p with
  | zero =>
      cases p with
      | none => exact Runs.pure ⟨rfl, rfl⟩
      | some a =>
          exact absurd (hb.forest.lt_next (hp a rfl).live) (Nat.not_lt.mpr (hfuel a rfl))
  | succ fuel ih =>
      cases p with
      | none => exact Runs.pure ⟨rfl, rfl⟩
      | some a =>
          obtain ⟨b, hblock, hkind⟩ := hp a rfl
          refine Runs.bind_deref hblock hkind ?_
          split
          · exact Runs.pure ⟨rfl, rfl⟩
          · refine ih (fun x hx => (hb.link hblock hkind hx rfl).2) fun x hx => ?_
            have hnext : owns .configItemResult .next = some .configItemResult := rfl
            have hlt := (hb.link hblock hkind hx hnext).1
            have := hfuel a rfl
            omega

theorem runs_teeioRecordConfigItemResult (hi : Inv R X h g) (configItemId : ℤ) :
    Runs stops (teeioRecordConfigItemResult configItemId : HeapM ω Unit) h g
      fun _ h' g' => Kept R X h g h' g' := by
  refine Runs.bind_getGlobals ?_
  cases hcase : g.currentCaseResult with
  | none => exact Runs.pure hi.kept_refl
  | some p =>
      obtain ⟨⟨b, hb, hkind⟩, -⟩ := hi.cursors.case p hcase
      refine Runs.bind_getLink hb hkind (Runs.bind_bound ?_)
      refine (runs_findConfigItemResult hi.built configItemId
        (fun a ha => (hi.built.link hb hkind ha rfl).2) fun a _ => Nat.le_add_left ..).bind ?_
      rintro found h₁ g₁ ⟨rfl, rfl⟩
      cases found with
      | some _ => exact Runs.pure hi.kept_refl
      | none =>
          refine Runs.bind_malloc ?_
          exact (hi.runs_append ⟨b, hb, hkind⟩ rfl rfl (fun _ => rfl)
            (by simp [isResult])).mono fun _ _ _ hk => hk.1

theorem runs_teeioRecordGroupResult (hi : Inv R X h g) (func : Suite.GroupFunc) :
    Runs stops (teeioRecordGroupResult func : HeapM ω Unit) h g
      fun _ h' g' => Kept R X h g h' g' := by
  refine Runs.bind_getGlobals ?_
  cases hgroup : g.currentGroupResult with
  | none => exact Runs.pure hi.kept_refl
  | some p =>
      obtain ⟨⟨b, hb, hkind⟩, -⟩ := hi.cursors.group p hgroup
      dsimp only
      split
      · exact Runs.pure hi.kept_refl
      · exact Runs.bind_deref hb hkind (Runs.pure hi.kept_refl)

theorem runs_applyCalls (hi : Inv R X h g) {calls : List Suite.Call}
    (hstops : ∀ caseClass caseId a, .assertion caseClass caseId a ∈ calls →
      ¬Current h g caseClass caseId → stops) :
    Runs stops (applyCalls calls : HeapM ω Unit) h g fun _ h' g' => Kept R X h g h' g' := by
  induction calls generalizing h g with
  | nil => exact Runs.pure hi.kept_refl
  | cons call calls ih =>
      have hcall : Runs stops (applyCall call : HeapM ω Unit) h g
          fun _ h' g' => Kept R X h g h' g' := by
        cases call with
        | assertion caseClass caseId a =>
            exact runs_teeioRecordAssertionResult hi
              (hstops caseClass caseId a List.mem_cons_self) a.result
        | configItem configItemId func result => exact runs_teeioRecordConfigItemResult hi _
        | group func result message => exact runs_teeioRecordGroupResult hi func
      refine Runs.kept_bind (Runs.with_true hcall) fun _ h₁ g₁ hk₁ _ => ih hk₁.inv ?_
      exact fun caseClass caseId a ha hnot =>
        hstops caseClass caseId a (List.mem_cons_of_mem _ ha) fun hc => hnot (hk₁.current hc)

/-! ## The functions of the tests -/

/-- The functions that an assertion asks for. -/
def Callee.Required : Callee → Prop
  | support _ | enable _ | disable _ | check _ | groupSetup _ => True
  | _ => False

def Callee.testCase : Callee → Option ℕ
  | caseSetup testCase | caseRun testCase | caseTeardown testCase => some testCase
  | _ => none

theorem Callee.Required.testCase_eq {callee : Callee} (h : callee.Required) :
    callee.testCase = none := by
  cases callee <;> first | rfl | cases h

/-- No assertion stops the tests: those functions are there, and each of them returns, after it
has recorded results of assertions only of its own case. -/
structure Tests.Complete (tests : Tests ω) : Prop where
  present : ∀ callee : Callee, callee.Required → tests.present callee = true
  returns : ∀ callee h action world, tests.call callee h action world ≠ none
  records : ∀ callee h action world answer, tests.call callee h action world = some answer →
    ∀ caseClass caseId a, .assertion caseClass caseId a ∈ answer.2.1 →
      ∃ testCase d, callee.testCase = some testCase ∧ h.Holds .runTestCase d testCase ∧
        d.classId = caseClass ∧ d.caseId = caseId

section Tests

variable (tests : Tests ω)

theorem runs_ask (hi : Inv R X h g) (callee : Callee) (action : Runner.Action) :
    Runs (¬tests.Complete) (ask tests callee action) h g fun answer h' g' =>
      Kept R X h g h' g' ∧ (tests.Complete → ∀ caseClass caseId a,
        .assertion caseClass caseId a ∈ answer.2.1 → ∃ testCase d,
          callee.testCase = some testCase ∧ h'.Holds .runTestCase d testCase ∧
            d.classId = caseClass ∧ d.caseId = caseId) := by
  unfold Runs ask
  dsimp only
  cases hcall : tests.call callee h action g.world with
  | none => exact Checked.ends_error.mpr ⟨rfl, fun hc => hc.returns _ _ _ _ hcall⟩
  | some answer =>
      exact ⟨hi.kept hi.built (Adds.refl _ h) ⟨rfl, rfl, rfl⟩,
        fun hc => hc.records _ _ _ _ _ hcall⟩

/-- The functions of groups and of config items record no results of assertions. -/
theorem runs_exec (hi : Inv R X h g) (callee : Callee) (hcallee : callee.testCase = none) :
    Runs (¬tests.Complete) (exec tests callee) h g fun _ h' g' => Kept R X h g h' g' := by
  refine Runs.kept_bind (runs_ask tests hi callee .run) ?_
  rintro ⟨ret, calls, action⟩ h₁ g₁ hk₁ hrecords
  refine Runs.kept_bind (Runs.with_true (runs_applyCalls hk₁.inv ?_)) ?_
  · rintro caseClass caseId a ha - hcomplete
    obtain ⟨testCase, d, hsome, -⟩ := hrecords hcomplete caseClass caseId a ha
    cases hcallee.symm.trans hsome
  · rintro - h₂ g₂ hk₂ -
    exact Runs.pure hk₂.inv.kept_refl

theorem runs_setAction (hi : Inv R X h g) {context : ℕ} (hc : h.Is .caseContext context)
    (action : Runner.Action) :
    Runs stops (setAction (some context) action) h g fun _ h' g' => Kept R X h g h' g' := by
  obtain ⟨b, hb, hkind⟩ := hc
  refine Runs.bind_deref hb hkind ?_
  let d : Data := { b.data with action }
  have hgrows := grows_setData hb d
  have hbuilt : Built R X (h.set context (some { b with data := d })) := by
    refine ⟨hi.built.forest.setData hb d, fun k f a ha hneeds hX => ?_⟩
    obtain ⟨q, hq⟩ := hi.built.complete k f a ((is_setData_iff hb d).mp ha) hneeds hX
    exact ⟨q, hgrows.owns hq⟩
  have hadds : Adds isResult h (h.set context (some { b with data := d })) :=
    ⟨hgrows, fun _ _ _ hk hd => holds_setData hb d (fun heq => hk (heq.symm.trans hkind)) hd,
      fun a k hk => Or.inl ((is_setData_iff hb d).mp hk)⟩
  exact hi.kept hbuilt hadds ⟨rfl, rfl, rfl⟩

/-- The functions of a case record results of assertions while its result is filled. -/
theorem runs_execCase (hi : Inv R X h g) {callee : Callee} {testCase : ℕ}
    (hcallee : callee.testCase = some testCase) (hfills : Fills h g testCase) {context : ℕ}
    (hc : h.Is .caseContext context) :
    Runs (¬tests.Complete) (execCase tests callee (some context)) h g
      fun _ h' g' => Kept R X h g h' g' := by
  obtain ⟨b, hb, hkind⟩ := hc
  refine Runs.bind_deref hb hkind ?_
  refine Runs.kept_bind (runs_ask tests hi callee b.data.action) ?_
  rintro ⟨ret, calls, action⟩ h₁ g₁ hk₁ hrecords
  have hcalls : ∀ caseClass caseId a, .assertion caseClass caseId a ∈ calls →
      ¬Current h₁ g₁ caseClass caseId → ¬tests.Complete := by
    intro caseClass caseId a ha hnot hcomplete
    obtain ⟨t, d, ht, hd, rfl, rfl⟩ := hrecords hcomplete caseClass caseId a ha
    obtain rfl := Option.some.inj (hcallee.symm.trans ht)
    obtain ⟨d', hd', hcurrent⟩ := hk₁.fills hfills
    exact hnot (hd.unique hd' ▸ hcurrent)
  refine Runs.kept_bind (Runs.with_true (runs_applyCalls hk₁.inv hcalls)) ?_
  rintro - h₂ g₂ hk₂ -
  have hc₂ : h₂.Is .caseContext context := (hk₁.trans hk₂).adds.is ⟨b, hb, hkind⟩
  refine Runs.kept_bind (Runs.with_true (runs_setAction hk₂.inv hc₂ action)) ?_
  rintro - h₃ g₃ hk₃ -
  exact Runs.pure hk₃.inv.kept_refl

/-! ## The items of a configuration -/

/-- All blocks of the kind are below the bound of a walk. -/
def Within (k : Kind) (n : ℕ) (h : TestHeap) : Prop := ∀ a, h.Is k a → a < n

theorem Inv.within (hi : Inv R X h g) (k : Kind) : Within k h.next h :=
  fun _ ha => hi.built.forest.lt_next ha.live

theorem Within.kept {k : Kind} {n : ℕ} (hw : Within k n h) (hk : ¬isResult k)
    (hkept : Kept R X h g h' g') : Within k n h' :=
  fun a ha => hw a ((hkept.adds.kinds a k ha).resolve_right fun hnew => hk hnew.2)

/-- The next block of a walk is a block of the kind, and the walk gets nearer to its bound. -/
theorem Inv.next (hi : Inv R X h g) {k : Kind} {a : ℕ} {b : Block Kind Field Data}
    (hb : h.block a = some b) (hkind : b.kind = k) (hnext : owns k .next = some k) {n fuel : ℕ}
    (hfuel : n ≤ a + (fuel + 1)) :
    ∀ x, b.links .next = some x → h.Is k x ∧ n ≤ x + fuel := by
  intro x hx
  obtain ⟨hlt, hk⟩ := hi.built.link hb hkind hx hnext
  exact ⟨hk, by omega⟩

theorem runs_doRunTestConfig {callee : ℕ → Callee} (hrequired : ∀ p, (callee p).Required)
    {n fuel p : ℕ} (hi : Inv R X h g)
    (hw : Within .runTestConfigItem n h) (hp : h.Is .runTestConfigItem p)
    (hfuel : n ≤ p + fuel) :
    Runs (¬tests.Complete) (doRunTestConfig tests callee fuel (some p)) h g
      fun _ h' g' => Kept R X h g h' g' := by
  induction fuel generalizing p h g with
  | zero => exact absurd (hw p hp) (Nat.not_lt.mpr hfuel)
  | succ fuel ih =>
      have hp' := hp
      obtain ⟨b, hb, hkind⟩ := hp
      rw [doRunTestConfig]
      refine Runs.bind_deref hb hkind ?_
      split
      · rename_i habsent
        exact Runs.stopped fun hc => by simp [hc.present _ (hrequired p)] at habsent
      · refine Runs.kept_bind (Runs.with_true (runs_exec tests hi _ (hrequired p).testCase_eq)) ?_
        rintro ret h₁ g₁ hk₁ -
        obtain ⟨b₁, hb₁, hkind₁⟩ := hk₁.adds.is hp'
        refine Runs.bind_getLink hb₁ hkind₁ ?_
        split
        · cases hnext : b₁.links .next with
          | none =>
              rename_i hcond
              simp [hnext] at hcond
          | some x =>
              obtain ⟨hx, hfuel'⟩ := hk₁.inv.next hb₁ hkind₁ rfl hfuel x hnext
              exact ih hk₁.inv (hw.kept (by simp [isResult]) hk₁) hx hfuel'
        · exact Runs.pure hk₁.inv.kept_refl

theorem runs_doRunTestConfigItems {callee : ℕ → Callee} (hrequired : ∀ p, (callee p).Required)
    {rtc : ℕ} (hi : Inv R X h g) (hrtc : h.Is .runTestConfig rtc) :
    Runs (¬tests.Complete) (doRunTestConfigItems tests callee rtc) h g
      fun _ h' g' => Kept R X h g h' g' := by
  obtain ⟨b, q, c, hb, hkind, hq, hc, hckind⟩ :=
    hi.needed (f := .configItem) hrtc (by decide) rfl rfl
  refine Runs.bind_getLink hb hkind (Runs.bind_bound ?_)
  rw [hq]
  exact runs_doRunTestConfig tests hrequired hi (hi.within _) ⟨c, hc, hckind⟩ (Nat.le_add_left ..)

/-- A program whose result is not used. -/
theorem Runs.kept_discard {m : HeapM ω α}
    (hm : Runs stops m h g fun _ h' g' => Kept R X h g h' g') :
    Runs stops (do let _ ← m; pure ()) h g fun _ h' g' => Kept R X h g h' g' :=
  Runs.kept_bind (Runs.with_true hm) fun _ _ _ hk _ => Runs.pure hk.inv.kept_refl

/-! ## A case -/

theorem runs_doRunTestCase (configCheckRequired : ℕ → Bool) {testCase rtc : ℕ}
    (hi : Inv R X h g) (hfills : Fills h g testCase) (hrtc : h.Is .runTestConfig rtc) :
    Runs (¬tests.Complete) (doRunTestCase tests configCheckRequired testCase rtc) h g
      fun _ h' g' => Kept R X h g h' g' := by
  have hfills' := hfills
  obtain ⟨d, hcase, -⟩ := hfills'
  obtain ⟨b, context, c, hb, hkind, hq, hc, hckind⟩ :=
    hi.needed (f := .testContext) hcase.is (by decide) rfl rfl
  have hcontext : h.Is .caseContext context := ⟨c, hc, hckind⟩
  have hexec : ∀ {callee : Callee} {h₁ g₁}, callee.testCase = some testCase →
      Kept R X h g h₁ g₁ → Runs (¬tests.Complete) (execCase tests callee (some context)) h₁ g₁
        fun _ h' g' => Kept R X h₁ g₁ h' g' := fun hcallee hk =>
    runs_execCase tests hk.inv hcallee (hk.fills hfills) (hk.adds.is hcontext)
  have hitems : ∀ {callee : ℕ → Callee} {h₁ g₁}, (∀ p, (callee p).Required) →
      Kept R X h g h₁ g₁ → Runs (¬tests.Complete) (doRunTestConfigItems tests callee rtc) h₁ g₁
        fun _ h' g' => Kept R X h₁ g₁ h' g' := fun hrequired hk =>
    runs_doRunTestConfigItems tests hrequired hk.inv (hk.adds.is hrtc)
  refine Runs.bind_getLink hb hkind ?_
  rw [hq]
  refine Runs.bind_deref hc hckind ?_
  split
  · exact Runs.pure hi.kept_refl
  refine Runs.kept_bind (Runs.with_true (hitems (fun _ => trivial) hi.kept_refl)) ?_
  rintro supported h₁ g₁ hk₁ -
  split
  · exact Runs.pure hk₁.inv.kept_refl
  refine Runs.kept_bind (Runs.with_true (hitems (fun _ => trivial) hk₁)) ?_
  rintro enabled h₂ g₂ hk₂ -
  have hk₀₂ := hk₁.trans hk₂
  split
  · exact Runs.pure hk₂.inv.kept_refl
  have hsetup : Runs (¬tests.Complete) (runSetup tests testCase (some context)) h₂ g₂
      fun _ h' g' => Kept R X h₂ g₂ h' g' := by
    unfold runSetup
    split
    · refine Runs.kept_bind (Runs.with_true (hexec rfl hk₀₂)) ?_
      rintro ret h₃ g₃ hk₃ -
      have hcontext₃ := (hk₀₂.trans hk₃).adds.is hcontext
      refine Runs.kept_bind (Runs.with_true (Runs.onlyIf hk₃.inv
        (runs_setAction hk₃.inv hcontext₃ .skip))) ?_
      rintro - h₄ g₄ hk₄ -
      exact Runs.pure hk₄.inv.kept_refl
    · exact Runs.pure hk₂.inv.kept_refl
  refine Runs.kept_bind (Runs.with_true hsetup) ?_
  rintro ret h₃ g₃ hk₃ -
  have hk₀₃ := hk₀₂.trans hk₃
  obtain ⟨c₃, hc₃, hckind₃⟩ := hk₀₃.adds.is hcontext
  refine Runs.bind_deref hc₃ hckind₃ ?_
  have hrun : Runs (¬tests.Complete)
      (runCase tests configCheckRequired testCase rtc (some context)) h₃ g₃
      fun _ h' g' => Kept R X h₃ g₃ h' g' := by
    refine Runs.kept_bind (Runs.with_true (Runs.onlyIf hk₃.inv (Runs.kept_discard
      (hexec rfl hk₀₃)))) ?_
    rintro - h₄ g₄ hk₄ -
    exact Runs.onlyIf hk₄.inv (Runs.kept_discard (hitems (fun _ => trivial) (hk₀₃.trans hk₄)))
  refine Runs.kept_bind (Runs.with_true (Runs.onlyIf hk₃.inv hrun)) ?_
  rintro - h₄ g₄ hk₄ -
  have hk₀₄ := hk₀₃.trans hk₄
  refine Runs.kept_bind (Runs.with_true (Runs.onlyIf hk₄.inv (Runs.kept_discard
    (hexec rfl hk₀₄)))) ?_
  rintro - h₅ g₅ hk₅ -
  exact Runs.kept_discard (hitems (fun _ => trivial) (hk₀₄.trans hk₅))

/-! ## The cases of a group -/

theorem runs_allocRunTestCaseResult (hi : Inv R X h g) {gr testCase : ℕ}
    (hgr : h.Is .groupResult gr) (hcase : h.Is .runTestCase testCase) :
    Runs stops (allocRunTestCaseResult gr testCase : HeapM ω ℕ) h g fun cr h' g' =>
      Kept R X h g h' g' ∧ g' = g ∧ (∃ b, h'.Holds .runTestCase b testCase ∧
        h'.Holds .caseResult ⟨b.classId, b.caseId, 0, .run⟩ cr) ∧
        ∃ q, h'.Owns gr .caseResult q := by
  obtain ⟨b, hb, hkind⟩ := hcase
  refine Runs.bind_deref hb hkind (Runs.bind_malloc ?_)
  refine (hi.runs_append hgr rfl rfl (fun _ => rfl) (by simp [isResult])).bind ?_
  rintro - h₁ g₁ ⟨hk₁, rfl, hholds, hlinked⟩
  exact Runs.pure ⟨hk₁, rfl,
    ⟨b.data, hk₁.adds.holds _ _ _ (by decide) ⟨b, hb, hkind, rfl⟩, hholds⟩, hlinked⟩

theorem Inv.setCaseResult (hi : Inv R X h g) {p : Option ℕ}
    (hp : ∀ cr, p = some cr →
      h.Is .caseResult cr ∧ ∃ gr, g.currentGroupResult = some gr) :
    Inv R X h { g with currentCaseResult := p } :=
  ⟨hi.built, ⟨hi.cursors.config, hi.cursors.group, hp⟩, hi.unfinished⟩

theorem runs_runTestCases (configCheckRequired : ℕ → Bool) (groupSetupResult : Bool)
    {rtc gr n fuel : ℕ} {p : Option ℕ} (hi : Inv R X h g) (hrtc : h.Is .runTestConfig rtc)
    (hgr : h.Is .groupResult gr) (hgroup : g.currentGroupResult = some gr)
    (hnone : g.currentCaseResult = none) (hw : Within .runTestCase n h)
    (hp : ∀ a, p = some a → h.Is .runTestCase a ∧ n ≤ a + fuel) :
    Runs (¬tests.Complete)
      (runTestCases tests configCheckRequired groupSetupResult rtc gr fuel p) h g
      fun _ h' g' => Kept R X h g h' g' ∧ (p ≠ none → ∃ q, h'.Owns gr .caseResult q) := by
  induction fuel generalizing p h g with
  | zero =>
      cases p with
      | none => exact Runs.pure ⟨hi.kept_refl, fun hne => absurd rfl hne⟩
      | some a =>
          obtain ⟨ha, hle⟩ := hp a rfl
          exact absurd (hw a ha) (Nat.not_lt.mpr hle)
  | succ fuel ih =>
      cases p with
      | none => exact Runs.pure ⟨hi.kept_refl, fun hne => absurd rfl hne⟩
      | some a =>
          obtain ⟨ha, hfuel⟩ := hp a rfl
          refine (runs_allocRunTestCaseResult hi hgr ha).bind ?_
          rintro cr h₁ g₁ ⟨hk₁, rfl, ⟨d, hcase, hcr⟩, q, hq⟩
          have hi₁ := hk₁.inv.setCaseResult (p := some cr) fun x hx =>
            ⟨Option.some.inj hx ▸ hcr.is, gr, hgroup⟩
          have hrun := Runs.onlyIf (c := groupSetupResult) hi₁ (runs_doRunTestCase tests
            configCheckRequired hi₁ ⟨d, hcase, cr, _, rfl, hcr, rfl, rfl⟩ (hk₁.adds.is hrtc))
          refine Runs.bind_setCaseResult ?_
          refine hrun.bind ?_
          rintro - h₃ g₃ hk₃
          obtain ⟨b, hb, hkind⟩ := (hk₁.adds.trans hk₃.adds).is ha
          refine Runs.bind_getLink hb hkind ?_
          refine Runs.bind_setCaseResult ?_
          have hi₄ := hk₃.inv.setCaseResult (p := none) fun x hx =>
            absurd hx (Option.some_ne_none x).symm
          have hk : Kept R X h g₁ h₃ { g₃ with currentCaseResult := none } :=
            ⟨hi₄, ⟨hk₃.cursors.1, hk₃.cursors.2.1, hnone.symm⟩, hk₁.adds.trans hk₃.adds⟩
          refine (ih hi₄ (hk.adds.is hrtc) (hk.adds.is hgr) (hk₃.cursors.2.1.trans hgroup) rfl
            (hw.kept (by simp [isResult]) hk) (hi₄.next hb hkind rfl hfuel)).mono ?_
          rintro - h₅ g₅ ⟨hk₅, -⟩
          exact ⟨hk.trans hk₅, fun _ => ⟨q, (hk₃.adds.trans hk₅.adds).owns hq⟩⟩

/-- The tests have a teardown function for every group that they have a setup function for. -/
def Tests.Paired : Prop :=
  ∀ group, tests.present (.groupSetup group) = true → tests.present (.groupTeardown group) = true

theorem runs_teardownGroup (hi : Inv R X h g) {group : ℕ}
    (hpresent : tests.present (.groupTeardown group) = true) :
    Runs (¬tests.Complete) (teardownGroup tests group) h g fun _ h' g' => Kept R X h g h' g' := by
  rw [teardownGroup, hpresent]
  exact Runs.kept_discard (runs_exec tests hi _ rfl)

variable {tests} (hpaired : tests.Paired)

include hpaired

theorem runs_doRunTestGroup (configCheckRequired : ℕ → Bool) {group rtc gr : ℕ}
    (hi : Inv R X h g) (hisgroup : h.Is .runTestGroup group) (hrtc : h.Is .runTestConfig rtc)
    (hgr : h.Is .groupResult gr) (hgroup : g.currentGroupResult = some gr)
    (hnone : g.currentCaseResult = none) :
    Runs (¬tests.Complete) (doRunTestGroup tests configCheckRequired group rtc gr) h g
      fun _ h' g' => Kept R X h g h' g' ∧ ∃ q, h'.Owns gr .caseResult q := by
  obtain ⟨b, q, c, hb, hkind, hq, hc, hckind⟩ :=
    hi.needed (f := .testContext) hisgroup (by decide) rfl rfl
  refine Runs.bind_getLink hb hkind ?_
  rw [hq]
  refine Runs.bind_deref hc hckind ?_
  obtain ⟨b', q', c', hb', hkind', hq', hc', hckind'⟩ :=
    hi.needed (f := .testContext) hrtc (by decide) rfl rfl
  refine Runs.bind_deref hb' hkind' (Runs.bind_getLink hb' hkind' ?_)
  rw [hq']
  refine Runs.bind_deref hc' hckind' ?_
  obtain ⟨b₁, testCase, c₁, hb₁, hkind₁, hcase, hc₁, hckind₁⟩ :=
    hi.needed (f := .testCase) hisgroup (by decide) rfl rfl
  refine Runs.bind_getLink hb₁ hkind₁ ?_
  rw [hcase]
  dsimp only
  split
  · rename_i habsent
    refine Runs.stopped fun hc => ?_
    simp [hc.present (.groupSetup group) trivial] at habsent
  rename_i hpresent
  have hteardown := hpaired group (by simpa using hpresent)
  refine (runs_exec tests hi (.groupSetup group) rfl).bind ?_
  rintro setupResult h₂ g₂ hk₂
  refine Runs.bind_bound ?_
  have hcase₂ : ∀ a, some testCase = some a → h₂.Is .runTestCase a ∧ h₂.next ≤ a + h₂.next := by
    rintro a ha
    cases ha
    exact ⟨hk₂.adds.is ⟨c₁, hc₁, hckind₁⟩, Nat.le_add_left ..⟩
  refine (runs_runTestCases tests configCheckRequired setupResult hk₂.inv (hk₂.adds.is hrtc)
    (hk₂.adds.is hgr) (hk₂.cursors.2.1.trans hgroup) (hk₂.cursors.2.2.trans hnone)
    (hk₂.inv.within _) hcase₂).bind ?_
  rintro - h₃ g₃ ⟨hk₃, hlinked⟩
  obtain ⟨r, hr⟩ := hlinked (Option.some_ne_none _)
  refine (Runs.onlyIf (c := setupResult) hk₃.inv
    (runs_teardownGroup tests hk₃.inv hteardown)).bind ?_
  rintro - h₄ g₄ hk₄
  have hk := (hk₂.trans hk₃).trans hk₄
  obtain ⟨c₄, hc₄, hckind₄⟩ := hk.adds.is (k := .configContext) ⟨c', hc', hckind'⟩
  exact Runs.bind_deref hc₄ hckind₄ (Runs.pure ⟨hk, r, hk₄.adds.owns hr⟩)

/-! ## The groups of a suite -/

omit hpaired in
theorem runs_allocRunTestGroupResult (hi : Inv R X h g) {cr group : ℕ}
    (hcr : h.Is .configResult cr) (hisgroup : h.Is .runTestGroup group) :
    Runs stops (allocRunTestGroupResult group cr : HeapM ω ℕ) h g fun gr h' g' =>
      g' = g ∧ gr ∉ X ∧ Built R (insert gr X) h' ∧ Adds isResult h h' ∧
        h'.Is .groupResult gr := by
  obtain ⟨b, hb, hkind⟩ := hisgroup
  refine Runs.bind_deref hb hkind (Runs.bind_malloc ?_)
  have hadds : Adds isResult h (h.alloc .groupResult .zero) :=
    (hi.built.adds_alloc .groupResult .zero).mono fun k' hk' => Or.inr (Or.inl hk')
  refine ((hi.built.alloc .groupResult .zero).runs_appendLink (hadds.is hcr) rfl rfl
    is_alloc_self hi.built.newest_alloc (hi.built.forest.lt_next hcr.live) (Set.mem_insert ..)
    isResult).bind ?_
  rintro - h' g' ⟨rfl, hb', hadds', -⟩
  rw [root_diff_self _ hi.built.notMem_roots] at hb'
  have hX : h.next ∉ X := fun hmem =>
    absurd (hi.built.forest.lt_next (hi.unfinished _ hmem).live) (Nat.lt_irrefl _)
  exact Runs.pure ⟨rfl, hX, hb', hadds.trans hadds', hadds'.is is_alloc_self⟩

theorem runs_runTestGroups (configCheckRequired : ℕ → Bool) {rtc cr n fuel : ℕ}
    {p : Option ℕ} (hi : Inv R X h g) (hrtc : h.Is .runTestConfig rtc)
    (hcr : h.Is .configResult cr) (hconfig : g.currentConfigResult = some cr)
    (hnoGroup : g.currentGroupResult = none) (hnone : g.currentCaseResult = none)
    (hw : Within .runTestGroup n h)
    (hp : ∀ a, p = some a → h.Is .runTestGroup a ∧ n ≤ a + fuel) :
    Runs (¬tests.Complete) (runTestGroups tests configCheckRequired rtc cr fuel p) h g
      fun cursor h' g' => Kept R X h g h' g' ∧ cursor = none := by
  induction fuel generalizing p h g with
  | zero =>
      cases p with
      | none => exact Runs.pure ⟨hi.kept_refl, rfl⟩
      | some a =>
          obtain ⟨ha, hle⟩ := hp a rfl
          exact absurd (hw a ha) (Nat.not_lt.mpr hle)
  | succ fuel ih =>
      cases p with
      | none => exact Runs.pure ⟨hi.kept_refl, rfl⟩
      | some a =>
          obtain ⟨ha, hfuel⟩ := hp a rfl
          refine (runs_allocRunTestGroupResult hi hcr ha).bind ?_
          rintro gr h₁ g₁ ⟨rfl, hX, hb₁, hadds₁, hgr⟩
          refine Runs.bind_setGroupResult ?_
          have hc₁ : Cursors h₁ g₁ := hi.cursors.mono hadds₁ ⟨rfl, rfl, rfl⟩
          have hi₁ : Inv R (insert gr X) h₁ { g₁ with currentGroupResult := some gr } := by
            refine ⟨hb₁, ⟨hc₁.config, fun x hx => ⟨Option.some.inj hx ▸ hgr, cr, hconfig⟩,
              fun x hx => absurd (hnone.symm.trans hx) (Option.some_ne_none x).symm⟩, ?_⟩
            intro x hx
            rcases hx with rfl | hx
            · exact hgr
            · exact hadds₁.is (hi.unfinished x hx)
          refine (runs_doRunTestGroup hpaired configCheckRequired hi₁ (hadds₁.is ha)
            (hadds₁.is hrtc) hgr rfl hnone).bind ?_
          rintro - h₃ g₃ ⟨hk₃, q, hq⟩
          have hgr₃ := hk₃.adds.is hgr
          have hb₃ : Built R X h₃ := hk₃.inv.built.finish fun k f hk hneeds => by
            obtain rfl := hk.kind_unique hgr₃
            obtain rfl : f = .caseResult := by
              cases f <;> first | rfl | cases hneeds
            exact ⟨q, hq⟩
          obtain ⟨b, hb, hkind⟩ := (hadds₁.trans hk₃.adds).is ha
          refine Runs.bind_getLink hb hkind ?_
          refine Runs.bind_setGroupResult ?_
          have hcase : g₃.currentCaseResult = none := hk₃.cursors.2.2.trans hnone
          have hk : Kept R X h g₁ h₃ { g₃ with currentGroupResult := none } :=
            hi.kept hb₃ (hadds₁.trans hk₃.adds)
              ⟨hk₃.cursors.1, hnoGroup.symm, hcase.trans hnone.symm⟩
          refine (ih hk.inv (hk.adds.is hrtc) (hk.adds.is hcr) (hk.cursors.1.trans hconfig) rfl
            hcase (hw.kept (by simp [isResult]) hk) (hk.inv.next hb hkind rfl hfuel)).mono ?_
          rintro cursor h₅ g₅ ⟨hk₅, hcursor⟩
          exact ⟨hk.trans hk₅, hcursor⟩

/-! ## The suites -/

omit hpaired in
theorem runs_allocRunTestConfigResult (hi : Inv R X h g) {suite rtc : ℕ}
    (hsuite : h.Is .runTestSuite suite) (hrtc : h.Is .runTestConfig rtc) :
    Runs stops (allocRunTestConfigResult suite rtc : HeapM ω ℕ) h g fun cr h' g' =>
      Kept R X h g h' g' ∧ g' = g ∧ h'.Is .configResult cr := by
  obtain ⟨b, context, c, hb, hkind, hq, hc, hckind⟩ :=
    hi.needed (f := .testContext) hsuite (by decide) rfl rfl
  have hadds : Adds isResult h (h.alloc .configResult .zero) :=
    (hi.built.adds_alloc .configResult .zero).mono fun k' hk' => Or.inl hk'
  refine Runs.bind_malloc ?_
  obtain ⟨br, hbr, hkindr⟩ := hadds.is hrtc
  refine Runs.bind_deref hbr hkindr ?_
  have hblock : (h.alloc .configResult .zero).block suite = some b :=
    (block_alloc_of_ne (Nat.ne_of_lt (hi.built.forest.lt_next hsuite.live))).trans hb
  have happend : Runs stops (appendConfigResult suite h.next : HeapM ω Unit)
      (h.alloc .configResult .zero) g fun _ h' g' =>
        Kept R X h g h' g' ∧ g' = g ∧ h'.Is .configResult h.next := by
    refine Runs.bind_getLink hblock hkind ?_
    rw [hq]
    exact (hi.runs_append ⟨c, hc, hckind⟩ rfl rfl (fun _ => rfl) (by simp [isResult])).mono
      fun _ _ _ hk => ⟨hk.1, hk.2.1, hk.2.2.1.is⟩
  exact happend.bind fun _ _ _ hk => Runs.pure hk

theorem runs_runTestConfigs (configCheckRequired : ℕ → Bool) {suite n fuel : ℕ}
    {p cursor : Option ℕ} (hi : Inv R X h g) (hsuite : h.Is .runTestSuite suite)
    (hnoConfig : g.currentConfigResult = none) (hnoGroup : g.currentGroupResult = none)
    (hnone : g.currentCaseResult = none) (hw : Within .runTestConfig n h)
    (hp : ∀ a, p = some a → h.Is .runTestConfig a ∧ n ≤ a + fuel)
    (hcursor : ∀ a, cursor = some a → h.Is .runTestGroup a) :
    Runs (¬tests.Complete) (runTestConfigs tests configCheckRequired suite fuel p cursor) h g
      fun _ h' g' => Kept R X h g h' g' := by
  induction fuel generalizing p cursor h g with
  | zero =>
      cases p with
      | none => exact Runs.pure hi.kept_refl
      | some a =>
          obtain ⟨ha, hle⟩ := hp a rfl
          exact absurd (hw a ha) (Nat.not_lt.mpr hle)
  | succ fuel ih =>
      cases p with
      | none => exact Runs.pure hi.kept_refl
      | some a =>
          obtain ⟨ha, hfuel⟩ := hp a rfl
          refine (runs_allocRunTestConfigResult hi hsuite ha).bind ?_
          rintro cr h₁ g₁ ⟨hk₁, rfl, hcr⟩
          refine Runs.bind_setConfigResult ?_
          have hi₁ : Inv R X h₁ { g₁ with currentConfigResult := some cr } :=
            ⟨hk₁.inv.built, ⟨fun x hx => Option.some.inj hx ▸ hcr,
              fun x hx => absurd (hnoGroup.symm.trans hx) (Option.some_ne_none x).symm,
              fun x hx => absurd (hnone.symm.trans hx) (Option.some_ne_none x).symm⟩,
              hk₁.inv.unfinished⟩
          refine Runs.bind_bound ?_
          refine (runs_runTestGroups hpaired configCheckRequired hi₁ (hk₁.adds.is ha) hcr rfl
            hnoGroup hnone (hi₁.within _)
            fun x hx => ⟨hk₁.adds.is (hcursor x hx), Nat.le_add_left ..⟩).bind ?_
          rintro cursor' h₃ g₃ ⟨hk₃, rfl⟩
          obtain ⟨b, hb, hkind⟩ := (hk₁.adds.trans hk₃.adds).is ha
          refine Runs.bind_getLink hb hkind ?_
          refine Runs.bind_setConfigResult ?_
          have hgroup : g₃.currentGroupResult = none := hk₃.cursors.2.1.trans hnoGroup
          have hcase : g₃.currentCaseResult = none := hk₃.cursors.2.2.trans hnone
          have hk : Kept R X h g₁ h₃ { g₃ with currentConfigResult := none } :=
            hi.kept hk₃.inv.built (hk₁.adds.trans hk₃.adds)
              ⟨hnoConfig.symm, hgroup.trans hnoGroup.symm, hcase.trans hnone.symm⟩
          refine (ih hk.inv (hk.adds.is hsuite) rfl hgroup hcase
            (hw.kept (by simp [isResult]) hk) (hk.inv.next hb hkind rfl hfuel)
            fun x hx => absurd hx (Option.some_ne_none x).symm).mono ?_
          exact fun _ _ _ hk₅ => hk.trans hk₅

theorem runs_doRunTestSuite (configCheckRequired : ℕ → Bool) {suite : ℕ} (hi : Inv R X h g)
    (hsuite : h.Is .runTestSuite suite) (hnoConfig : g.currentConfigResult = none)
    (hnoGroup : g.currentGroupResult = none) (hnone : g.currentCaseResult = none) :
    Runs (¬tests.Complete) (doRunTestSuite tests configCheckRequired suite) h g
      fun _ h' g' => Kept R X h g h' g' := by
  obtain ⟨b, context, c, hb, hkind, hq, hc, hckind⟩ :=
    hi.needed (f := .testContext) hsuite (by decide) rfl rfl
  refine Runs.bind_getLink hb hkind (Runs.bind_getLink hb hkind
    (Runs.bind_getLink hb hkind ?_))
  rw [hq]
  refine Runs.bind_deref hc hckind (Runs.bind_bound ?_)
  exact runs_runTestConfigs hpaired configCheckRequired hi hsuite hnoConfig hnoGroup hnone
    (hi.within _) (fun a ha => ⟨(hi.built.link hb hkind ha rfl).2, Nat.le_add_left ..⟩)
    fun a ha => (hi.built.link hb hkind ha rfl).2

theorem runs_runTestSuites (configCheckRequired : ℕ → Bool) {n fuel : ℕ} {p : Option ℕ}
    (hi : Inv R X h g) (hnoConfig : g.currentConfigResult = none)
    (hnoGroup : g.currentGroupResult = none) (hnone : g.currentCaseResult = none)
    (hw : Within .runTestSuite n h)
    (hp : ∀ a, p = some a → h.Is .runTestSuite a ∧ n ≤ a + fuel) :
    Runs (¬tests.Complete) (runTestSuites tests configCheckRequired fuel p) h g
      fun _ h' g' => Kept R X h g h' g' := by
  induction fuel generalizing p h g with
  | zero =>
      cases p with
      | none => exact Runs.pure hi.kept_refl
      | some a =>
          obtain ⟨ha, hle⟩ := hp a rfl
          exact absurd (hw a ha) (Nat.not_lt.mpr hle)
  | succ fuel ih =>
      cases p with
      | none => exact Runs.pure hi.kept_refl
      | some a =>
          obtain ⟨ha, hfuel⟩ := hp a rfl
          refine Runs.kept_bind (Runs.with_true (runs_doRunTestSuite hpaired configCheckRequired
            hi ha hnoConfig hnoGroup hnone)) ?_
          rintro - h₁ g₁ hk₁ -
          obtain ⟨b, hb, hkind⟩ := hk₁.adds.is ha
          refine Runs.bind_getLink hb hkind ?_
          exact ih hk₁.inv (hk₁.cursors.1.trans hnoConfig) (hk₁.cursors.2.1.trans hnoGroup)
            (hk₁.cursors.2.2.trans hnone) (hw.kept (by simp [isResult]) hk₁)
            (hk₁.inv.next hb hkind rfl hfuel)

end Tests

end TeeIoValidator.TestData
