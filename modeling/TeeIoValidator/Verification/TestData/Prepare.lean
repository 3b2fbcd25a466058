import TeeIoValidator.Verification.TestData.Blocks

/-! `prepare_tests_data` builds a forest of blocks without a pointer that is followed wrongly,
when the checks of the configuration succeed. -/

namespace TeeIoValidator.TestData

open Ownership IniConfig

variable {ω α β : Type} {R X : Set ℕ} {h : TestHeap} {g : Globals ω}

theorem Runs.bind_check {c : IniConfig.Checked α} {a : α} (hc : c = .ok a)
    {next : α → HeapM ω β} {post : β → TestHeap → Globals ω → Prop}
    (hnext : Runs False (next a) h g post) : Runs False (check c >>= next) h g post := by
  subst hc
  exact hnext

/-! ## A block with its context -/

theorem root_diff_self (R : Set ℕ) {a : ℕ} (ha : a ∉ R) : insert a R \ {a} = R :=
  Set.insert_sdiff_self_of_notMem ha

/-- A block that gets a context after it. -/
structure Paired (R X : Set ℕ) (k kc : Kind) (h h' : TestHeap) : Prop where
  built : Built (insert h.next R) (insert h.next X) h'
  adds : Adds (fun k' => k' = k ∨ k' = kc) h h'
  is : h'.Is k h.next
  context : ∃ q, h'.Owns h.next .testContext q
  newest : k ≠ kc → ∀ a, h'.Is k a → a ≤ h.next

theorem Built.paired (hb : Built R X h) {k kc : Kind} {d : Data}
    (howns : owns k .testContext = some kc) (hkc : ∀ f, needs kc f = false) {h' : TestHeap}
    (hattach : Attaches h.next .testContext (h.alloc k d).next
      ((h.alloc k d).alloc kc .zero) h') : Paired R X k kc h h' := by
  have hb₁ := hb.alloc k d
  have hb₂ := hb₁.alloc_simple hkc .zero
  have hadds : Adds (fun k' => k' = k ∨ k' = kc) h ((h.alloc k d).alloc kc .zero) :=
    ((hb.adds_alloc k d).mono fun _ => Or.inl).trans
      ((hb₁.adds_alloc kc .zero).mono fun _ => Or.inr)
  have hadds' := hadds.trans (Adds.of_attaches hattach _)
  have hlt : h.next < (h.alloc k d).next := Nat.lt_succ_self _
  have hb₃ := hb₂.attach hattach ((hb₁.adds_alloc kc .zero).is is_alloc_self) howns
    is_alloc_self hlt (Set.mem_insert ..)
  rw [root_diff_self _ hb₁.notMem_roots] at hb₃
  refine ⟨hb₃, hadds', hattach.is_iff.mpr ((hb₁.adds_alloc kc .zero).is is_alloc_self),
    ⟨_, hattach.owns⟩, fun hne a ha => ?_⟩
  exact (hb₁.adds_alloc kc .zero).newest hne hb.newest_alloc a (hattach.is_iff.mp ha)

/-- The block is as `memset` left it when its context is there. -/
theorem block_alloc_alloc (h : TestHeap) (k kc : Kind) (d d' : Data) :
    ((h.alloc k d).alloc kc d').block h.next = some ⟨k, fun _ => none, d⟩ := by
  rw [block_alloc_of_ne (Nat.ne_of_lt (Nat.lt_succ_self _)), block_alloc_self]

theorem runs_allocRunTestSuite (hb : Built R X h) :
    Runs False (allocRunTestSuite : HeapM ω ℕ) h g fun rts h' g' => g' = g ∧ rts = h.next ∧
      Built (insert rts R) X h' ∧ Adds (fun k => k = .runTestSuite ∨ k = .suiteContext) h h' ∧
      h'.Is .runTestSuite rts ∧ ∀ a, h'.Is .runTestSuite a → a ≤ rts := by
  refine Runs.bind_malloc (Runs.bind_malloc ?_)
  have hblock := block_alloc_alloc h .runTestSuite .suiteContext .zero .zero
  refine Runs.bind_setLink hblock rfl (Runs.pure ?_)
  have hpaired := hb.paired rfl (fun _ => rfl) ⟨_, hblock, rfl, rfl⟩
  refine ⟨rfl, rfl, hpaired.built.finish fun k f hk hneeds => ?_, hpaired.adds, hpaired.is,
    hpaired.newest (by decide)⟩
  obtain rfl := hk.kind_unique hpaired.is
  obtain rfl : f = .testContext := by
    cases f <;> first | rfl | cases hneeds
  exact hpaired.context

/-! ## The configuration -/

section Config

variable {globals : IniConfig.Globals} {testConfig : IdeTestConfig} {rts rtc : ℕ}

theorem runs_allocRunTestConfigItem (hb : Built R X h) (hrtc : h.Is .runTestConfig rtc)
    {i : ℕ} {topType : IdeTestTopologyType} {testCategory : TeeioTestCategory}
    {item : IdeRunTestConfigItem}
    (hok : IniConfig.allocRunTestConfigItem i topType testCategory = .ok item) :
    Runs False (allocRunTestConfigItem rtc i topType testCategory : HeapM ω Unit) h g
      fun _ h' g' => g' = g ∧ Built R X h' ∧ Adds (· = .runTestConfigItem) h h' ∧
        ∃ q, h'.Owns rtc .configItem q := by
  refine Runs.bind_check hok (Runs.bind_malloc ?_)
  have hadds := hb.adds_alloc .runTestConfigItem .zero
  have hlt : rtc < h.next := hb.forest.lt_next hrtc.live
  refine ((hb.alloc_simple (fun _ => rfl) .zero).runs_appendLink (hadds.is hrtc) rfl rfl
    is_alloc_self hb.newest_alloc hlt (Set.mem_insert ..) (· = .runTestConfigItem)).mono ?_
  rintro - h' g' ⟨rfl, hb', hadds', -, hlinked, -⟩
  rw [root_diff_self _ hb.notMem_roots] at hb'
  exact ⟨rfl, hb', hadds.trans hadds', hlinked⟩

theorem runs_allocRunTestConfigItems (hb : Built R X h) (hrtc : h.Is .runTestConfig rtc)
    {configBits : ℕ} {topType : IdeTestTopologyType} {testCategory : TeeioTestCategory}
    {bits : List ℕ} {items items' : List IdeRunTestConfigItem} {offset offset' : ℕ}
    (hok : IniConfig.allocRunTestConfigItems globals configBits topType testCategory bits
      (items, offset) = .ok (items', offset')) :
    Runs False (allocRunTestConfigItems globals rtc configBits topType testCategory bits offset :
        HeapM ω ℕ) h g
      fun n h' g' => g' = g ∧ n = offset' ∧ Built R X h' ∧
        Adds (· = .runTestConfigItem) h h' ∧ (n = offset ∨ ∃ q, h'.Owns rtc .configItem q) := by
  induction bits generalizing items offset h g with
  | nil =>
      obtain ⟨-, rfl⟩ := Prod.mk.inj (Except.ok.inj hok)
      exact Runs.pure ⟨rfl, rfl, hb, Adds.refl _ h, Or.inl rfl⟩
  | cons i bits ih =>
      rw [IniConfig.allocRunTestConfigItems] at hok
      rw [allocRunTestConfigItems]
      by_cases hbit : configBits.testBit i
      · rw [if_pos hbit] at hok ⊢
        obtain ⟨item, hitem, hrest⟩ := Checked.bind_eq_ok.mp hok
        refine (runs_allocRunTestConfigItem hb hrtc hitem).bind ?_
        rintro - h₁ g₁ ⟨rfl, hb₁, hadds₁, q, hq⟩
        cases hname : getTestConfigurationName globals i testCategory with
        | none => rw [hname] at hrest; cases hrest
        | some name =>
            rw [hname] at hrest
            dsimp only at hrest ⊢
            by_cases hfits : offset + name.length + 1 < maxNameLength
            · rw [if_pos hfits] at hrest ⊢
              refine (ih hb₁ (hadds₁.is hrtc) hrest).mono ?_
              rintro n h₂ g₂ ⟨rfl, hn, hb₂, hadds₂, -⟩
              exact ⟨rfl, hn, hb₂, hadds₁.trans hadds₂, Or.inr ⟨q, hadds₂.owns hq⟩⟩
            · rw [if_neg hfits] at hrest
              cases hrest
      · rw [if_neg hbit] at hok ⊢
        exact ih hb hrtc hok

theorem runs_allocConfigBlocks (hb : Built R X h) (hrts : h.Is .runTestSuite rts)
    (hX : rts ∉ X) :
    Runs False (allocConfigBlocks rts : HeapM ω ℕ) h g fun rtc h' g' => g' = g ∧ rtc = h.next ∧
      Paired R X .runTestConfig .configContext h h' := by
  refine Runs.bind_malloc (Runs.bind_malloc ?_)
  have hb₁ := hb.alloc .runTestConfig .zero
  have hb₂ := hb₁.alloc_simple (k := .configContext) (fun _ => rfl) .zero
  have hlt : rts < h.next := hb.forest.lt_next hrts.live
  have hX₂ : rts ∉ insert h.next X := by
    rw [Set.mem_insert_iff, not_or]
    exact ⟨Nat.ne_of_lt hlt, hX⟩
  have hrts₂ := (hb₁.adds_alloc .configContext .zero).is
    ((hb.adds_alloc .runTestConfig .zero).is hrts)
  obtain ⟨b, q, hblock, hkind, hq, -, hqis⟩ :=
    hb₂.needed (f := .testContext) hrts₂ rfl hX₂ rfl
  refine Runs.bind_getLink hblock hkind ?_
  have hnew := block_alloc_alloc h .runTestConfig .configContext .zero .zero
  refine Runs.bind_setLink hnew rfl ?_
  have hattach : Attaches h.next .testContext (h.alloc .runTestConfig .zero).next
      ((h.alloc .runTestConfig .zero).alloc .configContext .zero) _ := ⟨_, hnew, rfl, rfl⟩
  rw [hq]
  obtain ⟨c, hc, hckind⟩ := hattach.is_iff.mpr hqis
  exact Runs.bind_deref hc hckind
    (Runs.pure ⟨rfl, rfl, hb.paired rfl (fun _ => rfl) hattach⟩)

/-- What the preparation of a part of a suite adds to it. -/
def configKinds (k : Kind) : Prop :=
  k = .runTestConfig ∨ k = .configContext ∨ k = .runTestConfigItem

theorem runs_allocRunTestConfig (hb : Built R X h) (hrts : h.Is .runTestSuite rts)
    (hX : rts ∉ X) {suite : IdeTestSuite} {items : List IdeRunTestConfigItem}
    (hok : IniConfig.allocRunTestConfig globals testConfig suite = .ok items) :
    Runs False (allocRunTestConfig globals testConfig rts suite : HeapM ω Unit) h g
      fun _ h' g' => g' = g ∧ Built R X h' ∧ Adds configKinds h h' := by
  unfold IniConfig.allocRunTestConfig at hok
  unfold allocRunTestConfig
  cases hconfig : getConfigurationById testConfig suite.configurationId with
  | none => rw [hconfig] at hok; cases hok
  | some configuration =>
      cases htop : getTopologyById testConfig suite.topologyId with
      | none => rw [hconfig, htop] at hok; cases hok
      | some top =>
          rw [hconfig, htop] at hok
          dsimp only at hok ⊢
          by_cases hchecks : (configuration.enabled && configuration.bitMap != 0 &&
              top.enabled && top.type == configuration.type) = true
          · rw [if_pos hchecks] at hok ⊢
            obtain ⟨bitmask, hbitmask, hok⟩ := Checked.bind_eq_ok.mp hok
            obtain ⟨⟨items', offset⟩, hitems, hok⟩ := Checked.bind_eq_ok.mp hok
            dsimp only at hok
            have hoffset : offset > 1 := by
              by_contra hle
              rw [if_neg hle] at hok
              cases hok
            refine (runs_allocConfigBlocks hb hrts hX).bind ?_
            rintro rtc h₁ g₁ ⟨rfl, rfl, hpaired⟩
            refine Runs.bind_check hbitmask ?_
            refine (runs_allocRunTestConfigItems hpaired.built hpaired.is hitems).bind ?_
            rintro n h₂ g₂ ⟨rfl, rfl, hb₂, hadds₂, hlinked⟩
            rw [if_pos hoffset]
            obtain ⟨q, hq⟩ := hlinked.resolve_left (by omega)
            have hrtc₂ := hadds₂.is hpaired.is
            have hb₂' : Built (insert h.next R) X h₂ := hb₂.finish fun k f hk hneeds => by
              obtain rfl := hk.kind_unique hrtc₂
              obtain ⟨c, hc⟩ := hpaired.context
              cases f with
              | testContext => exact ⟨c, hadds₂.owns hc⟩
              | configItem => exact ⟨q, hq⟩
              | _ => cases hneeds
            have hnewest := hadds₂.newest (by decide) (hpaired.newest (by decide))
            refine (hb₂'.runs_appendLink (hadds₂.is (hpaired.adds.is hrts)) rfl rfl hrtc₂ hnewest
              (hb.forest.lt_next hrts.live) (Set.mem_insert ..) configKinds).mono ?_
            rintro - h₃ g₃ ⟨rfl, hb₃, hadds₃, -⟩
            rw [root_diff_self _ hb.notMem_roots] at hb₃
            have hadds₁ : Adds configKinds h h₁ := hpaired.adds.mono fun k hk =>
              hk.imp id fun hk => Or.inl hk
            have hadds₂' : Adds configKinds h₁ h₂ := hadds₂.mono fun k hk => Or.inr (Or.inr hk)
            exact ⟨rfl, hb₃, (hadds₁.trans hadds₂').trans hadds₃⟩
          · rw [if_neg hchecks] at hok
            cases hok

end Config

/-! ## The switch connections -/

def HasConn (h : TestHeap) : Prop := ∃ a, h.Is .switchInternalConnContext a

theorem Adds.hasConn_iff {K : Kind → Prop} {h h' : TestHeap} (hadds : Adds K h h')
    (hK : ¬K .switchInternalConnContext) : HasConn h' ↔ HasConn h := by
  constructor
  · rintro ⟨a, ha⟩
    exact ⟨a, (hadds.kinds a _ ha).resolve_right fun hnew => hK hnew.2⟩
  · rintro ⟨a, ha⟩
    exact ⟨a, hadds.is ha⟩

theorem hasConn_iff_of_attaches {a q : ℕ} {f : Field} {h h' : TestHeap}
    (ha : Attaches a f q h h') : HasConn h' ↔ HasConn h :=
  exists_congr fun _ => ha.is_iff

/-- No block but those of the kind is changed. -/
def Keeps (k : Kind) (h h' : TestHeap) : Prop :=
  ∀ a, h.Live a → ¬h.Is k a → h'.block a = h.block a

theorem Keeps.trans {k : Kind} {h h' h'' : TestHeap} (h₁ : Keeps k h h') (h₂ : Keeps k h' h'') :
    Keeps k h h'' := by
  intro a ha hk
  have hsame := h₁ a ha hk
  have hlive : h'.Live a := by
    obtain ⟨b, hb⟩ := ha
    exact ⟨b, hsame.trans hb⟩
  have hk' : ¬h'.Is k a := by
    rintro ⟨b, hb, hkind⟩
    exact hk ⟨b, hsame.symm.trans hb, hkind⟩
  exact (h₂ a hlive hk').trans hsame

theorem keeps_alloc (hb : Built R X h) (k k' : Kind) (d : Data) : Keeps k' h (h.alloc k d) := by
  intro a ha _
  exact block_alloc_of_ne (Nat.ne_of_lt (hb.forest.lt_next ha))

/-- A list that is built so far, whose first block is a root among others. -/
def Listed (R X : Set ℕ) (k : Kind) (header : Option ℕ) (h : TestHeap) : Prop :=
  match header with
  | none => Built R X h
  | some head => Built (insert head R) X h ∧ h.Is k head ∧ head ∉ R

/-- A block that is a root goes to the end of a list. -/
theorem Listed.runs_appendHeader {k : Kind} {header : Option ℕ} {new : ℕ}
    (hnext : owns k .next = some k) (hnew : h.Is k new) (hR : new ∉ R)
    (hnewest : ∀ a, h.Is k a → a ≤ new)
    (hl : Listed (insert new R) X k header h) (K : Kind → Prop) :
    Runs False (appendHeader k .next header new : HeapM ω (Option ℕ)) h g fun header' h' g' =>
      g' = g ∧ Listed R X k header' h' ∧ Adds K h h' ∧ Keeps k h h' ∧
        header' = some (header.getD new) := by
  cases header with
  | none =>
      exact Runs.pure ⟨rfl, ⟨hl, hnew, hR⟩, Adds.refl K h, fun _ _ _ => rfl, rfl⟩
  | some head =>
      obtain ⟨hb, hhead, hnotMem⟩ := hl
      rw [Set.mem_insert_iff, not_or] at hnotMem
      refine (hb.forest.runs_appendHeader hnext hhead hnew hnewest hnotMem.1
        (Set.mem_insert_of_mem _ (Set.mem_insert ..))).mono ?_
      rintro header' h' g' ⟨rfl, rfl, hforest, a, hk, hattach⟩
      have hroots : insert head (insert new R) \ {new} = insert head R := by
        rw [Set.insert_comm, root_diff_self]
        rw [Set.mem_insert_iff, not_or]
        exact ⟨Ne.symm hnotMem.1, hR⟩
      rw [hroots] at hforest
      refine ⟨rfl, ⟨⟨hforest, fun k₁ f₁ x hx hneeds hX => ?_⟩, hattach.is_iff.mpr hhead,
        hnotMem.2⟩, Adds.of_attaches hattach K, fun x _ hx => ?_, rfl⟩
      · obtain ⟨y, hy⟩ := hb.complete k₁ f₁ x (hattach.is_iff.mp hx) hneeds hX
        exact ⟨y, hattach.grows.owns hy⟩
      · exact hattach.block_of_ne fun heq => hx (heq ▸ hk)

section Groups

variable {globals : IniConfig.Globals} {testConfig : IdeTestConfig} {rts : ℕ}

/-- A block that becomes a root while the heap grows is one beside the list. -/
theorem Listed.exists_built {k : Kind} {header : Option ℕ} (hl : Listed R X k header h) :
    ∃ R', Built R' X h ∧ ∀ h', Built (insert h.next R') X h' → h.Grows h' →
      Listed (insert h.next R) X k header h' := by
  cases header with
  | none => exact ⟨R, hl, fun _ hb _ => hb⟩
  | some head =>
      obtain ⟨hb, hhead, hnotMem⟩ := hl
      have hlt : head < h.next := hb.forest.lt_next hhead.live
      refine ⟨insert head R, hb, fun h' hb' hgrows => ⟨?_, hgrows.is hhead, ?_⟩⟩
      · rwa [Set.insert_comm]
      · rw [Set.mem_insert_iff, not_or]
        exact ⟨Nat.ne_of_lt hlt, hnotMem⟩

theorem Listed.notMem_roots {k : Kind} {header : Option ℕ} (hl : Listed R X k header h) :
    h.next ∉ R := by
  cases header with
  | none => exact Built.notMem_roots hl
  | some head => exact fun hmem => hl.1.notMem_roots (Set.mem_insert_of_mem head hmem)

theorem runs_allocSwitchInternalConnContexts {conns : List IdeSwitchInternalConnection}
    (hok : ∀ conn ∈ conns, switchConnResolves testConfig conn = true) {header : Option ℕ}
    (hl : Listed R X .switchInternalConnContext header h) :
    Runs False (allocSwitchInternalConnContexts testConfig conns header : HeapM ω (Option ℕ)) h g
      fun header' h' g' => g' = g ∧ Listed R X .switchInternalConnContext header' h' ∧
        Adds (· = .switchInternalConnContext) h h' ∧ Keeps .switchInternalConnContext h h' ∧
        (HasConn h' ↔ HasConn h ∨ conns ≠ []) ∧
        ∀ head, header' = some head → header = some head ∨ h.next ≤ head := by
  induction conns generalizing header h g with
  | nil => exact Runs.pure ⟨rfl, hl, Adds.refl _ h, fun _ _ _ => rfl, by simp,
      fun _ => Or.inl⟩
  | cons conn conns ih =>
      rw [List.forall_mem_cons] at hok
      rw [allocSwitchInternalConnContexts]
      refine Runs.bind_malloc ?_
      rw [if_pos hok.1]
      obtain ⟨R', hb, hbeside⟩ := hl.exists_built
      have hl₁ := hbeside _ (hb.alloc_simple (k := .switchInternalConnContext) (fun _ => rfl)
        .zero) (grows_alloc hb.fresh)
      refine (hl₁.runs_appendHeader rfl is_alloc_self hl.notMem_roots hb.newest_alloc
        (· = .switchInternalConnContext)).bind ?_
      rintro header₂ h₂ g₂ ⟨rfl, hl₂, hadds₂, hkeeps₂, rfl⟩
      refine (ih hok.2 hl₂).mono ?_
      rintro header₃ h₃ g₃ ⟨rfl, hl₃, hadds₃, hkeeps₃, -, hhead₃⟩
      have hadds := hb.adds_alloc .switchInternalConnContext .zero
      have hkeeps := keeps_alloc hb .switchInternalConnContext .switchInternalConnContext .zero
      have hconn : HasConn h₃ := ⟨h.next, (hadds₂.trans hadds₃).is is_alloc_self⟩
      refine ⟨rfl, hl₃, (hadds.trans hadds₂).trans hadds₃, (hkeeps.trans hkeeps₂).trans hkeeps₃,
        ⟨fun _ => Or.inr (List.cons_ne_nil conn conns), fun _ => hconn⟩, fun head hhead => ?_⟩
      rcases hhead₃ head hhead with hhead | hle
      · cases header with
        | none => exact Or.inr (le_of_eq (Option.some.inj hhead))
        | some _ => exact Or.inl hhead
      · exact Or.inr ((hadds.trans hadds₂).grows.1.trans hle)

/-- The list of a path is attached to the context of the group. -/
theorem runs_allocPathConns (hb : Built R X h) {context : ℕ} {b : Block Kind Field Data}
    (hblock : h.block context = some b) (hkind : b.kind = .groupContext) {path : Field}
    (hnull : b.links path = none)
    (howns : owns .groupContext path = some .switchInternalConnContext)
    {conns : List IdeSwitchInternalConnection}
    (hok : ∀ conn ∈ conns, switchConnResolves testConfig conn = true) :
    Runs False (allocPathConns testConfig context path conns : HeapM ω Unit) h g fun _ h' g' =>
      g' = g ∧ Built R X h' ∧ Adds (· = .switchInternalConnContext) h h' ∧
        (HasConn h' ↔ HasConn h ∨ conns ≠ []) ∧
        (∃ b', h'.block context = some b' ∧ b'.kind = .groupContext ∧
          ∀ f, f ≠ path → b'.links f = b.links f) ∧
        ∀ a, h.Live a → ¬h.Is .switchInternalConnContext a → a ≠ context →
          h'.block a = h.block a := by
  have hcontext : h.Is .groupContext context := ⟨b, hblock, hkind⟩
  have hne : ¬h.Is .switchInternalConnContext context := fun h' => by
    cases h'.kind_unique hcontext
  have hnone : Listed R X .switchInternalConnContext none h := hb
  refine (runs_allocSwitchInternalConnContexts hok hnone).bind ?_
  rintro header h₁ g₁ ⟨rfl, hl, hadds, hkeeps, hconn, hhead⟩
  have hblock₁ : h₁.block context = some b := (hkeeps context ⟨b, hblock⟩ hne).trans hblock
  refine runs_setLink hblock₁ hkind ⟨rfl, ?_⟩
  cases header with
  | none =>
      have hsame : h₁.set context
          (some { b with links := Function.update b.links path none }) = h₁ := by
        rw [← hnull, Function.update_eq_self, Heap.set, ← hblock₁, Function.update_eq_self]
      rw [hsame]
      exact ⟨hl, hadds, hconn, ⟨b, hblock₁, hkind, fun _ _ => rfl⟩,
        fun a ha hk _ => hkeeps a ha hk⟩
  | some head =>
      obtain ⟨hb₁, hhead₁, hR⟩ := hl
      have hattach : Attaches context path head h₁ (h₁.set context
          (some { b with links := Function.update b.links path (some head) })) :=
        ⟨b, hblock₁, hnull, rfl⟩
      have hle : h.next ≤ head :=
        (hhead head rfl).resolve_left (Option.some_ne_none head).symm
      have hlt : context < head := lt_of_lt_of_le (hb.forest.lt_next hcontext.live) hle
      have hb₂ := hb₁.attach hattach ⟨b, hblock₁, hkind⟩ howns hhead₁ hlt (Set.mem_insert ..)
      rw [root_diff_self _ hR] at hb₂
      refine ⟨hb₂, hadds.trans (Adds.of_attaches hattach _),
        (hasConn_iff_of_attaches hattach).trans hconn,
        ⟨_, Function.update_self .., hkind, fun f hf => Function.update_of_ne hf ..⟩,
        fun a ha hk hac => ?_⟩
      rw [hattach.block_of_ne hac]
      exact hkeeps a ha hk

theorem runs_allocGroupConns (hb : Built R X h) {context : ℕ}
    (hblock : h.block context = some ⟨.groupContext, fun _ => none, .zero⟩)
    {top : IdeTestTopology}
    (hok : ∀ conn ∈ top.pathConns, switchConnResolves testConfig conn = true) :
    Runs False (allocGroupConns testConfig context top : HeapM ω Unit) h g fun _ h' g' =>
      g' = g ∧ Built R X h' ∧ Adds (· = .switchInternalConnContext) h h' ∧
        (HasConn h' ↔ HasConn h ∨ top.pathConns ≠ []) ∧
        ∀ a, h.Live a → ¬h.Is .switchInternalConnContext a → a ≠ context →
          h'.block a = h.block a := by
  unfold IdeTestTopology.pathConns at hok ⊢
  unfold allocGroupConns
  cases hconn : top.connection with
  | direct => exact Runs.pure ⟨rfl, hb, Adds.refl _ h, by simp, fun _ _ _ _ => rfl⟩
  | switch =>
      rw [hconn] at hok
      refine (runs_allocPathConns hb hblock rfl rfl rfl hok).mono ?_
      rintro - h' g' ⟨rfl, hb', hadds, hconns, -, hkeeps⟩
      exact ⟨rfl, hb', hadds, hconns, hkeeps⟩
  | p2p =>
      rw [hconn] at hok
      rw [List.forall_mem_append] at hok
      refine (runs_allocPathConns hb hblock rfl rfl rfl hok.1).bind ?_
      rintro - h₁ g₁ ⟨rfl, hb₁, hadds₁, hconn₁, ⟨b₁, hblock₁, hkind₁, hlinks₁⟩, hkeeps₁⟩
      have hnull : b₁.links .swConn2 = none := hlinks₁ .swConn2 (by decide)
      refine (runs_allocPathConns hb₁ hblock₁ hkind₁ hnull rfl hok.2).mono ?_
      rintro - h₂ g₂ ⟨rfl, hb₂, hadds₂, hconn₂, -, hkeeps₂⟩
      have hconns : HasConn h₂ ↔ HasConn h ∨ top.swConn1 ++ top.swConn2 ≠ [] := by
        rw [hconn₂, hconn₁, or_assoc, ne_eq, ne_eq, ne_eq, List.append_eq_nil_iff, not_and_or]
      refine ⟨rfl, hb₂, hadds₁.trans hadds₂, hconns, fun a ha hk hac => ?_⟩
      have hsame := hkeeps₁ a ha hk hac
      obtain ⟨c, hc⟩ := ha
      have hk₁ : ¬h₁.Is .switchInternalConnContext a := by
        rintro ⟨c', hc', hkind'⟩
        exact hk ⟨c', hsame.symm.trans hc', hkind'⟩
      exact (hkeeps₂ a ⟨c, hsame.trans hc⟩ hk₁ hac).trans hsame

/-! ## Groups -/

theorem pathConns_resolve {testCategory : TeeioTestCategory} {top : IdeTestTopology}
    (hok : IniConfig.allocRunTestGroup testConfig testCategory top = .ok ()) :
    ∀ conn ∈ top.pathConns, switchConnResolves testConfig conn = true := by
  unfold IniConfig.allocRunTestGroup at hok
  split at hok
  · obtain ⟨-, -, hok⟩ := Checked.bind_eq_ok.mp hok
    split at hok
    · rename_i hall
      exact List.all_eq_true.mp hall
    · cases hok
  · cases hok

def groupKinds (k : Kind) : Prop :=
  k = .runTestGroup ∨ k = .groupContext ∨ k = .switchInternalConnContext

theorem runs_allocRunTestGroup (hb : Built R X h) (hrts : h.Is .runTestSuite rts)
    (hX : rts ∉ X) {testCategory : TeeioTestCategory} {top : IdeTestTopology}
    (hok : IniConfig.allocRunTestGroup testConfig testCategory top = .ok ()) :
    Runs False (allocRunTestGroup testConfig testCategory rts top : HeapM ω ℕ) h g
      fun group h' g' => g' = g ∧ group = h.next ∧ Built R (insert group X) h' ∧
        Adds groupKinds h h' ∧ h'.Is .runTestGroup group ∧
        (HasConn h' ↔ HasConn h ∨ top.pathConns ≠ []) ∧
        ∃ q, h'.Owns group .testContext q := by
  refine Runs.bind_malloc (Runs.bind_check hok (Runs.bind_malloc ?_))
  have hb₁ := hb.alloc .runTestGroup .zero
  have hb₂ := hb₁.alloc_simple (k := .groupContext) (fun _ => rfl) .zero
  have hadds : Adds groupKinds h
      ((h.alloc .runTestGroup .zero).alloc .groupContext .zero) :=
    ((hb.adds_alloc .runTestGroup .zero).mono fun _ => Or.inl).trans
      ((hb₁.adds_alloc .groupContext .zero).mono fun _ hk => Or.inr (Or.inl hk))
  have hltrts : rts < h.next := hb.forest.lt_next hrts.live
  have hX₂ : rts ∉ insert h.next X := by
    rw [Set.mem_insert_iff, not_or]
    exact ⟨Nat.ne_of_lt hltrts, hX⟩
  obtain ⟨b, -, hblock, hkind, -⟩ :=
    hb₂.needed (f := .testContext) (hadds.is hrts) rfl hX₂ rfl
  refine Runs.bind_getLink hblock hkind ?_
  have hcontext : (h.alloc .runTestGroup .zero).next = h.next + 1 := rfl
  have hgroup := block_alloc_alloc h .runTestGroup .groupContext .zero .zero
  refine (runs_allocGroupConns hb₂ block_alloc_self (pathConns_resolve hok)).bind ?_
  rintro - h₃ g₃ ⟨rfl, hb₃, hadds₃, hconn₃, hkeeps₃⟩
  have hgroup₃ : h₃.block h.next = some ⟨.runTestGroup, fun _ => none, .zero⟩ := by
    have hnot : ¬((h.alloc .runTestGroup .zero).alloc .groupContext .zero).Is
        .switchInternalConnContext h.next := fun hk => by
      cases hk.kind_eq hgroup
    have hne : h.next ≠ (h.alloc .runTestGroup .zero).next := Nat.ne_of_lt (Nat.lt_succ_self _)
    exact (hkeeps₃ h.next ⟨_, hgroup⟩ hnot hne).trans hgroup
  refine Runs.bind_setLink hgroup₃ rfl ?_
  have hattach : Attaches h.next .testContext (h.alloc .runTestGroup .zero).next h₃ _ :=
    ⟨_, hgroup₃, rfl, rfl⟩
  have hisgroup : h₃.Is .runTestGroup h.next := ⟨_, hgroup₃, rfl⟩
  have hb₄ := hb₃.attach hattach hisgroup rfl (hadds₃.is is_alloc_self)
    (Nat.lt_succ_self _) (Set.mem_insert ..)
  rw [root_diff_self _ hb₁.notMem_roots] at hb₄
  have hadds₃' : Adds groupKinds ((h.alloc .runTestGroup .zero).alloc .groupContext .zero) h₃ :=
    hadds₃.mono fun _ hk => Or.inr (Or.inr hk)
  have hadds₄ := (hadds.trans hadds₃').trans (Adds.of_attaches hattach groupKinds)
  have hnewest := (Adds.of_attaches hattach (· = .switchInternalConnContext)).newest (by decide)
    (hadds₃.newest (by decide) ((hb₁.adds_alloc .groupContext .zero).newest (by decide)
      hb.newest_alloc))
  refine (hb₄.runs_appendLink (hadds₄.is hrts) rfl rfl (hattach.is_iff.mpr hisgroup) hnewest
    hltrts (Set.mem_insert ..) (fun _ => False)).bind ?_
  rintro - h₅ g₅ ⟨rfl, hb₅, hadds₅, -⟩
  rw [root_diff_self _ hb.notMem_roots] at hb₅
  have hconn₂ : HasConn ((h.alloc .runTestGroup .zero).alloc .groupContext .zero) ↔ HasConn h :=
    ((hb₁.adds_alloc .groupContext .zero).hasConn_iff (by decide)).trans
      ((hb.adds_alloc .runTestGroup .zero).hasConn_iff (by decide))
  rw [hconn₂, ← hasConn_iff_of_attaches hattach] at hconn₃
  exact Runs.pure ⟨rfl, rfl, hb₅, hadds₄.trans (hadds₅.mono fun _ => False.elim),
    hadds₅.is (hattach.is_iff.mpr hisgroup), (hadds₅.hasConn_iff (by simp)).trans hconn₃, _,
    hadds₅.owns hattach.owns⟩

/-! ## Cases -/

def caseKinds (k : Kind) : Prop := k = .runTestCase ∨ k = .caseContext

theorem runs_allocRunTestCase (hb : Built R X h) {group : ℕ} (hgroup : h.Is .runTestGroup group)
    {testCategory : TeeioTestCategory} {caseClass caseId : ℕ} {testCase : IdeRunTestCase}
    (hok : IniConfig.allocRunTestCase globals testCategory caseClass caseId = .ok testCase) :
    Runs False (allocRunTestCase globals testCategory group caseClass caseId : HeapM ω Unit) h g
      fun _ h' g' => g' = g ∧ Built R X h' ∧ Adds caseKinds h h' ∧
        ∃ q, h'.Owns group .testCase q := by
  refine Runs.bind_malloc (Runs.bind_check hok (Runs.bind_malloc ?_))
  let d : Data := ⟨caseClass, caseId, 0, .run⟩
  have hb₁ := hb.alloc .runTestCase d
  have hb₂ := hb₁.alloc_simple (k := .caseContext) (fun _ => rfl) .zero
  have hltgroup : group < h.next := hb.forest.lt_next hgroup.live
  obtain ⟨b, hblock, hkind⟩ := (hb₁.adds_alloc .caseContext .zero).is
    ((hb.adds_alloc .runTestCase d).is hgroup)
  refine Runs.bind_getLink hblock hkind ?_
  have hcase := block_alloc_alloc h .runTestCase .caseContext d .zero
  refine Runs.bind_setLink hcase rfl ?_
  have hattach : Attaches h.next .testContext (h.alloc .runTestCase d).next
      ((h.alloc .runTestCase d).alloc .caseContext .zero) _ := ⟨_, hcase, rfl, rfl⟩
  have hpaired := hb.paired rfl (fun _ => rfl) hattach
  have hb₃ := hpaired.built.finish fun k f hk hneeds => by
    obtain rfl := hk.kind_unique hpaired.is
    obtain rfl : f = .testContext := by
      cases f <;> first | rfl | cases hneeds
    exact hpaired.context
  refine (hb₃.runs_appendLink (hpaired.adds.is hgroup) rfl rfl hpaired.is
    (hpaired.newest (by decide)) hltgroup (Set.mem_insert ..) caseKinds).mono ?_
  rintro - h₄ g₄ ⟨rfl, hb₄, hadds₄, -, hlinked, -⟩
  rw [root_diff_self _ hb.notMem_roots] at hb₄
  exact ⟨rfl, hb₄, hpaired.adds.trans hadds₄, hlinked⟩

theorem runs_allocRunTestCaseList (hb : Built R X h) {group : ℕ}
    (hgroup : h.Is .runTestGroup group) {testCategory : TeeioTestCategory} {caseClass : ℕ}
    {casesId : List ℕ} {testCases : List IdeRunTestCase}
    (hok : IniConfig.allocRunTestCaseList globals testCategory caseClass casesId =
      .ok testCases) :
    Runs False (allocRunTestCaseList globals testCategory group caseClass casesId : HeapM ω Unit)
      h g fun _ h' g' => g' = g ∧ Built R X h' ∧ Adds caseKinds h h' ∧
        (casesId ≠ [] → ∃ q, h'.Owns group .testCase q) := by
  induction casesId generalizing h g testCases with
  | nil => exact Runs.pure ⟨rfl, hb, Adds.refl _ h, fun hne => absurd rfl hne⟩
  | cons caseId casesId ih =>
      obtain ⟨testCase, hcase, hok⟩ := Checked.bind_eq_ok.mp hok
      obtain ⟨rest, hrest, -⟩ := Checked.bind_eq_ok.mp hok
      refine (runs_allocRunTestCase hb hgroup hcase).bind ?_
      rintro - h₁ g₁ ⟨rfl, hb₁, hadds₁, q, hq⟩
      refine (ih hb₁ (hadds₁.is hgroup) hrest).mono ?_
      rintro - h₂ g₂ ⟨rfl, hb₂, hadds₂, -⟩
      exact ⟨rfl, hb₂, hadds₁.trans hadds₂, fun _ => ⟨q, hadds₂.owns hq⟩⟩

def groupAndCaseKinds (k : Kind) : Prop := groupKinds k ∨ caseKinds k

theorem runs_allocRunTestCases (hb : Built R X h) (hrts : h.Is .runTestSuite rts)
    (hX : rts ∉ X) {suite : IdeTestSuite} {top : IdeTestTopology}
    {classes : List (Fin maxTestCaseNum)} {testCases : List IdeRunTestCase}
    (hok : IniConfig.allocRunTestCases globals testConfig suite top classes = .ok testCases) :
    Runs False (allocRunTestCases globals testConfig rts suite top classes : HeapM ω Unit) h g
      fun _ h' g' => g' = g ∧ Built R X h' ∧ Adds groupAndCaseKinds h h' ∧
        (HasConn h' ↔
          HasConn h ∨ top.pathConns ≠ [] ∧ ∃ i ∈ classes, suite.testCases i ≠ []) := by
  induction classes generalizing h g testCases with
  | nil => exact Runs.pure ⟨rfl, hb, Adds.refl _ h, by simp⟩
  | cons i classes ih =>
      rw [IniConfig.allocRunTestCases] at hok
      rw [allocRunTestCases]
      by_cases hnil : suite.testCases i = []
      · rw [if_pos hnil] at hok ⊢
        simp only [List.exists_mem_cons_iff, hnil, ne_eq, not_true_eq_false, false_or]
        exact ih hb hrts hok
      · rw [if_neg hnil] at hok ⊢
        obtain ⟨⟨⟩, hgroup, hok⟩ := Checked.bind_eq_ok.mp hok
        obtain ⟨cases, hcases, hok⟩ := Checked.bind_eq_ok.mp hok
        obtain ⟨rest, hrest, -⟩ := Checked.bind_eq_ok.mp hok
        refine (runs_allocRunTestGroup hb hrts hX hgroup).bind ?_
        rintro group h₁ g₁ ⟨rfl, rfl, hb₁, hadds₁, hisgroup, hconn₁, c, hc⟩
        refine (runs_allocRunTestCaseList hb₁ hisgroup hcases).bind ?_
        rintro - h₂ g₂ ⟨rfl, hb₂, hadds₂, hlinked⟩
        have hgroup₂ := hadds₂.is hisgroup
        have hb₂' : Built R X h₂ := hb₂.finish fun k f hk hneeds => by
          obtain rfl := hk.kind_unique hgroup₂
          cases f with
          | testContext => exact ⟨c, hadds₂.owns hc⟩
          | testCase => exact hlinked hnil
          | _ => cases hneeds
        have hadds : Adds groupAndCaseKinds h h₂ :=
          (hadds₁.mono fun _ => Or.inl).trans (hadds₂.mono fun _ => Or.inr)
        refine (ih hb₂' (hadds.is hrts) hrest).mono ?_
        rintro - h₃ g₃ ⟨rfl, hb₃, hadds₃, hconn₃⟩
        refine ⟨rfl, hb₃, hadds.trans hadds₃, ?_⟩
        rw [hconn₃, hadds₂.hasConn_iff (by simp [caseKinds]), hconn₁, or_assoc]
        simp only [List.exists_mem_cons_iff, ne_eq, hnil, not_false_eq_true, true_or, and_true]
        exact or_congr_right (or_iff_left_of_imp And.left)

end Groups

/-! ## Suites -/

section Suites

variable {globals : IniConfig.Globals} {testConfig : IdeTestConfig}

/-- The list of the suites is finished, and its first suite is the only root. -/
abbrev Suites (header : Option ℕ) (h : TestHeap) : Prop :=
  Listed ∅ ∅ .runTestSuite header h

/-- A suite that is prepared with a group whose paths go through a switch. -/
def LeavesConns (testConfig : IdeTestConfig) (suite : IdeTestSuite) : Prop :=
  ¬(suite.id = 0 ∨ suite.enabled = false) ∧
    ∃ top, getTopologyById testConfig suite.topologyId = some top ∧ top.pathConns ≠ [] ∧
      ∃ i, suite.testCases i ≠ []

theorem runs_prepareSuite {header : Option ℕ} (hl : Suites header h) {suite : IdeTestSuite}
    {runTestSuite : Option IdeRunTestSuite}
    (hok : IniConfig.prepareSuite globals testConfig suite = .ok runTestSuite) :
    Runs False (prepareSuite globals testConfig suite header : HeapM ω (Option ℕ)) h g
      fun header' h' g' => g' = g ∧ Suites header' h' ∧
        (HasConn h' ↔ HasConn h ∨ LeavesConns testConfig suite) := by
  unfold IniConfig.prepareSuite at hok
  unfold prepareSuite
  by_cases hskip : suite.id = 0 ∨ suite.enabled = false
  · rw [if_pos hskip]
    exact Runs.pure ⟨rfl, hl, by simp [LeavesConns, hskip]⟩
  · rw [if_neg hskip] at hok ⊢
    cases htop : getTopologyById testConfig suite.topologyId with
    | none => exact Runs.pure ⟨rfl, hl, by simp [LeavesConns, htop]⟩
    | some top =>
        rw [htop] at hok
        obtain ⟨items, hitems, hok⟩ := Checked.bind_eq_ok.mp hok
        obtain ⟨testCases, hcases, -⟩ := Checked.bind_eq_ok.mp hok
        obtain ⟨R', hb, hbeside⟩ := hl.exists_built
        refine (runs_allocRunTestSuite hb).bind ?_
        rintro rts h₁ g₁ ⟨rfl, rfl, hb₁, hadds₁, hrts, hnewest⟩
        refine (runs_allocRunTestConfig hb₁ hrts (Set.notMem_empty _) hitems).bind ?_
        rintro - h₂ g₂ ⟨rfl, hb₂, hadds₂⟩
        refine (runs_allocRunTestCases hb₂ (hadds₂.is hrts) (Set.notMem_empty _) hcases).bind ?_
        rintro - h₃ g₃ ⟨rfl, hb₃, hadds₃, hconn₃⟩
        have hnewest₃ := hadds₃.newest (by simp [groupAndCaseKinds, groupKinds, caseKinds])
          (hadds₂.newest (by simp [configKinds]) hnewest)
        have hl₃ := hbeside h₃ hb₃ ((hadds₁.grows.trans hadds₂.grows).trans hadds₃.grows)
        refine (hl₃.runs_appendHeader rfl (hadds₃.is (hadds₂.is hrts)) (Set.notMem_empty _)
          hnewest₃ fun _ => False).mono ?_
        rintro header' h₄ g₄ ⟨rfl, hl₄, hadds₄, -⟩
        refine ⟨rfl, hl₄, ?_⟩
        rw [hadds₄.hasConn_iff (by simp), hconn₃, hadds₂.hasConn_iff (by simp [configKinds]),
          hadds₁.hasConn_iff (by decide)]
        simp [LeavesConns, hskip, htop]

theorem runs_prepareSuites {header : Option ℕ} (hl : Suites header h)
    {suites : List IdeTestSuite} {runTestSuites : List IdeRunTestSuite}
    (hok : IniConfig.prepareSuites globals testConfig suites = .ok runTestSuites) :
    Runs False (prepareSuites globals testConfig suites header : HeapM ω (Option ℕ)) h g
      fun header' h' g' => g' = g ∧ Suites header' h' ∧
        (HasConn h' ↔ HasConn h ∨ ∃ suite ∈ suites, LeavesConns testConfig suite) := by
  induction suites generalizing header h g runTestSuites with
  | nil => exact Runs.pure ⟨rfl, hl, by simp⟩
  | cons suite suites ih =>
      obtain ⟨first, hfirst, hok⟩ := Checked.bind_eq_ok.mp hok
      obtain ⟨rest, hrest, -⟩ := Checked.bind_eq_ok.mp hok
      refine (runs_prepareSuite hl hfirst).bind ?_
      rintro header₁ h₁ g₁ ⟨rfl, hl₁, hconn₁⟩
      refine (ih hl₁ hrest).mono ?_
      rintro header₂ h₂ g₂ ⟨rfl, hl₂, hconn₂⟩
      refine ⟨rfl, hl₂, ?_⟩
      rw [hconn₂, hconn₁, or_assoc, List.exists_mem_cons_iff]

theorem runs_prepareTestsData {runTestSuites : List IdeRunTestSuite}
    (hok : IniConfig.prepareTestsData globals testConfig = .ok runTestSuites) :
    Runs False (prepareTestsData globals testConfig : HeapM ω (Option ℕ)) Heap.empty g
      fun header h' g' => g' = g ∧ Suites header h' ∧
        (HasConn h' ↔ ∃ i, LeavesConns testConfig (testConfig.testSuites.records i)) := by
  have hempty : Suites none (Heap.empty : TestHeap) :=
    ⟨forest_empty owns, fun k f a hk => by
      obtain ⟨b, hb, -⟩ := hk
      cases hb⟩
  have hnone : ¬HasConn Heap.empty := by
    rintro ⟨a, b, hb, -⟩
    cases hb
  refine (runs_prepareSuites hempty hok).mono ?_
  rintro header h' g' ⟨rfl, hl, hconn⟩
  refine ⟨rfl, hl, hconn.trans ?_⟩
  simp [hnone]

end Suites

end TeeIoValidator.TestData
