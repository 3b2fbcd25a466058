import TeeIoValidator.Model.TestData.Clean

/-! The invariant of the test data: a forest of blocks, and the pointers that the code follows
without a check are not null. -/

namespace TeeIoValidator.TestData

open Ownership

/-- The fields that are followed without a check. -/
def needs : Kind → Field → Bool
  | .runTestSuite, .testContext => true
  | .runTestConfig, .testContext => true
  | .runTestConfig, .configItem => true
  | .runTestGroup, .testContext => true
  | .runTestGroup, .testCase => true
  | .runTestCase, .testContext => true
  | .groupResult, .caseResult => true
  | _, _ => false

/-- The roots are `R`, and no needed field is null but in the blocks `X`, which are not
finished. -/
structure Built (R X : Set ℕ) (h : TestHeap) : Prop where
  forest : Forest owns R h
  complete : ∀ k f a, h.Is k a → needs k f = true → a ∉ X → ∃ q, h.Owns a f q

/-- The heap grows, and the new blocks are of these kinds. Only contexts of cases get other
data. -/
structure Adds (K : Kind → Prop) (h h' : TestHeap) : Prop where
  grows : h.Grows h'
  holds : ∀ a k d, k ≠ .caseContext → h.Holds k d a → h'.Holds k d a
  kinds : ∀ a k, h'.Is k a → h.Is k a ∨ (h.next ≤ a ∧ K k)

namespace Adds

variable {K K' : Kind → Prop} {h h' h'' : TestHeap}

protected theorem refl (K : Kind → Prop) (h : TestHeap) : Adds K h h :=
  ⟨Heap.Grows.refl h, fun _ _ _ _ hd => hd, fun _ _ hk => Or.inl hk⟩

theorem trans (h₁ : Adds K h h') (h₂ : Adds K h' h'') : Adds K h h'' := by
  refine ⟨h₁.grows.trans h₂.grows,
    fun a k d hk hd => h₂.holds a k d hk (h₁.holds a k d hk hd), fun a k hk => ?_⟩
  rcases h₂.kinds a k hk with hk | ⟨hle, hK⟩
  · exact h₁.kinds a k hk
  · exact Or.inr ⟨h₁.grows.1.trans hle, hK⟩

theorem mono (h₁ : Adds K h h') (hK : ∀ k, K k → K' k) : Adds K' h h' :=
  ⟨h₁.grows, h₁.holds, fun a k hk => (h₁.kinds a k hk).imp id fun hnew => ⟨hnew.1, hK k hnew.2⟩⟩

theorem is (h₁ : Adds K h h') {k : Kind} {a : ℕ} (ha : h.Is k a) : h'.Is k a :=
  h₁.grows.is ha

theorem owns (h₁ : Adds K h h') {f : Field} {a q : ℕ} (ha : h.Owns a f q) : h'.Owns a f q :=
  h₁.grows.owns ha

/-- A block stays the newest of its kind while no other is added. -/
theorem newest (h₁ : Adds K h h') {k : Kind} (hk : ¬K k) {new : ℕ}
    (hnew : ∀ a, h.Is k a → a ≤ new) : ∀ a, h'.Is k a → a ≤ new :=
  fun a ha => hnew a ((h₁.kinds a k ha).resolve_right fun hK => hk hK.2)

theorem of_attaches {a q : ℕ} {f : Field} (ha : Attaches a f q h h') (K : Kind → Prop) :
    Adds K h h' :=
  ⟨ha.grows, fun _ _ _ _ hd => ha.holds hd, fun _ _ hk => Or.inl (ha.is_iff.mp hk)⟩

end Adds

namespace Built

variable {R X : Set ℕ} {h h' : TestHeap} {k : Kind} {d : Data}

theorem fresh (hb : Built R X h) : h.block h.next = none := hb.forest.fresh _ (le_refl _)

theorem adds_alloc (hb : Built R X h) (k : Kind) (d : Data) : Adds (· = k) h (h.alloc k d) :=
  ⟨grows_alloc hb.fresh, fun _ _ _ _ hd => holds_alloc hb.fresh hd, fun a k' hk' => by
    rcases (is_alloc_iff hb.fresh).mp hk' with hk' | ⟨rfl, rfl⟩
    · exact Or.inl hk'
    · exact Or.inr ⟨le_refl _, rfl⟩⟩

/-- A new block is the newest of its kind. -/
theorem newest_alloc (hb : Built R X h) : ∀ a, (h.alloc k d).Is k a → a ≤ h.next := by
  intro a ha
  rcases (is_alloc_iff hb.fresh).mp ha with ha | ⟨rfl, -⟩
  · exact le_of_lt (hb.forest.lt_next ha.live)
  · exact le_refl _

theorem notMem_roots (hb : Built R X h) : h.next ∉ R := fun hmem => by
  obtain ⟨b, hlive⟩ := (hb.forest.roots _ hmem).1
  cases hlive.symm.trans hb.fresh

/-- A new block is a root, and not finished. -/
theorem alloc (hb : Built R X h) (k : Kind) (d : Data) :
    Built (insert h.next R) (insert h.next X) (h.alloc k d) := by
  refine ⟨hb.forest.alloc k d, fun k' f a hk' hneeds hX => ?_⟩
  rw [Set.mem_insert_iff, not_or] at hX
  have hold := ((is_alloc_iff hb.fresh).mp hk').resolve_right fun h => hX.1 h.1
  obtain ⟨q, hq⟩ := hb.complete k' f a hold hneeds hX.2
  exact ⟨q, (grows_alloc hb.fresh).owns hq⟩

/-- A block is finished when its needed fields are set. -/
theorem finish {a : ℕ} (hb : Built R (insert a X) h)
    (ha : ∀ k f, h.Is k a → needs k f = true → ∃ q, h.Owns a f q) : Built R X h := by
  refine ⟨hb.forest, fun k f x hk hneeds hX => ?_⟩
  by_cases hx : x = a
  · subst hx
    exact ha k f hk hneeds
  · exact hb.complete k f x hk hneeds fun hmem => hX (hmem.resolve_left hx)

/-- A new block without needed fields is finished. -/
theorem alloc_simple (hb : Built R X h) (hk : ∀ f, needs k f = false) (d : Data) :
    Built (insert h.next R) X (h.alloc k d) :=
  (hb.alloc k d).finish fun k' f hk' hneeds => by
    obtain rfl := hk'.kind_unique is_alloc_self
    rw [hk f] at hneeds
    cases hneeds

theorem attach (hb : Built R X h) {a q : ℕ} {f : Field} (ha : Attaches a f q h h')
    {k k' : Kind} (hk : h.Is k a) (howns : TestData.owns k f = some k') (hk' : h.Is k' q)
    (hlt : a < q) (hq : q ∈ R) : Built (R \ {q}) X h' := by
  refine ⟨hb.forest.attach ha hk howns hk' hlt hq, fun k₁ f₁ x hx hneeds hX => ?_⟩
  obtain ⟨y, hy⟩ := hb.complete k₁ f₁ x (ha.is_iff.mp hx) hneeds hX
  exact ⟨y, ha.grows.owns hy⟩

/-- A needed field leads to a block of its kind. -/
theorem needed (hb : Built R X h) {k k' : Kind} {f : Field} {a : ℕ} (ha : h.Is k a)
    (hneeds : needs k f = true) (hX : a ∉ X) (howns : TestData.owns k f = some k') :
    ∃ b q, h.block a = some b ∧ b.kind = k ∧ b.links f = some q ∧ a < q ∧ h.Is k' q := by
  obtain ⟨q, b, hblock, hq⟩ := hb.complete k f a ha hneeds hX
  obtain ⟨hlt, k₁, k₂, hk₁, hsig, hk₂⟩ := hb.forest.typed a f q ⟨b, hblock, hq⟩
  obtain rfl := hk₁.kind_unique ha
  obtain rfl := Option.some.inj (hsig.symm.trans howns)
  exact ⟨b, q, hblock, ha.kind_eq hblock, hq, hlt, hk₂⟩

/-- A link leads to a newer block of its kind. -/
theorem link (hb : Built R X h) {k k' : Kind} {f : Field} {a q : ℕ}
    {b : Block Kind Field Data} (hblock : h.block a = some b) (hkind : b.kind = k)
    (hq : b.links f = some q) (howns : TestData.owns k f = some k') : a < q ∧ h.Is k' q := by
  obtain ⟨hlt, k₁, k₂, hk₁, hsig, hk₂⟩ := hb.forest.typed a f q ⟨b, hblock, hq⟩
  obtain rfl := hkind.symm.trans (hk₁.kind_eq hblock)
  obtain rfl := Option.some.inj (hsig.symm.trans howns)
  exact ⟨hlt, hk₂⟩

end Built

variable {ω : Type} {stops : Prop} {R X : Set ℕ} {h : TestHeap} {g : Globals ω}

/-- The newest block of its kind, still a root, goes to the end of a list. -/
theorem Built.runs_appendLink (hb : Built R X h) {kp k : Kind} {f : Field} {p new : ℕ}
    (hp : h.Is kp p) (howns : owns kp f = some k) (hnext : owns k .next = some k)
    (hnew : h.Is k new) (hnewest : ∀ a, h.Is k a → a ≤ new)
    (hlt : p < new) (hR : new ∈ R) (K : Kind → Prop) :
    Runs stops (appendLink kp p f k .next new : HeapM ω Unit) h g fun _ h' g' => g' = g ∧
      Built (R \ {new}) X h' ∧ Adds K h h' ∧ h'.next = h.next ∧
      (∃ q, h'.Owns p f q) ∧ (∀ a, ¬h.Is k a → a ≠ p → h'.block a = h.block a) := by
  refine (hb.forest.runs_appendLink hp howns hnext hnew hnewest hlt hR).mono ?_
  rintro - h' g' ⟨rfl, hforest, hlinked, a, f', hattach, hwhere⟩
  have hcomplete : Built (R \ {new}) X h' := by
    refine ⟨hforest, fun k₁ f₁ x hx hneeds₁ hX => ?_⟩
    obtain ⟨y, hy⟩ := hb.complete k₁ f₁ x (hattach.is_iff.mp hx) hneeds₁ hX
    exact ⟨y, hattach.grows.owns hy⟩
  refine ⟨rfl, hcomplete, Adds.of_attaches hattach K, hattach.next_eq, hlinked,
    fun x hx hne => ?_⟩
  rcases hwhere with ⟨rfl, -⟩ | ⟨hk, -⟩
  · exact hattach.block_of_ne hne
  · exact hattach.block_of_ne fun heq => hx (heq ▸ hk)

end TeeIoValidator.TestData
