import Mathlib.Logic.Relation
import TeeIoValidator.Library.Ownership

/-! Freeing the blocks of a forest from their owners down. Freeing changes no block that is
left, so the heap is at each time the forest without the blocks freed so far. -/

namespace Ownership

open Relation

variable {κ ℓ δ γ : Type}

/-! ## Programs -/

section Programs

variable [DecidableEq κ]

/-- Clean what the links of a block lead to, in this order. -/
def cleanLinks (k : κ) (p : ℕ) :
    List (ℓ × (Option ℕ → Prog κ ℓ δ γ Unit)) → Prog κ ℓ δ γ Unit
  | [] => pure ()
  | (f, clean) :: cleaners => do
    clean (← getLink k (some p) f)
    cleanLinks k p cleaners

/-- Free the blocks of a list, each after what its other links lead to. -/
def cleanList (k : κ) (next : ℓ) (cleaners : List (ℓ × (Option ℕ → Prog κ ℓ δ γ Unit))) :
    ℕ → Option ℕ → Prog κ ℓ δ γ Unit
  | _, none => pure ()
  | 0, some _ => fail .endless
  | fuel + 1, some p => do
    cleanLinks k p cleaners
    let q ← getLink k (some p) next
    free (some p)
    cleanList k next cleaners fuel q

/-- Free one block, after what its links lead to. -/
def cleanBlock (k : κ) (cleaners : List (ℓ × (Option ℕ → Prog κ ℓ δ γ Unit))) :
    Option ℕ → Prog κ ℓ δ γ Unit
  | none => pure ()
  | some p => do
    cleanLinks k p cleaners
    free (some p)

end Programs

/-! ## What is freed -/

/-- `h` is `G` without the blocks of `S`. -/
structure Without (G : Heap κ ℓ δ) (S : Set ℕ) (h : Heap κ ℓ δ) : Prop where
  next_eq : h.next = G.next
  freed : ∀ a ∈ S, h.block a = none
  kept : ∀ a, a ∉ S → h.block a = G.block a

/-- One step from a block along a link that is cleaned. -/
def Step (G : Heap κ ℓ δ) (C : κ → ℓ → Prop) (a b : ℕ) : Prop :=
  ∃ k f, G.Is k a ∧ C k f ∧ G.Owns a f b

/-- The blocks that links which are cleaned lead to from a pointer. -/
def Below (G : Heap κ ℓ δ) (C : κ → ℓ → Prop) (p : Option ℕ) : Set ℕ :=
  {q | ∃ a, p = some a ∧ ReflTransGen (Step G C) a q}

/-- The program frees what is below its argument, a pointer to a block of this kind. -/
def Cleans (G : Heap κ ℓ δ) (C : κ → ℓ → Prop) (k : κ)
    (clean : Option ℕ → Prog κ ℓ δ γ Unit) : Prop :=
  ∀ (S : Set ℕ) (h : Heap κ ℓ δ) (g : γ) (p : Option ℕ), Without G S h →
    (∀ a, p = some a → G.Is k a) → (∀ q ∈ Below G C p, q ∉ S) →
    Runs False (clean p) h g fun _ h' g' => g' = g ∧ Without G (S ∪ Below G C p) h'

section Disposal

variable {sig : κ → ℓ → Option κ} {R : Set ℕ} {G : Heap κ ℓ δ} {C : κ → ℓ → Prop}

@[simp] theorem below_none : Below G C none = ∅ := by
  ext q
  simp [Below]

theorem mem_below_some {a q : ℕ} : q ∈ Below G C (some a) ↔ ReflTransGen (Step G C) a q := by
  simp [Below]

/-- What lies below the links `fs` of a block. -/
def belowLinks (G : Heap κ ℓ δ) (C : κ → ℓ → Prop) (b : Block κ ℓ δ) (fs : List ℓ) : Set ℕ :=
  {q | ∃ f ∈ fs, q ∈ Below G C (b.links f)}

theorem mem_below_iff {a q : ℕ} {b : Block κ ℓ δ} (hb : G.block a = some b) :
    q ∈ Below G C (some a) ↔ q = a ∨ ∃ f, C b.kind f ∧ q ∈ Below G C (b.links f) := by
  rw [mem_below_some, ReflTransGen.cases_head_iff, eq_comm (a := a)]
  refine or_congr_right ⟨?_, ?_⟩
  · rintro ⟨c, ⟨k, f, hk, hC, c', hc', hlink⟩, hq⟩
    obtain rfl := Option.some.inj (hb.symm.trans hc')
    obtain rfl := hk.kind_eq hb
    exact ⟨f, hC, c, hlink, hq⟩
  · rintro ⟨f, hC, c, hlink, hq⟩
    exact ⟨c, ⟨b.kind, f, ⟨b, hb, rfl⟩, hC, b, hb, hlink⟩, hq⟩

@[simp] theorem belowLinks_nil (b : Block κ ℓ δ) : belowLinks G C b [] = ∅ := by
  simp [belowLinks]

@[simp] theorem belowLinks_singleton (b : Block κ ℓ δ) (f : ℓ) :
    belowLinks G C b [f] = Below G C (b.links f) := by
  ext q
  simp [belowLinks]

theorem belowLinks_cons (b : Block κ ℓ δ) (f : ℓ) (fs : List ℓ) :
    belowLinks G C b (f :: fs) = Below G C (b.links f) ∪ belowLinks G C b fs := by
  ext q
  simp only [belowLinks, Set.mem_union, Set.mem_ofPred_eq, List.exists_mem_cons_iff]

section Paths

variable (hf : Forest sig R G)

include hf

theorem Forest.lt_of_step {a b : ℕ} (h : Step G C a b) : a < b := by
  obtain ⟨_, f, -, -, howns⟩ := h
  exact (hf.typed a f b howns).1

theorem Forest.le_of_below {a b : ℕ} (h : ReflTransGen (Step G C) a b) : a ≤ b := by
  induction h with
  | refl => exact le_refl a
  | tail _ hstep ih => exact ih.trans (le_of_lt (hf.lt_of_step hstep))

theorem Forest.step_unique {a a' b : ℕ} (h : Step G C a b) (h' : Step G C a' b) : a = a' := by
  obtain ⟨_, f, -, -, howns⟩ := h
  obtain ⟨_, f', -, -, howns'⟩ := h'
  exact (hf.unique a f a' f' b howns howns').1

/-- What lies below two blocks lies on one path. -/
theorem Forest.below_total {a a' q : ℕ} (h : ReflTransGen (Step G C) a q)
    (h' : ReflTransGen (Step G C) a' q) :
    ReflTransGen (Step G C) a a' ∨ ReflTransGen (Step G C) a' a := by
  induction h with
  | refl => exact Or.inr h'
  | @tail b c hab hstep ih =>
      rcases ReflTransGen.cases_tail h' with rfl | ⟨b', hb', hstep'⟩
      · exact Or.inl (hab.tail hstep)
      · obtain rfl := hf.step_unique hstep hstep'
        exact ih hb'

/-- A block is not below one that it owns. -/
theorem Forest.notMem_below_owned {a x : ℕ} {f : ℓ} (howns : G.Owns a f x) :
    a ∉ Below G C (some x) := by
  rw [mem_below_some]
  intro h
  exact absurd (hf.le_of_below h) (Nat.not_le.mpr (hf.typed a f x howns).1)

/-- What lies below two links of a block is apart. -/
theorem Forest.below_disjoint {a x x' q : ℕ} {f f' : ℓ} (howns : G.Owns a f x)
    (howns' : G.Owns a f' x') (hne : f ≠ f') (hq : q ∈ Below G C (some x)) :
    q ∉ Below G C (some x') := by
  have hpath : ∀ {y y' : ℕ} {e e' : ℓ}, G.Owns a e y → G.Owns a e' y' → e ≠ e' →
      ¬ReflTransGen (Step G C) y y' := by
    intro y y' e e' hy hy' hee h
    rcases ReflTransGen.cases_tail h with rfl | ⟨b, hb, k, e'', -, -, howner⟩
    · exact hee (hf.unique a e a e' _ hy hy').2
    · obtain ⟨rfl, -⟩ := hf.unique b e'' a e' y' howner hy'
      exact absurd (hf.le_of_below hb) (Nat.not_le.mpr (hf.typed b e y hy).1)
  rw [mem_below_some] at hq ⊢
  intro hq'
  rcases hf.below_total hq hq' with h | h
  · exact hpath howns howns' hne h
  · exact hpath howns' howns (Ne.symm hne) h

end Paths

/-! ## The programs free what is below -/

section Programs

variable [DecidableEq κ] (hf : Forest sig R G)

/-- A link that is cleaned by a program that frees what is below it. -/
def CleansLink (sig : κ → ℓ → Option κ) (G : Heap κ ℓ δ) (C : κ → ℓ → Prop) (k : κ)
    (c : ℓ × (Option ℕ → Prog κ ℓ δ γ Unit)) : Prop :=
  C k c.1 ∧ ∃ k', sig k c.1 = some k' ∧ Cleans G C k' c.2

variable {S : Set ℕ} {h : Heap κ ℓ δ} {g : γ} {k : κ} {next : ℓ}
  {cleaners : List (ℓ × (Option ℕ → Prog κ ℓ δ γ Unit))} {a : ℕ} {b : Block κ ℓ δ}

omit [DecidableEq κ] in
theorem Without.free (hw : Without G S h) (a : ℕ) : Without G (insert a S) (h.set a none) where
  next_eq := hw.next_eq
  freed := fun x hx => by
    by_cases hxa : x = a
    · subst hxa
      exact Function.update_self ..
    · exact (Function.update_of_ne hxa ..).trans (hw.freed x (hx.resolve_left hxa))
  kept := fun x hx => by
    rw [Set.mem_insert_iff, not_or] at hx
    exact (Function.update_of_ne hx.1 ..).trans (hw.kept x hx.2)

omit [DecidableEq κ] in
include hf in
theorem Forest.is_of_link (hb : G.block a = some b) {f : ℓ} {k' : κ}
    (hsig : sig b.kind f = some k') : ∀ x, b.links f = some x → G.Is k' x := by
  intro x hx
  obtain ⟨-, k₁, k₂, hk₁, hsig', hk₂⟩ := hf.typed a f x ⟨b, hb, hx⟩
  obtain rfl : b.kind = k₁ := hk₁.kind_eq hb
  obtain rfl : k' = k₂ := Option.some.inj (hsig.symm.trans hsig')
  exact hk₂

omit [DecidableEq κ] in
include hf in
/-- Nothing below a link of the block is below another of its links, or the block itself. -/
theorem Forest.apart_of_link (hb : G.block a = some b) (f : ℓ) :
    a ∉ Below G C (b.links f) ∧ ∀ f', f' ≠ f →
      ∀ q ∈ Below G C (b.links f'), q ∉ Below G C (b.links f) := by
  cases hx : b.links f with
  | none => simp
  | some x =>
      have howns : G.Owns a f x := ⟨b, hb, hx⟩
      refine ⟨hf.notMem_below_owned howns, fun f' hne q hq => ?_⟩
      cases hx' : b.links f' with
      | none => rw [hx', below_none] at hq; exact absurd hq (Set.notMem_empty q)
      | some x' =>
          rw [hx'] at hq
          exact hf.below_disjoint ⟨b, hb, hx'⟩ howns hne hq

include hf in
theorem Forest.runs_cleanLinks (hb : G.block a = some b)
    (hclean : ∀ c ∈ cleaners, CleansLink sig G C b.kind c)
    (hnodup : (cleaners.map Prod.fst).Nodup) (hw : Without G S h) (ha : a ∉ S)
    (hbelow : ∀ f ∈ cleaners.map Prod.fst, ∀ q ∈ Below G C (b.links f), q ∉ S) :
    Runs False (cleanLinks b.kind a cleaners) h g fun _ h' g' => g' = g ∧
      Without G (S ∪ belowLinks G C b (cleaners.map Prod.fst)) h' := by
  induction cleaners generalizing S h g with
  | nil =>
      refine Runs.pure ⟨rfl, ?_⟩
      rwa [List.map_nil, belowLinks_nil, Set.union_empty]
  | cons c cleaners ih =>
      obtain ⟨f, clean⟩ := c
      rw [List.map_cons, List.nodup_cons] at hnodup
      rw [List.map_cons, List.forall_mem_cons] at hbelow
      rw [List.forall_mem_cons] at hclean
      obtain ⟨⟨hC, k', hsig, hcleans⟩, hrest⟩ := hclean
      have hblock : h.block a = some b := (hw.kept a ha).trans hb
      refine Runs.bind_getLink hblock rfl ?_
      refine (hcleans S h g _ hw (hf.is_of_link hb hsig) hbelow.1).bind ?_
      rintro - h'' g'' ⟨rfl, hw'⟩
      obtain ⟨hself, hothers⟩ := hf.apart_of_link (C := C) hb f
      have ha' : a ∉ S ∪ Below G C (b.links f) := by
        rintro (h | h)
        · exact ha h
        · exact hself h
      refine (ih hrest hnodup.2 hw' ha' fun f' hf' q hq => ?_).mono ?_
      · have hne : f' ≠ f := by
          rintro rfl
          exact hnodup.1 hf'
        rintro (h | h)
        · exact hbelow.2 f' hf' q hq h
        · exact hothers f' hne q hq h
      · rintro - h₁ g₁ ⟨rfl, hw₁⟩
        refine ⟨rfl, ?_⟩
        rwa [List.map_cons, belowLinks_cons, ← Set.union_assoc]

/-- The links of the blocks that are cleaned are those of the cleaners, and others `ls`. -/
structure CleansKind (sig : κ → ℓ → Option κ) (G : Heap κ ℓ δ) (C : κ → ℓ → Prop) (k : κ)
    (ls : List ℓ) (cleaners : List (ℓ × (Option ℕ → Prog κ ℓ δ γ Unit))) : Prop where
  links : ∀ f, C k f ↔ f ∈ ls ∨ f ∈ cleaners.map Prod.fst
  cleans : ∀ c ∈ cleaners, CleansLink sig G C k c
  nodup : (ls ++ cleaners.map Prod.fst).Nodup

omit [DecidableEq κ] in
theorem CleansKind.below_eq {ls : List ℓ} (hkind : CleansKind sig G C b.kind ls cleaners)
    (hb : G.block a = some b) : Below G C (some a) =
      insert a (belowLinks G C b (cleaners.map Prod.fst) ∪ belowLinks G C b ls) := by
  ext q
  simp only [mem_below_iff hb, hkind.links, or_and_right, exists_or, Set.mem_insert_iff,
    Set.mem_union, belowLinks, Set.mem_ofPred_eq]
  exact or_congr_right or_comm

include hf in
theorem Forest.cleans_block (hkind : CleansKind sig G C k [] cleaners) :
    Cleans G C k (cleanBlock k cleaners) := by
  intro S h g p hw hp hbelow
  cases p with
  | none =>
      refine Runs.pure ⟨rfl, ?_⟩
      rwa [below_none, Set.union_empty]
  | some a =>
      obtain ⟨b, hb, rfl⟩ := hp a rfl
      have ha : a ∉ S := hbelow a ((mem_below_iff hb).mpr (Or.inl rfl))
      have hlinks : ∀ f ∈ cleaners.map Prod.fst, ∀ q ∈ Below G C (b.links f), q ∉ S :=
        fun f hmem q hq => hbelow q
          ((mem_below_iff hb).mpr (Or.inr ⟨f, (hkind.links f).mpr (Or.inr hmem), hq⟩))
      refine (hf.runs_cleanLinks hb hkind.cleans hkind.nodup hw ha hlinks).bind ?_
      rintro - h' g' ⟨rfl, hw'⟩
      have ha' : a ∉ S ∪ belowLinks G C b (cleaners.map Prod.fst) := by
        rintro (h | ⟨f, -, hmem⟩)
        · exact ha h
        · exact (hf.apart_of_link hb f).1 hmem
      refine runs_free ⟨b, (hw'.kept a ha').trans hb⟩ ⟨rfl, ?_⟩
      rw [hkind.below_eq hb, belowLinks_nil, Set.union_empty, Set.union_insert]
      exact hw'.free a

include hf in
theorem Forest.runs_cleanList (hnext : sig k next = some k)
    (hkind : CleansKind sig G C k [next] cleaners) {fuel : ℕ} {p : Option ℕ}
    (hfuel : ∀ a, p = some a → G.next ≤ a + fuel) (hw : Without G S h)
    (hp : ∀ a, p = some a → G.Is k a) (hbelow : ∀ q ∈ Below G C p, q ∉ S) :
    Runs False (cleanList k next cleaners fuel p) h g fun _ h' g' => g' = g ∧
      Without G (S ∪ Below G C p) h' := by
  induction fuel generalizing S h g p with
  | zero =>
      cases p with
      | none =>
          refine Runs.pure ⟨rfl, ?_⟩
          rwa [below_none, Set.union_empty]
      | some a =>
          exact absurd (hf.lt_next (hp a rfl).live) (Nat.not_lt.mpr (hfuel a rfl))
  | succ fuel ih =>
      cases p with
      | none =>
          refine Runs.pure ⟨rfl, ?_⟩
          rwa [below_none, Set.union_empty]
      | some a =>
          obtain ⟨b, hb, rfl⟩ := hp a rfl
          have hnodup := List.nodup_cons.mp hkind.nodup
          have ha : a ∉ S := hbelow a ((mem_below_iff hb).mpr (Or.inl rfl))
          have hlinks : ∀ f, C b.kind f → ∀ q ∈ Below G C (b.links f), q ∉ S :=
            fun f hC q hq => hbelow q ((mem_below_iff hb).mpr (Or.inr ⟨f, hC, hq⟩))
          have hCnext : C b.kind next := (hkind.links next).mpr (Or.inl List.mem_cons_self)
          refine (hf.runs_cleanLinks hb hkind.cleans hnodup.2 hw ha fun f hmem =>
            hlinks f ((hkind.links f).mpr (Or.inr hmem))).bind ?_
          rintro - h' g' ⟨rfl, hw'⟩
          have ha' : a ∉ S ∪ belowLinks G C b (cleaners.map Prod.fst) := by
            rintro (h | ⟨f, -, hmem⟩)
            · exact ha h
            · exact (hf.apart_of_link hb f).1 hmem
          have hblock : h'.block a = some b := (hw'.kept a ha').trans hb
          refine Runs.bind_getLink hblock rfl ?_
          refine Runs.bind_free ⟨b, hblock⟩ ?_
          have hapart : ∀ q ∈ Below G C (b.links next),
              q ∉ insert a (S ∪ belowLinks G C b (cleaners.map Prod.fst)) := by
            rintro q hq (rfl | hS | ⟨f, hmem, hqf⟩)
            · exact (hf.apart_of_link hb next).1 hq
            · exact hlinks next hCnext q hq hS
            · have hne : next ≠ f := by
                rintro rfl
                exact hnodup.1 hmem
              exact (hf.apart_of_link hb f).2 next hne q hq hqf
          have hfuel' : ∀ x, b.links next = some x → G.next ≤ x + fuel := by
            intro x hx
            have hlt := (hf.typed a next x ⟨b, hb, hx⟩).1
            have := hfuel a rfl
            omega
          refine (ih hfuel' (hw'.free a) (hf.is_of_link hb hnext) hapart).mono ?_
          rintro - h₃ g₃ ⟨rfl, hw₃⟩
          rw [Set.insert_union, Set.union_assoc, ← Set.union_insert,
            ← belowLinks_singleton b next, ← hkind.below_eq hb] at hw₃
          exact ⟨rfl, hw₃⟩

include hf in
theorem Forest.cleans_list (hnext : sig k next = some k)
    (hkind : CleansKind sig G C k [next] cleaners) :
    Cleans G C k (fun p => do cleanList k next cleaners (← bound) p) := by
  intro S h g p hw hp hbelow
  refine Runs.bind_bound ?_
  have hfuel : ∀ a, p = some a → G.next ≤ a + h.next := fun a _ => by
    rw [hw.next_eq]
    exact Nat.le_add_left ..
  exact hf.runs_cleanList hnext hkind hfuel hw hp hbelow

end Programs

/-! ## What is left -/

/-- If just the links to blocks of the kinds `K` are not cleaned, and these blocks own only
such blocks, then all others are below the roots. -/
theorem Forest.below_roots_iff (hf : Forest sig R G) {K : κ → Prop}
    (hcut : ∀ k f k', sig k f = some k' → (C k f ↔ ¬K k'))
    (hclosed : ∀ k f k', sig k f = some k' → K k → K k')
    (hroots : ∀ r ∈ R, ∀ k, G.Is k r → ¬K k) {q : ℕ} {k : κ} (hq : G.Is k q) :
    (∃ r ∈ R, q ∈ Below G C (some r)) ↔ ¬K k := by
  constructor
  · rintro ⟨r, hr, hbelow⟩
    rw [mem_below_some] at hbelow
    rcases ReflTransGen.cases_tail hbelow with rfl | ⟨b, -, kb, f, hkb, hC, howns⟩
    · exact hroots q hr k hq
    · obtain ⟨-, k₁, k₂, hk₁, hsig, hk₂⟩ := hf.typed b f q howns
      obtain rfl := hk₁.kind_unique hkb
      obtain rfl := hk₂.kind_unique hq
      exact (hcut k₁ f k₂ hsig).mp hC
  · intro hK
    induction q using Nat.strong_induction_on generalizing k with
    | _ q ih =>
        by_cases hR : q ∈ R
        · exact ⟨q, hR, mem_below_some.mpr ReflTransGen.refl⟩
        · obtain ⟨a, f, howns⟩ := hf.owned q hq.live hR
          obtain ⟨hlt, k₁, k₂, hk₁, hsig, hk₂⟩ := hf.typed a f q howns
          obtain rfl := hk₂.kind_unique hq
          have hK₁ : ¬K k₁ := fun h => hK (hclosed k₁ f k₂ hsig h)
          obtain ⟨r, hr, hbelow⟩ := ih a hlt hk₁ hK₁
          refine ⟨r, hr, mem_below_some.mpr ?_⟩
          exact (mem_below_some.mp hbelow).tail
            ⟨k₁, f, hk₁, (hcut k₁ f k₂ hsig).mpr hK, howns⟩

end Disposal

end Ownership
