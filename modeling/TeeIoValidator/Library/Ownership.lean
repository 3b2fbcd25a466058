import Mathlib.Data.BitVec
import Mathlib.Data.Set.Basic
import Mathlib.Logic.Function.Basic
import Mathlib.Tactic.Common
import TeeIoValidator.Library.Checked

/-! Programs that allocate blocks, link them and free them. A block owns the blocks that its
links point to; the kinds of the blocks say which links there are. -/

namespace Ownership

/-- What a program must not do with a pointer, and the two ways not to get on: a stop that
the program makes itself, and a walk that finds no end. -/
inductive Fault where
  | null
  | dangling
  | mistyped
  | stopped
  | endless
  deriving Repr, DecidableEq

structure Block (κ ℓ δ : Type) where
  kind : κ
  links : ℓ → Option ℕ
  data : δ

/-- Addresses are not used twice: those from `next` on are free. -/
structure Heap (κ ℓ δ : Type) where
  next : ℕ
  block : ℕ → Option (Block κ ℓ δ)

variable {κ ℓ δ γ α β : Type}

/-- A program on a heap and on the data `γ` beside it. -/
abbrev Prog (κ ℓ δ γ α : Type) := StateT (Heap κ ℓ δ × γ) (Except Fault) α

namespace Heap

def empty : Heap κ ℓ δ := ⟨0, fun _ => none⟩

def alloc (k : κ) (d : δ) (h : Heap κ ℓ δ) : Heap κ ℓ δ :=
  ⟨h.next + 1, Function.update h.block h.next (some ⟨k, fun _ => none, d⟩)⟩

def set (a : ℕ) (b : Option (Block κ ℓ δ)) (h : Heap κ ℓ δ) : Heap κ ℓ δ :=
  { h with block := Function.update h.block a b }

/-- A live block of the kind. -/
def Is (h : Heap κ ℓ δ) (k : κ) (a : ℕ) : Prop := ∃ b, h.block a = some b ∧ b.kind = k

/-- A live block of the kind with these data. -/
def Holds (h : Heap κ ℓ δ) (k : κ) (d : δ) (a : ℕ) : Prop :=
  ∃ b, h.block a = some b ∧ b.kind = k ∧ b.data = d

def Live (h : Heap κ ℓ δ) (a : ℕ) : Prop := ∃ b, h.block a = some b

/-- The live block `a` owns `q` through the link. -/
def Owns (h : Heap κ ℓ δ) (a : ℕ) (f : ℓ) (q : ℕ) : Prop :=
  ∃ b, h.block a = some b ∧ b.links f = some q

theorem Is.live {h : Heap κ ℓ δ} {k : κ} {a : ℕ} (ha : h.Is k a) : h.Live a := by
  obtain ⟨b, hb, -⟩ := ha
  exact ⟨b, hb⟩

theorem Holds.is {h : Heap κ ℓ δ} {k : κ} {d : δ} {a : ℕ} (ha : h.Holds k d a) : h.Is k a := by
  obtain ⟨b, hb, hk, -⟩ := ha
  exact ⟨b, hb, hk⟩

theorem Holds.unique {h : Heap κ ℓ δ} {k k' : κ} {d d' : δ} {a : ℕ} (ha : h.Holds k d a)
    (ha' : h.Holds k' d' a) : d' = d := by
  obtain ⟨b, hb, -, rfl⟩ := ha
  obtain ⟨c, hc, -, rfl⟩ := ha'
  exact congrArg Block.data (Option.some.inj (hc.symm.trans hb))

theorem Is.kind_eq {h : Heap κ ℓ δ} {k : κ} {a : ℕ} {b : Block κ ℓ δ} (ha : h.Is k a)
    (hb : h.block a = some b) : b.kind = k := by
  obtain ⟨c, hc, rfl⟩ := ha
  exact congrArg Block.kind (Option.some.inj (hb.symm.trans hc))

theorem Is.kind_unique {h : Heap κ ℓ δ} {k k' : κ} {a : ℕ} (ha : h.Is k a)
    (ha' : h.Is k' a) : k = k' := by
  obtain ⟨b, hb, rfl⟩ := ha
  exact ha'.kind_eq hb

end Heap

/-! ## Statements -/

section Statements

variable [DecidableEq κ] [DecidableEq ℓ]

def malloc (k : κ) (d : δ) : Prog κ ℓ δ γ ℕ := fun (h, g) => .ok (h.next, h.alloc k d, g)

/-- The block that a pointer to this kind points to. -/
def deref (k : κ) (p : Option ℕ) : Prog κ ℓ δ γ (Block κ ℓ δ) := fun (h, g) =>
  match p with
  | none => .error .null
  | some a =>
    match h.block a with
    | none => .error .dangling
    | some b => if b.kind = k then .ok (b, h, g) else .error .mistyped

def getLink (k : κ) (p : Option ℕ) (f : ℓ) : Prog κ ℓ δ γ (Option ℕ) := do
  let b ← deref k p
  pure (b.links f)

/-- Another block is written at the pointer. -/
def store (a : ℕ) (b : Block κ ℓ δ) : Prog κ ℓ δ γ Unit := fun (h, g) =>
  .ok ((), h.set a (some b), g)

def setLink (k : κ) (p : ℕ) (f : ℓ) (q : Option ℕ) : Prog κ ℓ δ γ Unit := do
  let b ← deref k (some p)
  store p { b with links := Function.update b.links f q }

/-- A null pointer may be freed. -/
def free (p : Option ℕ) : Prog κ ℓ δ γ Unit := fun (h, g) =>
  match p with
  | none => .ok ((), h, g)
  | some a =>
    match h.block a with
    | none => .error .dangling
    | some _ => .ok ((), h.set a none, g)

def fail (fault : Fault) : Prog κ ℓ δ γ α := fun _ => .error fault

/-- The bound on the walks: no list has more blocks. -/
def bound : Prog κ ℓ δ γ ℕ := fun (h, g) => .ok (h.next, h, g)

/-- `while(itr->next) itr = itr->next`. -/
def walkToLast (k : κ) (next : ℓ) : ℕ → ℕ → Prog κ ℓ δ γ ℕ
  | 0, _ => fail .endless
  | fuel + 1, itr => do
    match ← getLink k (some itr) next with
    | none => pure itr
    | some q => walkToLast k next fuel q

/-- Append a block to the list of blocks of kind `k` that `p` owns. -/
def appendLink (kp : κ) (p : ℕ) (f : ℓ) (k : κ) (next : ℓ) (new : ℕ) : Prog κ ℓ δ γ Unit := do
  match ← getLink kp (some p) f with
  | none => setLink kp p f (some new)
  | some head =>
    let last ← walkToLast k next (← bound) head
    setLink k last next (some new)

/-- Append a block to the list that a pointer points to; the pointer after it. -/
def appendHeader (k : κ) (next : ℓ) (header : Option ℕ) (new : ℕ) :
    Prog κ ℓ δ γ (Option ℕ) := do
  match header with
  | none => pure (some new)
  | some head =>
    let last ← walkToLast k next (← bound) head
    setLink k last next (some new)
    pure header

end Statements

/-! ## Rules -/

/-- From this state the program ends with `post`; it stops itself only if `stops` holds. -/
def Runs (stops : Prop) (m : Prog κ ℓ δ γ α) (h : Heap κ ℓ δ) (g : γ)
    (post : α → Heap κ ℓ δ → γ → Prop) : Prop :=
  Checked.Ends (fun fault => fault = .stopped ∧ stops) (fun r => post r.1 r.2.1 r.2.2) (m (h, g))

section Rules

variable {stops : Prop} {h : Heap κ ℓ δ} {g : γ} {m : Prog κ ℓ δ γ α} {next : α → Prog κ ℓ δ γ β}
  {post post' : α → Heap κ ℓ δ → γ → Prop} {post'' : β → Heap κ ℓ δ → γ → Prop}

theorem Runs.bind (hm : Runs stops m h g post)
    (hnext : ∀ a h' g', post a h' g' → Runs stops (next a) h' g' post'') :
    Runs stops (m >>= next) h g post'' :=
  Checked.Ends.bind hm fun r hr => hnext r.1 r.2.1 r.2.2 hr

theorem Runs.mono (hm : Runs stops m h g post) (hpost : ∀ a h' g', post a h' g' → post' a h' g') :
    Runs stops m h g post' :=
  Checked.Ends.mono hm fun r => hpost r.1 r.2.1 r.2.2

theorem Runs.pure {a : α} (ha : post a h g) : Runs stops (pure a : Prog κ ℓ δ γ α) h g post := ha

theorem Runs.stopped (hstops : stops) : Runs stops (fail .stopped : Prog κ ℓ δ γ α) h g post :=
  ⟨rfl, hstops⟩

theorem Runs.imp_stops {stops' : Prop} (hm : Runs stops m h g post) (himp : stops → stops') :
    Runs stops' m h g post := by
  rw [Runs, Checked.ends_iff] at hm ⊢
  exact ⟨hm.1, fun fault hfault => (hm.2 fault hfault).imp id himp⟩

theorem Runs.of_eq {a : α} {h' : Heap κ ℓ δ} {g' : γ} (hm : m (h, g) = .ok (a, h', g'))
    (hpost : post a h' g') : Runs stops m h g post := by
  rw [Runs, hm]
  exact hpost

theorem Runs.bind_of_eq {a : α} {h' : Heap κ ℓ δ} {g' : γ} (hm : m (h, g) = .ok (a, h', g'))
    (hnext : Runs stops (next a) h' g' post'') : Runs stops (m >>= next) h g post'' := by
  change Checked.Ends _ _ (m (h, g) >>= fun r => next r.1 r.2)
  rw [hm]
  exact hnext

theorem Runs.bind_malloc {k : κ} {d : δ} {next : ℕ → Prog κ ℓ δ γ β}
    (hnext : Runs stops (next h.next) (h.alloc k d) g post'') :
    Runs stops (malloc k d >>= next) h g post'' := hnext

theorem Runs.bind_bound {next : ℕ → Prog κ ℓ δ γ β} (hnext : Runs stops (next h.next) h g post'') :
    Runs stops (bound >>= next) h g post'' := hnext

theorem free_eq {a : ℕ} (ha : h.Live a) :
    (free (some a) : Prog κ ℓ δ γ Unit) (h, g) = .ok ((), h.set a none, g) := by
  obtain ⟨b, hb⟩ := ha
  simp only [free, hb]

theorem runs_free {a : ℕ} {post : Unit → Heap κ ℓ δ → γ → Prop} (ha : h.Live a)
    (hpost : post () (h.set a none) g) : Runs stops (free (some a)) h g post :=
  Runs.of_eq (free_eq ha) hpost

theorem Runs.bind_free {a : ℕ} {next : Unit → Prog κ ℓ δ γ β} (ha : h.Live a)
    (hnext : Runs stops (next ()) (h.set a none) g post'') :
    Runs stops (free (some a) >>= next) h g post'' :=
  Runs.bind_of_eq (free_eq ha) hnext

variable [DecidableEq κ] {k : κ} {a : ℕ} {b : Block κ ℓ δ} (hb : h.block a = some b)
  (hk : b.kind = k)

include hb hk

theorem deref_eq : (deref k (some a) : Prog κ ℓ δ γ (Block κ ℓ δ)) (h, g) = .ok (b, h, g) := by
  simp only [deref, hb, if_pos hk]

theorem getLink_eq (f : ℓ) :
    (getLink k (some a) f : Prog κ ℓ δ γ (Option ℕ)) (h, g) = .ok (b.links f, h, g) := by
  change (deref k (some a) (h, g) >>= fun r => pure (r.1.links f, r.2)) = _
  rw [deref_eq hb hk]
  rfl

theorem Runs.bind_deref {next : Block κ ℓ δ → Prog κ ℓ δ γ β}
    (hnext : Runs stops (next b) h g post'') : Runs stops (deref k (some a) >>= next) h g post'' :=
  Runs.bind_of_eq (deref_eq hb hk) hnext

theorem Runs.bind_getLink {f : ℓ} {next : Option ℕ → Prog κ ℓ δ γ β}
    (hnext : Runs stops (next (b.links f)) h g post'') :
    Runs stops (getLink k (some a) f >>= next) h g post'' :=
  Runs.bind_of_eq (getLink_eq hb hk f) hnext

variable [DecidableEq ℓ]

theorem setLink_eq (f : ℓ) (q : Option ℕ) :
    (setLink k a f q : Prog κ ℓ δ γ Unit) (h, g) =
      .ok ((), h.set a (some { b with links := Function.update b.links f q }), g) := by
  change (deref k (some a) (h, g) >>= fun r => store a _ r.2) = _
  rw [deref_eq hb hk]
  rfl

theorem runs_setLink {f : ℓ} {q : Option ℕ} {post : Unit → Heap κ ℓ δ → γ → Prop}
    (hpost : post () (h.set a (some { b with links := Function.update b.links f q })) g) :
    Runs stops (setLink k a f q) h g post :=
  Runs.of_eq (setLink_eq hb hk f q) hpost

theorem Runs.bind_setLink {f : ℓ} {q : Option ℕ} {next : Unit → Prog κ ℓ δ γ β}
    (hnext : Runs stops (next ()) (h.set a (some { b with links := Function.update b.links f q })) g
      post'') :
    Runs stops (setLink k a f q >>= next) h g post'' :=
  Runs.bind_of_eq (setLink_eq hb hk f q) hnext

end Rules

/-! ## Growing heaps -/

/-- Every block is still there with its kind and with the links it had. -/
def Heap.Grows (h h' : Heap κ ℓ δ) : Prop :=
  h.next ≤ h'.next ∧ ∀ a b, h.block a = some b →
    ∃ b', h'.block a = some b' ∧ b'.kind = b.kind ∧
      ∀ f q, b.links f = some q → b'.links f = some q

namespace Heap.Grows

variable {h h' h'' : Heap κ ℓ δ}

protected theorem refl (h : Heap κ ℓ δ) : h.Grows h :=
  ⟨le_refl _, fun _ b hb => ⟨b, hb, rfl, fun _ _ hq => hq⟩⟩

theorem trans (h₁ : h.Grows h') (h₂ : h'.Grows h'') : h.Grows h'' := by
  refine ⟨h₁.1.trans h₂.1, fun a b hb => ?_⟩
  obtain ⟨b', hb', hkind', hlinks'⟩ := h₁.2 a b hb
  obtain ⟨b'', hb'', hkind'', hlinks''⟩ := h₂.2 a b' hb'
  exact ⟨b'', hb'', hkind''.trans hkind', fun f q hq => hlinks'' f q (hlinks' f q hq)⟩

theorem is {k : κ} {a : ℕ} (hg : h.Grows h') (ha : h.Is k a) : h'.Is k a := by
  obtain ⟨b, hb, rfl⟩ := ha
  obtain ⟨b', hb', hkind, -⟩ := hg.2 a b hb
  exact ⟨b', hb', hkind⟩

theorem owns {a q : ℕ} {f : ℓ} (hg : h.Grows h') (ha : h.Owns a f q) : h'.Owns a f q := by
  obtain ⟨b, hb, hq⟩ := ha
  obtain ⟨b', hb', -, hlinks⟩ := hg.2 a b hb
  exact ⟨b', hb', hlinks f q hq⟩

end Heap.Grows

/-! ## Forests -/

/-- Every live block is a root or is owned once, by an older block with such a link. -/
structure Forest (sig : κ → ℓ → Option κ) (R : Set ℕ) (h : Heap κ ℓ δ) : Prop where
  fresh : ∀ a, h.next ≤ a → h.block a = none
  typed : ∀ a f q, h.Owns a f q →
    a < q ∧ ∃ k k', h.Is k a ∧ sig k f = some k' ∧ h.Is k' q
  unique : ∀ a f b f' q, h.Owns a f q → h.Owns b f' q → a = b ∧ f = f'
  roots : ∀ q ∈ R, h.Live q ∧ ∀ a f, ¬h.Owns a f q
  owned : ∀ q, h.Live q → q ∉ R → ∃ a f, h.Owns a f q

theorem forest_empty (sig : κ → ℓ → Option κ) : Forest sig ∅ (Heap.empty : Heap κ ℓ δ) where
  fresh _ _ := rfl
  typed a f q hq := by
    obtain ⟨b, hb, -⟩ := hq
    cases hb
  unique a f b f' q hq := by
    obtain ⟨c, hc, -⟩ := hq
    cases hc
  roots q hq := absurd hq (Set.notMem_empty q)
  owned q hq := by
    obtain ⟨b, hb⟩ := hq
    cases hb

theorem Forest.lt_next {sig : κ → ℓ → Option κ} {R : Set ℕ} {h : Heap κ ℓ δ}
    (hf : Forest sig R h) {a : ℕ} (ha : h.Live a) : a < h.next := by
  obtain ⟨b, hb⟩ := ha
  by_contra hle
  cases hb.symm.trans (hf.fresh a (Nat.not_lt.mp hle))

section Alloc

variable {h : Heap κ ℓ δ} {k : κ} {d : δ}

theorem block_alloc_self : (h.alloc k d).block h.next = some ⟨k, fun _ => none, d⟩ :=
  Function.update_self ..

theorem block_alloc_of_ne {a : ℕ} (ha : a ≠ h.next) : (h.alloc k d).block a = h.block a :=
  Function.update_of_ne ha ..

theorem is_alloc_self : (h.alloc k d).Is k h.next := ⟨_, block_alloc_self, rfl⟩

theorem holds_alloc_self : (h.alloc k d).Holds k d h.next := ⟨_, block_alloc_self, rfl, rfl⟩

variable (hfresh : h.block h.next = none)

include hfresh

theorem grows_alloc : h.Grows (h.alloc k d) := by
  refine ⟨Nat.le_succ _, fun a b hb => ⟨b, ?_, rfl, fun _ _ hq => hq⟩⟩
  have hne : a ≠ h.next := by
    rintro rfl
    cases hb.symm.trans hfresh
  rw [block_alloc_of_ne hne, hb]

theorem holds_alloc {k' : κ} {d' : δ} {a : ℕ} (ha : h.Holds k' d' a) :
    (h.alloc k d).Holds k' d' a := by
  obtain ⟨b, hb, hkind⟩ := ha
  have hne : a ≠ h.next := by
    rintro rfl
    cases hb.symm.trans hfresh
  exact ⟨b, (block_alloc_of_ne hne).trans hb, hkind⟩

theorem owns_alloc_iff {a q : ℕ} {f : ℓ} : (h.alloc k d).Owns a f q ↔ h.Owns a f q := by
  refine ⟨?_, (grows_alloc hfresh).owns⟩
  rintro ⟨b, hb, hq⟩
  by_cases ha : a = h.next
  · subst ha
    rw [block_alloc_self] at hb
    cases hb
    cases hq
  · rw [block_alloc_of_ne ha] at hb
    exact ⟨b, hb, hq⟩

theorem is_alloc_iff {a : ℕ} {k' : κ} :
    (h.alloc k d).Is k' a ↔ h.Is k' a ∨ (a = h.next ∧ k' = k) := by
  by_cases ha : a = h.next
  · subst ha
    refine ⟨fun hk' => Or.inr ⟨rfl, hk'.kind_unique is_alloc_self⟩, ?_⟩
    rintro (⟨b, hb, -⟩ | ⟨-, rfl⟩)
    · cases hb.symm.trans hfresh
    · exact is_alloc_self
  · simp only [Heap.Is, block_alloc_of_ne ha, ha, false_and, or_false]

omit hfresh in
theorem live_alloc_iff {a : ℕ} : (h.alloc k d).Live a ↔ h.Live a ∨ a = h.next := by
  by_cases ha : a = h.next
  · subst ha
    exact ⟨fun _ => Or.inr rfl, fun _ => is_alloc_self.live⟩
  · simp only [Heap.Live, block_alloc_of_ne ha, ha, or_false]

omit hfresh in
/-- The new block is a root. -/
theorem Forest.alloc {sig : κ → ℓ → Option κ} {R : Set ℕ} (hf : Forest sig R h) (k : κ)
    (d : δ) : Forest sig (insert h.next R) (h.alloc k d) := by
  have hfresh : h.block h.next = none := hf.fresh _ (le_refl _)
  have hgrows : h.Grows (h.alloc k d) := grows_alloc hfresh
  refine ⟨fun a ha => ?_, fun a f q hq => ?_, fun a f b f' q hq hq' => ?_, fun q hq => ?_,
    fun q hq hR => ?_⟩
  · have hne : a ≠ h.next := Nat.ne_of_gt ha
    rw [block_alloc_of_ne hne]
    exact hf.fresh a (Nat.le_of_succ_le ha)
  · obtain ⟨hlt, k₁, k₂, hk₁, hsig, hk₂⟩ := hf.typed a f q ((owns_alloc_iff hfresh).mp hq)
    exact ⟨hlt, k₁, k₂, hgrows.is hk₁, hsig, hgrows.is hk₂⟩
  · exact hf.unique a f b f' q ((owns_alloc_iff hfresh).mp hq) ((owns_alloc_iff hfresh).mp hq')
  · rcases Set.mem_insert_iff.mp hq with rfl | hq
    · refine ⟨is_alloc_self.live, fun a f howns => ?_⟩
      obtain ⟨-, _, _, -, -, hk⟩ := hf.typed a f _ ((owns_alloc_iff hfresh).mp howns)
      obtain ⟨b, hb, -⟩ := hk
      cases hb.symm.trans hfresh
    · obtain ⟨hlive, hnone⟩ := hf.roots q hq
      exact ⟨live_alloc_iff.mpr (Or.inl hlive),
        fun a f howns => hnone a f ((owns_alloc_iff hfresh).mp howns)⟩
  · rw [Set.mem_insert_iff, not_or] at hR
    have hlive := (live_alloc_iff.mp hq).resolve_right hR.1
    obtain ⟨a, f, howns⟩ := hf.owned q hlive hR.2
    exact ⟨a, f, hgrows.owns howns⟩

end Alloc

/-- `q` is attached to `a`, whose link was null. -/
def Attaches [DecidableEq ℓ] (a : ℕ) (f : ℓ) (q : ℕ) (h h' : Heap κ ℓ δ) : Prop :=
  ∃ b, h.block a = some b ∧ b.links f = none ∧
    h' = h.set a (some { b with links := Function.update b.links f (some q) })

section Attach

variable [DecidableEq ℓ] {h h' : Heap κ ℓ δ} {a q : ℕ} {f : ℓ}

namespace Attaches

theorem next_eq (ha : Attaches a f q h h') : h'.next = h.next := by
  obtain ⟨b, -, -, rfl⟩ := ha
  rfl

theorem block_of_ne (ha : Attaches a f q h h') {x : ℕ} (hx : x ≠ a) :
    h'.block x = h.block x := by
  obtain ⟨b, -, -, rfl⟩ := ha
  exact Function.update_of_ne hx ..

/-- A block has the kind that it had. -/
theorem is_iff (ha : Attaches a f q h h') {k : κ} {x : ℕ} : h'.Is k x ↔ h.Is k x := by
  by_cases hx : x = a
  · subst hx
    obtain ⟨b, hb, -, rfl⟩ := ha
    simp only [Heap.Is, Heap.set, Function.update_self, hb, Option.some.injEq,
      exists_eq_left']
  · simp only [Heap.Is, ha.block_of_ne hx]

theorem holds (ha : Attaches a f q h h') {k : κ} {d : δ} {x : ℕ} (hx : h.Holds k d x) :
    h'.Holds k d x := by
  by_cases hxa : x = a
  · subst hxa
    obtain ⟨b, hb, -, rfl⟩ := ha
    obtain ⟨c, hc, hkind⟩ := hx
    cases hb.symm.trans hc
    exact ⟨_, Function.update_self .., hkind⟩
  · obtain ⟨c, hc, hkind⟩ := hx
    exact ⟨c, (ha.block_of_ne hxa).trans hc, hkind⟩

theorem live_iff (ha : Attaches a f q h h') {x : ℕ} : h'.Live x ↔ h.Live x := by
  by_cases hx : x = a
  · subst hx
    obtain ⟨b, hb, -, rfl⟩ := ha
    simp only [Heap.Live, Heap.set, Function.update_self, hb, Option.some.injEq, exists_eq']
  · simp only [Heap.Live, ha.block_of_ne hx]

theorem owns_iff (ha : Attaches a f q h h') {x y : ℕ} {f' : ℓ} :
    h'.Owns x f' y ↔ h.Owns x f' y ∨ (x = a ∧ f' = f ∧ y = q) := by
  by_cases hx : x = a
  · subst hx
    obtain ⟨b, hb, hnone, rfl⟩ := ha
    simp only [Heap.Owns, Heap.set, Function.update_self, hb, Option.some.injEq,
      exists_eq_left', true_and]
    by_cases hf : f' = f
    · subst hf
      simp only [Function.update_self, hnone, Option.some.injEq, reduceCtorEq, false_or,
        true_and]
      exact eq_comm
    · simp only [Function.update_of_ne hf, hf, false_and, or_false]
  · simp only [Heap.Owns, ha.block_of_ne hx, hx, false_and, or_false]

theorem owns (ha : Attaches a f q h h') : h'.Owns a f q :=
  ha.owns_iff.mpr (Or.inr ⟨rfl, rfl, rfl⟩)

theorem grows (ha : Attaches a f q h h') : h.Grows h' := by
  refine ⟨le_of_eq ha.next_eq.symm, fun x b hb => ?_⟩
  obtain ⟨b', hb', hkind⟩ := ha.is_iff.mpr ⟨b, hb, rfl⟩
  refine ⟨b', hb', hkind, fun f' y hy => ?_⟩
  obtain ⟨c, hc, hy'⟩ := ha.owns_iff.mpr (Or.inl ⟨b, hb, hy⟩)
  cases hb'.symm.trans hc
  exact hy'

end Attaches

/-- A root that is attached to an older block is a root no more. -/
theorem Forest.attach {sig : κ → ℓ → Option κ} {R : Set ℕ} (hf : Forest sig R h)
    (ha : Attaches a f q h h') {k k' : κ} (hk : h.Is k a) (hsig : sig k f = some k')
    (hk' : h.Is k' q) (hlt : a < q) (hq : q ∈ R) : Forest sig (R \ {q}) h' := by
  have hnone := (hf.roots q hq).2
  refine ⟨fun x hx => ?_, fun x f' y hy => ?_, fun x f₁ x' f₂ y hy hy' => ?_, fun y hy => ?_,
    fun y hy hR => ?_⟩
  · rw [ha.next_eq] at hx
    have hne : x ≠ a := by
      rintro rfl
      obtain ⟨b, hb, -⟩ := hk
      cases hb.symm.trans (hf.fresh x hx)
    rw [ha.block_of_ne hne]
    exact hf.fresh x hx
  · rcases ha.owns_iff.mp hy with hy | ⟨rfl, rfl, rfl⟩
    · obtain ⟨hlt', k₁, k₂, hk₁, hsig', hk₂⟩ := hf.typed x f' y hy
      exact ⟨hlt', k₁, k₂, ha.is_iff.mpr hk₁, hsig', ha.is_iff.mpr hk₂⟩
    · exact ⟨hlt, k, k', ha.is_iff.mpr hk, hsig, ha.is_iff.mpr hk'⟩
  · rcases ha.owns_iff.mp hy with hy | ⟨rfl, rfl, rfl⟩
    · rcases ha.owns_iff.mp hy' with hy' | ⟨rfl, rfl, rfl⟩
      · exact hf.unique x f₁ x' f₂ y hy hy'
      · exact absurd hy (hnone x f₁)
    · rcases ha.owns_iff.mp hy' with hy' | ⟨rfl, rfl, -⟩
      · exact absurd hy' (hnone x' f₂)
      · exact ⟨rfl, rfl⟩
  · obtain ⟨hlive, hnone'⟩ := hf.roots y hy.1
    refine ⟨ha.live_iff.mpr hlive, fun x f' howns => ?_⟩
    rcases ha.owns_iff.mp howns with howns | ⟨-, -, rfl⟩
    · exact hnone' x f' howns
    · exact hy.2 rfl
  · by_cases hyq : y = q
    · subst hyq
      exact ⟨a, f, ha.owns⟩
    · have hR' : y ∉ R := fun hmem => hR ⟨hmem, hyq⟩
      obtain ⟨x, f', howns⟩ := hf.owned y (ha.live_iff.mp hy) hR'
      exact ⟨x, f', ha.owns_iff.mpr (Or.inl howns)⟩

end Attach

/-! ## Other data in a block -/

section SetData

variable {h : Heap κ ℓ δ} {a : ℕ} {b : Block κ ℓ δ} (hb : h.block a = some b) (d : δ)

include hb

theorem is_setData_iff {k : κ} {x : ℕ} :
    (h.set a (some { b with data := d })).Is k x ↔ h.Is k x := by
  by_cases hx : x = a
  · subst hx
    simp only [Heap.Is, Heap.set, Function.update_self, hb, Option.some.injEq,
      exists_eq_left']
  · simp only [Heap.Is, Heap.set, Function.update_of_ne hx]

theorem holds_setData {k : κ} {d' : δ} {x : ℕ} (hne : b.kind ≠ k) (hx : h.Holds k d' x) :
    (h.set a (some { b with data := d })).Holds k d' x := by
  obtain ⟨c, hc, hkind, hdata⟩ := hx
  have hxa : x ≠ a := by
    rintro rfl
    cases hb.symm.trans hc
    exact hne hkind
  exact ⟨c, (Function.update_of_ne hxa ..).trans hc, hkind, hdata⟩

theorem owns_setData_iff {x y : ℕ} {f : ℓ} :
    (h.set a (some { b with data := d })).Owns x f y ↔ h.Owns x f y := by
  by_cases hx : x = a
  · subst hx
    simp only [Heap.Owns, Heap.set, Function.update_self, hb, Option.some.injEq,
      exists_eq_left']
  · simp only [Heap.Owns, Heap.set, Function.update_of_ne hx]

theorem live_setData_iff {x : ℕ} :
    (h.set a (some { b with data := d })).Live x ↔ h.Live x := by
  by_cases hx : x = a
  · subst hx
    simp only [Heap.Live, Heap.set, Function.update_self, hb, Option.some.injEq, exists_eq']
  · simp only [Heap.Live, Heap.set, Function.update_of_ne hx]

theorem grows_setData : h.Grows (h.set a (some { b with data := d })) := by
  refine ⟨le_refl _, fun x c hc => ?_⟩
  obtain ⟨c', hc', hkind⟩ := (is_setData_iff hb d).mpr ⟨c, hc, rfl⟩
  refine ⟨c', hc', hkind, fun f q hq => ?_⟩
  obtain ⟨c'', hc'', hq''⟩ := (owns_setData_iff hb d).mpr ⟨c, hc, hq⟩
  cases hc'.symm.trans hc''
  exact hq''

theorem Forest.setData {sig : κ → ℓ → Option κ} {R : Set ℕ} (hf : Forest sig R h) :
    Forest sig R (h.set a (some { b with data := d })) where
  fresh x hx := by
    have hne : x ≠ a := by
      rintro rfl
      cases hb.symm.trans (hf.fresh x hx)
    exact (Function.update_of_ne hne ..).trans (hf.fresh x hx)
  typed x f q hq := by
    obtain ⟨hlt, k, k', hk, hsig, hk'⟩ := hf.typed x f q ((owns_setData_iff hb d).mp hq)
    exact ⟨hlt, k, k', (is_setData_iff hb d).mpr hk, hsig, (is_setData_iff hb d).mpr hk'⟩
  unique x f y f' q hq hq' := hf.unique x f y f' q ((owns_setData_iff hb d).mp hq)
    ((owns_setData_iff hb d).mp hq')
  roots q hq := by
    obtain ⟨hlive, hnone⟩ := hf.roots q hq
    exact ⟨(live_setData_iff hb d).mpr hlive,
      fun x f howns => hnone x f ((owns_setData_iff hb d).mp howns)⟩
  owned q hq hR := by
    obtain ⟨x, f, howns⟩ := hf.owned q ((live_setData_iff hb d).mp hq) hR
    exact ⟨x, f, (owns_setData_iff hb d).mpr howns⟩

end SetData

/-! ## Appending -/

section Append

variable [DecidableEq κ] {stops : Prop} {sig : κ → ℓ → Option κ} {R : Set ℕ} {h : Heap κ ℓ δ}
  {g : γ} {k kp : κ} {next f : ℓ} {p new : ℕ}

/-- The walk ends at a block of the list that has no next one. -/
theorem Forest.runs_walkToLast (hf : Forest sig R h) (hnext : sig k next = some k)
    (hp : h.Is k p) {fuel : ℕ} (hfuel : h.next ≤ p + fuel) :
    Runs stops (walkToLast k next fuel p) h g fun last h' g' => h' = h ∧ g' = g ∧
      (last = p ∨ ∃ a f', h.Owns a f' last) ∧
      ∃ b, h.block last = some b ∧ b.kind = k ∧ b.links next = none := by
  induction fuel generalizing p with
  | zero => exact absurd (hf.lt_next hp.live) (Nat.not_lt.mpr hfuel)
  | succ fuel ih =>
      obtain ⟨b, hb, hkind⟩ := hp
      refine Runs.bind_getLink hb hkind ?_
      cases hq : b.links next with
      | none => exact Runs.pure ⟨rfl, rfl, Or.inl rfl, b, hb, hkind, hq⟩
      | some q =>
          have howns : h.Owns p next q := ⟨b, hb, hq⟩
          obtain ⟨hlt, k₁, k₂, hk₁, hsig, hk₂⟩ := hf.typed p next q howns
          obtain rfl : k = k₁ := hkind.symm.trans (hk₁.kind_eq hb)
          obtain rfl : k = k₂ := Option.some.inj (hnext.symm.trans hsig)
          refine (ih hk₂ (by omega)).mono ?_
          rintro last h'' g'' ⟨hh, hg, hlast, hend⟩
          refine ⟨hh, hg, Or.inr ?_, hend⟩
          rcases hlast with rfl | hlast
          · exact ⟨p, next, howns⟩
          · exact hlast

variable [DecidableEq ℓ]

/-- The newest block of its kind, still a root, goes to the end of the list. -/
theorem Forest.runs_appendLink (hf : Forest sig R h) (hp : h.Is kp p)
    (hsig : sig kp f = some k) (hnext : sig k next = some k) (hnew : h.Is k new)
    (hnewest : ∀ a, h.Is k a → a ≤ new) (hlt : p < new) (hR : new ∈ R) :
    Runs stops (appendLink kp p f k next new) h g fun _ h' g' => g' = g ∧
      Forest sig (R \ {new}) h' ∧ (∃ q, h'.Owns p f q) ∧
      ∃ a f', Attaches a f' new h h' ∧ ((a = p ∧ f' = f) ∨ (h.Is k a ∧ f' = next)) := by
  obtain ⟨b, hb, hkind⟩ := hp
  refine Runs.bind_getLink hb hkind ?_
  cases hq : b.links f with
  | none =>
      have hattach : Attaches p f new h
          (h.set p (some { b with links := Function.update b.links f (some new) })) :=
        ⟨b, hb, hq, rfl⟩
      exact runs_setLink hb hkind
        ⟨rfl, hf.attach hattach ⟨b, hb, hkind⟩ hsig hnew hlt hR, ⟨new, hattach.owns⟩, p, f,
          hattach, Or.inl ⟨rfl, rfl⟩⟩
  | some head =>
      have hhead : h.Owns p f head := ⟨b, hb, hq⟩
      obtain ⟨-, k₁, k₂, hk₁, hsig', hk₂⟩ := hf.typed p f head hhead
      obtain rfl : kp = k₁ := hkind.symm.trans (hk₁.kind_eq hb)
      obtain rfl : k = k₂ := Option.some.inj (hsig.symm.trans hsig')
      refine Runs.bind_bound ?_
      refine (hf.runs_walkToLast hnext hk₂ (Nat.le_add_left _ _)).bind ?_
      rintro last h' g' ⟨rfl, rfl, hlast, c, hc, hckind, hcnext⟩
      have hislast : h'.Is k last := ⟨c, hc, hckind⟩
      have howned : ∃ a f', h'.Owns a f' last := by
        rcases hlast with rfl | hlast
        · exact ⟨p, f, hhead⟩
        · exact hlast
      have hne : last ≠ new := by
        rintro rfl
        obtain ⟨a, f', ha⟩ := howned
        exact (hf.roots last hR).2 a f' ha
      have hltlast : last < new := lt_of_le_of_ne (hnewest last hislast) hne
      have hattach : Attaches last next new h'
          (h'.set last (some { c with links := Function.update c.links next (some new) })) :=
        ⟨c, hc, hcnext, rfl⟩
      exact runs_setLink hc hckind
        ⟨rfl, hf.attach hattach hislast hnext hnew hltlast hR, ⟨head, hattach.grows.owns hhead⟩,
          last, next, hattach, Or.inr ⟨hislast, rfl⟩⟩

/-- Another root goes to the end of the list that a root starts. -/
theorem Forest.runs_appendHeader (hf : Forest sig R h) (hnext : sig k next = some k)
    {head : ℕ} (hhead : h.Is k head) (hnew : h.Is k new) (hnewest : ∀ a, h.Is k a → a ≤ new)
    (hne : head ≠ new) (hR : new ∈ R) :
    Runs stops (appendHeader k next (some head) new) h g fun header h' g' => g' = g ∧
      header = some head ∧ Forest sig (R \ {new}) h' ∧
      ∃ a, h.Is k a ∧ Attaches a next new h h' := by
  refine Runs.bind_bound ?_
  refine (hf.runs_walkToLast hnext hhead (Nat.le_add_left _ _)).bind ?_
  rintro last h' g' ⟨rfl, rfl, hlast, c, hc, hckind, hcnext⟩
  have hislast : h'.Is k last := ⟨c, hc, hckind⟩
  have hne' : last ≠ new := by
    rintro rfl
    rcases hlast with rfl | ⟨a, f', ha⟩
    · exact hne rfl
    · exact (hf.roots last hR).2 a f' ha
  have hlt : last < new := lt_of_le_of_ne (hnewest last hislast) hne'
  have hattach : Attaches last next new h'
      (h'.set last (some { c with links := Function.update c.links next (some new) })) :=
    ⟨c, hc, hcnext, rfl⟩
  exact Runs.bind_setLink hc hckind
    (Runs.pure ⟨rfl, rfl, hf.attach hattach hislast hnext hnew hlt hR, last, hislast, hattach⟩)

end Append

end Ownership
