import TeeIoValidator.Library.Block

/-! Records of the accesses to a memory: a list of reads, or a memory that records which of its
words are accessed. -/

namespace TeeIoValidator

/-- The reads that were made: the first byte and the number of bytes. -/
abbrev Reads := List (ℕ × ℕ)

namespace Reads

/-- Every byte that is read belongs to a memory of the given size. -/
def Within (reads : Reads) (size : ℕ) : Prop := ∀ read ∈ reads, read.1 + read.2 ≤ size

instance (reads : Reads) (size : ℕ) : Decidable (reads.Within size) :=
  inferInstanceAs (Decidable (∀ _ ∈ reads, _))

variable {size : ℕ}

theorem within_nil : Within [] size := List.forall_mem_nil _

theorem within_append {reads reads' : Reads} :
    Within (reads ++ reads') size ↔ reads.Within size ∧ reads'.Within size :=
  List.forall_mem_append

theorem within_singleton {first n : ℕ} : Within [(first, n)] size ↔ first + n ≤ size :=
  List.forall_mem_singleton

theorem within_flatMap {α : Type*} {ps : List α} {reads : α → Reads} :
    Within (ps.flatMap reads) size ↔ ∀ p ∈ ps, (reads p).Within size := by
  simp only [Within, List.mem_flatMap]
  exact ⟨fun h p hp read hread => h read ⟨p, hp, hread⟩,
    fun h read ⟨p, hp, hread⟩ => h p hp read hread⟩

end Reads

structure Tracked (α : Type*) where
  mem : ℕ → α
  accessed : List ℕ

namespace Tracked

variable {α : Type*}

/-- Nothing is accessed yet. -/
def start (mem : ℕ → α) : Tracked α := ⟨mem, []⟩

def read (t : Tracked α) (a : ℕ) : α × Tracked α := (t.mem a, ⟨t.mem, t.accessed ++ [a]⟩)

def write (t : Tracked α) (a : ℕ) (v : α) : Tracked α :=
  ⟨Function.update t.mem a v, t.accessed ++ [a]⟩

def writeBlock (t : Tracked α) (dst : ℕ) : List α → Tracked α
  | [] => t
  | v :: vs => (t.write dst v).writeBlock (dst + 1) vs

/-- The words at some addresses are read in order, and a value is kept. -/
def scan {β : Type*} (f : β → ℕ → α → β) : List ℕ → β → Tracked α → β × Tracked α
  | [], b, t => (b, t)
  | a :: as, b, t => scan f as (f b a (t.read a).1) (t.read a).2

@[simp] theorem read_fst (t : Tracked α) (a : ℕ) : (t.read a).1 = t.mem a := rfl

@[simp] theorem read_snd_mem (t : Tracked α) (a : ℕ) : (t.read a).2.mem = t.mem := rfl

@[simp] theorem write_mem (t : Tracked α) (a : ℕ) (v : α) :
    (t.write a v).mem = Function.update t.mem a v := rfl

@[simp] theorem writeBlock_mem (t : Tracked α) (dst : ℕ) (vs : List α) :
    (t.writeBlock dst vs).mem = Block.write t.mem dst vs := by
  induction vs generalizing t dst with
  | nil => rfl
  | cons v vs ih => rw [writeBlock, ih, write_mem, Block.write]

@[simp] theorem scan_snd_mem {β : Type*} (f : β → ℕ → α → β) (as : List ℕ) (b : β)
    (t : Tracked α) : (t.scan f as b).2.mem = t.mem := by
  induction as generalizing b t with
  | nil => rfl
  | cons a as ih => rw [scan, ih, read_snd_mem]

/-- A loop that keeps the addresses whose words pass a test. -/
theorem scan_filter (p : α → Bool) (as bs : List ℕ) (t : Tracked α) :
    (t.scan (fun bs a v => if p v then bs ++ [a] else bs) as bs).1 =
      bs ++ as.filter fun a => p (t.mem a) := by
  induction as generalizing bs t with
  | nil => simp [scan]
  | cons a as ih =>
      rw [scan, ih, read_fst, read_snd_mem]
      cases hp : p (t.mem a) with
      | false => simp [hp]
      | true => simp [hp]

/-- A loop that notes whether a word fails a test. -/
theorem scan_any (p : α → Bool) (as : List ℕ) (b : Bool) (t : Tracked α) :
    (t.scan (fun b _ v => if p v then b else true) as b).1 =
      (b || as.any fun a => !p (t.mem a)) := by
  induction as generalizing b t with
  | nil => simp [scan]
  | cons a as ih =>
      rw [scan, ih, read_fst, read_snd_mem]
      cases hp : p (t.mem a) with
      | false => simp [hp]
      | true => simp [hp]

/-! ## Memories of a given size -/

def Within (t : Tracked α) (size : ℕ) : Prop := ∀ a ∈ t.accessed, a < size

variable {size : ℕ}

theorem within_append {mem : ℕ → α} {accessed : List ℕ} {a : ℕ} :
    Within ⟨mem, accessed ++ [a]⟩ size ↔ (∀ b ∈ accessed, b < size) ∧ a < size := by
  simp only [Within, List.forall_mem_append, List.forall_mem_singleton]

@[simp] theorem within_start (mem : ℕ → α) : (start mem).Within size :=
  List.forall_mem_nil _

@[simp] theorem within_read (t : Tracked α) (a : ℕ) :
    (t.read a).2.Within size ↔ t.Within size ∧ a < size :=
  within_append

@[simp] theorem within_write (t : Tracked α) (a : ℕ) (v : α) :
    (t.write a v).Within size ↔ t.Within size ∧ a < size :=
  within_append

theorem within_scan {β : Type*} (f : β → ℕ → α → β) (as : List ℕ) (b : β) (t : Tracked α) :
    (t.scan f as b).2.Within size ↔ t.Within size ∧ ∀ a ∈ as, a < size := by
  induction as generalizing b t with
  | nil => simp [scan]
  | cons a as ih => rw [scan, ih, within_read, List.forall_mem_cons, and_assoc]

theorem within_writeBlock (t : Tracked α) (dst : ℕ) {vs : List α} (hne : vs ≠ []) :
    (t.writeBlock dst vs).Within size ↔ t.Within size ∧ dst + vs.length ≤ size := by
  induction vs generalizing t dst with
  | nil => exact absurd rfl hne
  | cons v vs ih =>
      rw [writeBlock]
      cases vs with
      | nil => exact within_write t dst v
      | cons w vs =>
          rw [ih _ _ (List.cons_ne_nil w vs), within_write]
          simp only [List.length_cons]
          constructor
          · rintro ⟨⟨ht, -⟩, hlast⟩
            exact ⟨ht, by omega⟩
          · rintro ⟨ht, hlast⟩
            exact ⟨⟨ht, by omega⟩, by omega⟩

end Tracked

end TeeIoValidator
