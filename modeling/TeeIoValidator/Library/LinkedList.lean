import Mathlib.Data.BitVec
import Mathlib.Data.List.Nodup

/-! Lists of cells on a heap: each cell points to the next one. A pointer is an address or null. -/

namespace LinkedList

/-- What happens when a pointer is followed that cannot be, or for ever. -/
inductive PointerFault where
  | null
  | dangling
  | endless
  deriving Repr, DecidableEq

structure Cell (α : Type*) where
  value : α
  next : Option ℕ
  deriving Repr, DecidableEq

/-- The cells that were allocated, at the addresses from 0 on, and those that were released. -/
structure Heap (α : Type*) where
  cells : List (Cell α)
  released : List ℕ
  deriving Repr, DecidableEq

variable {α : Type*}

namespace Heap

def empty : Heap α := ⟨[], []⟩

def load (h : Heap α) : Option ℕ → Except PointerFault (Cell α)
  | none => .error .null
  | some a =>
    if a ∈ h.released then .error .dangling
    else
      match h.cells[a]? with
      | none => .error .dangling
      | some cell => .ok cell

/-- A new cell and its address. -/
def alloc (h : Heap α) (cell : Cell α) : ℕ × Heap α :=
  (h.cells.length, { h with cells := h.cells ++ [cell] })

def store (h : Heap α) (a : ℕ) (cell : Cell α) : Heap α := { h with cells := h.cells.set a cell }

def release (h : Heap α) (a : ℕ) : Heap α := { h with released := h.released ++ [a] }

variable {h : Heap α} {a b : ℕ} {cell cell' : Cell α}

theorem load_eq_ok :
    h.load (some a) = .ok cell ↔ a ∉ h.released ∧ h.cells[a]? = some cell := by
  rw [load]
  split_ifs with hmem
  · simp [hmem]
  · cases hget : h.cells[a]? with
    | none => simp
    | some found => simp [hmem]

theorem load_alloc (hload : h.load (some a) = .ok cell) :
    (h.alloc cell').2.load (some a) = .ok cell := by
  obtain ⟨hmem, hget⟩ := load_eq_ok.mp hload
  obtain ⟨hlt, -⟩ := List.getElem?_eq_some_iff.mp hget
  exact load_eq_ok.mpr ⟨hmem, by rw [alloc, List.getElem?_append_left hlt, hget]⟩

theorem load_alloc_self (hmem : h.cells.length ∉ h.released) :
    (h.alloc cell).2.load (some (h.alloc cell).1) = .ok cell :=
  load_eq_ok.mpr ⟨hmem, by simp [alloc]⟩

theorem load_store_self (hload : h.load (some a) = .ok cell') :
    (h.store a cell).load (some a) = .ok cell := by
  obtain ⟨hmem, hget⟩ := load_eq_ok.mp hload
  obtain ⟨hlt, -⟩ := List.getElem?_eq_some_iff.mp hget
  exact load_eq_ok.mpr ⟨hmem, by rw [store, List.getElem?_set_self hlt]⟩

theorem load_store_of_ne (hne : b ≠ a) : (h.store a cell).load (some b) = h.load (some b) := by
  simp only [load, store, List.getElem?_set_ne (Ne.symm hne)]

theorem load_release_of_ne (hne : b ≠ a) : (h.release a).load (some b) = h.load (some b) := by
  simp only [load, release, List.mem_append, List.mem_singleton, hne, or_false]

@[simp] theorem length_cells_store : (h.store a cell).cells.length = h.cells.length :=
  List.length_set

@[simp] theorem released_store : (h.store a cell).released = h.released := rfl

end Heap

open Heap

/-! ## Segments -/

/-- The addresses and the values of the cells from one pointer up to another. -/
inductive Segment (h : Heap α) : Option ℕ → List ℕ → List α → Option ℕ → Prop where
  | nil (p : Option ℕ) : Segment h p [] [] p
  | cons {a : ℕ} {v : α} {next q : Option ℕ} {as : List ℕ} {vs : List α}
      (hload : h.load (some a) = .ok ⟨v, next⟩) (rest : Segment h next as vs q) :
      Segment h (some a) (a :: as) (v :: vs) q

section Segments

variable {h h' : Heap α} {p q : Option ℕ} {as : List ℕ} {vs : List α} {l : ℕ} {v : α}

theorem Segment.frame (hseg : Segment h p as vs q)
    (hload : ∀ a ∈ as, h'.load (some a) = h.load (some a)) : Segment h' p as vs q := by
  induction hseg with
  | nil p => exact Segment.nil p
  | cons hcell rest ih =>
      rw [List.forall_mem_cons] at hload
      exact Segment.cons (hload.1.trans hcell) (ih hload.2)

theorem Segment.snoc (hseg : Segment h p as vs (some l)) {next : Option ℕ}
    (hload : h.load (some l) = .ok ⟨v, next⟩) : Segment h p (as ++ [l]) (vs ++ [v]) next := by
  generalize hlast : some l = last at hseg
  induction hseg with
  | nil p =>
      subst hlast
      exact Segment.cons hload (Segment.nil next)
  | cons hcell rest ih => exact Segment.cons hcell (ih hlast)

theorem Segment.length_eq (hseg : Segment h p as vs q) : as.length = vs.length := by
  induction hseg with
  | nil p => rfl
  | cons hcell rest ih => rw [List.length_cons, List.length_cons, ih]

/-- A list that is not empty has a last cell. -/
theorem Segment.exists_last (hseg : Segment h p as vs none) (hne : as ≠ []) :
    ∃ as' l vs' v, as = as' ++ [l] ∧ vs = vs' ++ [v] ∧ Segment h p as' vs' (some l) ∧
      h.load (some l) = .ok ⟨v, none⟩ := by
  generalize hq : none = q at hseg
  induction hseg with
  | nil p => exact absurd rfl hne
  | @cons a v next q as vs hcell rest ih =>
      subst hq
      by_cases has : as = []
      · subst has
        cases rest
        exact ⟨[], a, [], v, rfl, rfl, Segment.nil _, hcell⟩
      · obtain ⟨as', l, vs', v', rfl, rfl, hrest, hlast⟩ := ih has rfl
        exact ⟨a :: as', l, v :: vs', v', rfl, rfl, Segment.cons hcell hrest, hlast⟩

end Segments

/-! ## Appending -/

/-- The last cell of the list at an address. -/
def last (h : Heap α) : ℕ → ℕ → Except PointerFault ℕ
  | 0, _ => .error .endless
  | fuel + 1, a =>
    match h.load (some a) with
    | .error fault => .error fault
    | .ok cell =>
      match cell.next with
      | none => .ok a
      | some b => last h fuel b

/-- The cell at `c` behind the last one of a list. -/
def append (h : Heap α) (fuel : ℕ) (header : Option ℕ) (c : ℕ) :
    Except PointerFault (Option ℕ × Heap α) :=
  match header with
  | none => .ok (some c, h)
  | some first =>
    match last h fuel first with
    | .error fault => .error fault
    | .ok l =>
      match h.load (some l) with
      | .error fault => .error fault
      | .ok cell => .ok (some first, h.store l { cell with next := some c })

section Append

variable {h : Heap α} {as : List ℕ} {vs : List α}

theorem last_eq {a l fuel : ℕ} {v : α} (hseg : Segment h (some a) as vs (some l))
    (hlast : h.load (some l) = .ok ⟨v, none⟩) (hfuel : as.length < fuel) :
    last h fuel a = .ok l := by
  induction fuel generalizing a as vs with
  | zero => exact absurd hfuel (Nat.not_lt_zero _)
  | succ fuel ih =>
      cases hseg with
      | nil => simp only [last, hlast]
      | cons hcell rest =>
          rename_i next as vs
          cases next with
          | none => cases rest
          | some b =>
              simp only [last, hcell]
              exact ih rest (Nat.lt_of_succ_lt_succ hfuel)

/-- The list goes on with the cell. -/
theorem append_spec {header : Option ℕ} {c fuel : ℕ} {w : α} (hseg : Segment h header as vs none)
    (hnodup : (as ++ [c]).Nodup) (hc : h.load (some c) = .ok ⟨w, none⟩)
    (hfuel : as.length ≤ fuel) :
    ∃ header' h', append h fuel header c = .ok (header', h') ∧
      Segment h' header' (as ++ [c]) (vs ++ [w]) none ∧
      h'.cells.length = h.cells.length ∧ h'.released = h.released := by
  cases header with
  | none =>
      cases hseg
      exact ⟨some c, h, rfl, Segment.cons hc (Segment.nil none), rfl, rfl⟩
  | some first =>
      have hne : as ≠ [] := by
        rintro rfl
        cases hseg
      obtain ⟨as', l, vs', v, rfl, rfl, hseg', hload⟩ := hseg.exists_last hne
      rw [List.length_append, List.length_singleton] at hfuel
      have hlast := last_eq hseg' hload hfuel
      refine ⟨some first, h.store l ⟨v, some c⟩, ?_, ?_, length_cells_store, rfl⟩
      · simp only [append, hlast, hload]
      · have hdisjoint := List.nodup_append.mp hnodup
        have hcl : c ≠ l := fun heq => hdisjoint.2.2 l (by simp) c (by simp) heq.symm
        have hl : ∀ a ∈ as', a ≠ l := fun a ha =>
          (List.nodup_append.mp hdisjoint.1).2.2 a ha l (by simp)
        have hframe : Segment (h.store l ⟨v, some c⟩) (some first) as' vs' (some l) :=
          hseg'.frame fun a ha => load_store_of_ne (hl a ha)
        have hstored : (h.store l ⟨v, some c⟩).load (some l) = .ok ⟨v, some c⟩ :=
          load_store_self hload
        refine (hframe.snoc hstored).snoc ?_
        rw [load_store_of_ne hcl]
        exact hc

end Append

end LinkedList
