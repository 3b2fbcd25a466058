import TeeIoValidator.Model.IniConfig.SwConns
import TeeIoValidator.Verification.IniConfig.Topologies

/-! # Connections of switches

The records of the pieces are linked in their order. A wrong piece leaves its own record behind,
and the loop that frees the others follows the null pointer at their end.
-/

namespace TeeIoValidator.IniConfig

open IniFile LinkedList Checked

variable {testConfig : IdeTestConfig}

/-! ## Pieces -/

theorem splitAtFirst_cons (c d : UInt8) (str : List UInt8) :
    splitAtFirst c (d :: str) =
      if d = c then some ([], str)
      else (splitAtFirst c str).map fun parts => (d :: parts.1, parts.2) := by
  by_cases hd : d = c
  · subst hd
    simp [splitAtFirst]
  · simp only [splitAtFirst, List.takeWhile_cons, bne_iff_ne, ne_eq, hd, not_false_eq_true, if_true,
      List.length_cons, Nat.add_right_cancel_iff, if_false, List.drop_succ_cons]
    split_ifs with hlength
    · rfl
    · rfl

theorem splitAtFirst_eq_some {c : UInt8} {str first rest : List UInt8} :
    splitAtFirst c str = some (first, rest) ↔ str = first ++ c :: rest ∧ c ∉ first := by
  induction str generalizing first with
  | nil => simp [splitAtFirst]
  | cons d str ih =>
      rw [splitAtFirst_cons]
      by_cases hd : d = c
      · subst hd
        rw [if_pos rfl]
        cases first with
        | nil => simp [eq_comm]
        | cons e first =>
            simp only [Option.some.injEq, Prod.mk.injEq, reduceCtorEq, false_and, false_iff,
              List.cons_append, List.cons.injEq, List.mem_cons, not_or, not_and]
            rintro ⟨rfl, -⟩ hne
            exact absurd rfl hne
      · rw [if_neg hd]
        cases first with
        | nil => simp [hd]
        | cons e first =>
            simp only [Option.map_eq_some_iff, Prod.mk.injEq, Prod.exists, List.cons.injEq,
              List.cons_append, List.mem_cons, not_or]
            constructor
            · rintro ⟨first', rest', hsplit, ⟨rfl, rfl⟩, rfl⟩
              obtain ⟨hstr, hmem⟩ := ih.mp hsplit
              exact ⟨⟨rfl, hstr⟩, Ne.symm hd, hmem⟩
            · rintro ⟨⟨rfl, hstr⟩, -, hmem⟩
              exact ⟨first, rest, ih.mpr ⟨hstr, hmem⟩, ⟨rfl, rfl⟩, rfl⟩

theorem parseSwitchString_eq_some {piece : List UInt8} {conn : IdeSwitchInternalConnection} :
    parseSwitchString testConfig piece = some conn ↔ Connects testConfig piece conn := by
  simp only [parseSwitchString, Option.bind_eq_bind, Option.bind_eq_some_iff, Connects]
  constructor
  · rintro ⟨⟨name, ports⟩, hname, sw, hsw, ⟨port1, port2⟩, hports, p1, hp1, p2, hp2, hconn⟩
    obtain ⟨rfl, hnameEnds⟩ := splitAtFirst_eq_some.mp hname
    obtain ⟨rfl, hportEnds⟩ := splitAtFirst_eq_some.mp hports
    exact ⟨name, port1, port2, sw, p1, p2,
      ⟨rfl, hnameEnds, hportEnds, hsw, hp1, hp2, (Option.some.inj hconn).symm⟩⟩
  · rintro ⟨name, port1, port2, sw, p1, p2, h⟩
    exact ⟨(name, port1 ++ '-'.toUInt8 :: port2),
      splitAtFirst_eq_some.mpr ⟨h.splits, h.nameEnds⟩, sw, h.findsSwitch, (port1, port2),
      splitAtFirst_eq_some.mpr ⟨rfl, h.portEnds⟩, p1, h.findsPort1, p2, h.findsPort2,
      congrArg some h.ids.symm⟩

/-- What is cut off in front of the first comma. -/
theorem connPieces_eq (str : List UInt8) :
    connPieces str = match findCharInStr str comma with
      | none => [str]
      | some pos => str.take pos :: connPieces (str.drop (pos + 1)) := by
  cases hfind : findCharInStr str comma with
  | none => exact List.splitOnP_eq_singleton (List.findIdx?_eq_none_iff.mp hfind)
  | some pos =>
      obtain ⟨hlt, hcomma, hbefore⟩ := List.findIdx?_eq_some_iff_getElem.mp hfind
      have htake : ∀ x ∈ str.take pos, (x == comma) = false := by
        intro x hx
        obtain ⟨j, hj, rfl⟩ := List.getElem_of_mem hx
        rw [List.length_take] at hj
        rw [List.getElem_take]
        exact Bool.eq_false_iff.mpr (hbefore j (by omega))
      have hstr : str = str.take pos ++ str[pos] :: str.drop (pos + 1) := by
        rw [List.cons_getElem_drop_succ, List.take_append_drop]
      rw [connPieces, hstr, List.splitOnP_append_cons_of_forall_mem htake _ hcomma, ← hstr]
      rfl

def firstPiece (str : List UInt8) : List UInt8 :=
  str.take ((findCharInStr str comma).getD str.length)

def laterPieces (str : List UInt8) : List (List UInt8) :=
  match findCharInStr str comma with
  | none => []
  | some pos => connPieces (str.drop (pos + 1))

theorem connPieces_cons (str : List UInt8) :
    connPieces str = firstPiece str :: laterPieces str := by
  rw [connPieces_eq, firstPiece, laterPieces]
  cases findCharInStr str comma with
  | none => simp
  | some pos => rfl

theorem findCharInStr_lt {str : List UInt8} {c : UInt8} {pos : ℕ}
    (h : findCharInStr str c = some pos) : pos < str.length := by
  obtain ⟨hlt, -⟩ := List.findIdx?_eq_some_iff_getElem.mp h
  exact hlt

theorem length_firstPiece (str : List UInt8) :
    (firstPiece str).length = (findCharInStr str comma).getD str.length := by
  rw [firstPiece, List.length_take]
  cases hfind : findCharInStr str comma with
  | none => simp
  | some pos => simpa using Nat.le_of_lt (findCharInStr_lt hfind)

theorem length_drop_lt {str : List UInt8} {c : UInt8} {pos : ℕ}
    (h : findCharInStr str c = some pos) : (str.drop (pos + 1)).length < str.length := by
  have hlt := findCharInStr_lt h
  rw [List.length_drop]
  omega

/-! ## The list of records -/

/-- The records are those of the list, in their order, and none is freed. -/
structure Listed (s : ConnsState) (conns : List IdeSwitchInternalConnection) : Prop where
  segment : Segment s.heap s.header (List.range conns.length) conns none
  length : s.heap.cells.length = conns.length
  released : s.heap.released = []

/-- There is one record more than those of the list. -/
structure LeftBehind (s : ConnsState) (conns : List IdeSwitchInternalConnection) : Prop where
  segment : Segment s.heap s.header (List.range conns.length) conns none
  length : s.heap.cells.length = conns.length + 1
  released : s.heap.released = []

variable {s : ConnsState} {conns : List IdeSwitchInternalConnection}

theorem listed_empty : Listed ⟨none, Heap.empty⟩ [] := ⟨Segment.nil none, rfl, rfl⟩

theorem Listed.alloc (h : Listed s conns) :
    LeftBehind ⟨s.header, (s.heap.alloc zeroConn).2⟩ conns := by
  refine ⟨h.segment.frame fun a ha => ?_, ?_, h.released⟩
  · obtain ⟨cell, hcell⟩ : ∃ cell, s.heap.load (some a) = .ok cell := by
      rw [List.mem_range, ← h.length] at ha
      exact ⟨s.heap.cells[a], Heap.load_eq_ok.mpr ⟨by simp [h.released], by simp [ha]⟩⟩
    rw [Heap.load_alloc hcell, hcell]
  · simp [Heap.alloc, h.length]

/-- A piece that is right lengthens the list. -/
theorem Listed.append (h : Listed s conns) (value : IdeSwitchInternalConnection) :
    ∃ header heap,
      append ((s.heap.alloc zeroConn).2.store (s.heap.alloc zeroConn).1 ⟨value, none⟩)
          ((s.heap.alloc zeroConn).2.store (s.heap.alloc zeroConn).1
            ⟨value, none⟩).cells.length s.header (s.heap.alloc zeroConn).1 =
        .ok (header, heap) ∧ Listed ⟨header, heap⟩ (conns ++ [value]) := by
  have halloc := h.alloc
  have hconn : (s.heap.alloc zeroConn).1 = conns.length := h.length
  rw [hconn]
  have hself : (s.heap.alloc zeroConn).2.load (some conns.length) = .ok zeroConn := by
    have hload : (s.heap.alloc zeroConn).2.load (some (s.heap.alloc zeroConn).1) =
        .ok zeroConn := Heap.load_alloc_self (by simp [h.released])
    rwa [hconn] at hload
  have hnew : ((s.heap.alloc zeroConn).2.store conns.length ⟨value, none⟩).load
      (some conns.length) = .ok ⟨value, none⟩ := Heap.load_store_self hself
  have hsegment : Segment ((s.heap.alloc zeroConn).2.store conns.length ⟨value, none⟩) s.header
      (List.range conns.length) conns none :=
    halloc.segment.frame fun a ha => Heap.load_store_of_ne (Nat.ne_of_lt (List.mem_range.mp ha))
  have hrange : List.range conns.length ++ [conns.length] = List.range (conns.length + 1) :=
    List.range_succ.symm
  have hfuel : (List.range conns.length).length ≤
      ((s.heap.alloc zeroConn).2.store conns.length ⟨value, none⟩).cells.length := by
    simp [halloc.length]
  obtain ⟨header, heap, happend, hlist, hlength, hreleased⟩ := append_spec hsegment
    (by rw [hrange]; exact List.nodup_range) hnew hfuel
  refine ⟨header, heap, happend, ?_, ?_, ?_⟩
  · rw [hrange] at hlist
    rwa [List.length_append, List.length_singleton]
  · rw [hlength, Heap.length_cells_store, halloc.length, List.length_append,
      List.length_singleton]
  · rw [hreleased, Heap.released_store, halloc.released]

/-! ## The loop over the pieces -/

/-- The loop with a list of connections in place of the records. -/
def collectConns (testConfig : IdeTestConfig) : List (List UInt8) →
    List IdeSwitchInternalConnection → Checked (Bool × List IdeSwitchInternalConnection)
  | [], conns => .ok (true, conns)
  | piece :: rest, conns =>
    if piece.length ≥ maxLineLength then .error .overrun
    else
      match parseSwitchString testConfig piece with
      | none => .ok (false, conns)
      | some conn => collectConns testConfig rest (conns ++ [conn])

/-- The records after the loop are those of the connections. -/
inductive Records : Checked (Bool × ConnsState) →
    Checked (Bool × List IdeSwitchInternalConnection) → Prop where
  | fault (fault : Fault) : Records (.error fault) (.error fault)
  | listed {s : ConnsState} {conns : List IdeSwitchInternalConnection} (h : Listed s conns) :
      Records (.ok (true, s)) (.ok (true, conns))
  | leftBehind {s : ConnsState} {conns : List IdeSwitchInternalConnection}
      (h : LeftBehind s conns) : Records (.ok (false, s)) (.ok (false, conns))

theorem Records.listed_of_true {loop : Checked (Bool × ConnsState)}
    (h : Records loop (.ok (true, conns))) : ∃ s, loop = .ok (true, s) ∧ Listed s conns := by
  cases h with
  | listed hlisted => exact ⟨_, rfl, hlisted⟩

theorem Records.leftBehind_of_false {loop : Checked (Bool × ConnsState)}
    (h : Records loop (.ok (false, conns))) :
    ∃ s, loop = .ok (false, s) ∧ LeftBehind s conns := by
  cases h with
  | leftBehind hleft => exact ⟨_, rfl, hleft⟩

theorem Records.fault_of_error {loop : Checked (Bool × ConnsState)} {fault : Fault}
    (h : Records loop (.error fault)) : loop = .error fault := by
  cases h with
  | fault => rfl

theorem swConnsLoop_records (testConfig : IdeTestConfig) (str : List UInt8) (h : Listed s conns) :
    Records (swConnsLoop testConfig str s)
      (collectConns testConfig (connPieces str) conns) := by
  induction hn : str.length using Nat.strong_induction_on generalizing str s conns with
  | _ n ih =>
      subst hn
      rw [swConnsLoop, connPieces_cons, collectConns, length_firstPiece]
      simp only [firstPiece]
      split_ifs with hsize
      · exact Records.fault .overrun
      · rw [parseIntoConn]
        cases hparse : parseSwitchString testConfig
            (str.take ((findCharInStr str comma).getD str.length)) with
        | none => exact Records.leftBehind h.alloc
        | some value =>
            obtain ⟨header, heap, happend, hlisted⟩ := h.append value
            simp only [Option.map_some, happend, checkPointer]
            split <;> rename_i hfind
            · rw [laterPieces, hfind]
              exact Records.listed hlisted
            · rename_i pos
              rw [laterPieces, hfind]
              exact ih _ (length_drop_lt hfind) _ hlisted rfl

theorem collectConns_eq_true {ps : List (List UInt8)} {conns all : List IdeSwitchInternalConnection}
    (h : collectConns testConfig ps conns = .ok (true, all)) :
    ∃ values, all = conns ++ values ∧ List.Forall₂ (Connects testConfig) ps values ∧
      ∀ piece ∈ ps, piece.length < maxLineLength := by
  induction ps generalizing conns with
  | nil =>
      cases h
      exact ⟨[], (List.append_nil _).symm, List.Forall₂.nil, nofun⟩
  | cons piece ps ih =>
      rw [collectConns] at h
      split_ifs at h with hsize
      cases hparse : parseSwitchString testConfig piece with
      | none => simp [hparse] at h
      | some conn =>
          simp only [hparse] at h
          obtain ⟨values, rfl, hvalues, hlengths⟩ := ih h
          refine ⟨conn :: values, by simp, ?_, ?_⟩
          · exact List.Forall₂.cons (parseSwitchString_eq_some.mp hparse) hvalues
          · exact List.forall_mem_cons.mpr ⟨Nat.lt_of_not_le hsize, hlengths⟩

theorem collectConns_of_connects {ps : List (List UInt8)}
    {conns values : List IdeSwitchInternalConnection}
    (hvalues : List.Forall₂ (Connects testConfig) ps values)
    (hlengths : ∀ piece ∈ ps, piece.length < maxLineLength) :
    collectConns testConfig ps conns = .ok (true, conns ++ values) := by
  induction hvalues generalizing conns with
  | nil => rw [collectConns, List.append_nil]
  | cons hconn hvalues ih =>
      rw [List.forall_mem_cons] at hlengths
      rw [collectConns, if_neg (Nat.not_le_of_lt hlengths.1), parseSwitchString_eq_some.mpr hconn]
      simp only
      rw [ih hlengths.2, List.append_assoc, List.singleton_append]

theorem not_forall₂_of_collectConns {ps : List (List UInt8)}
    {conns all : List IdeSwitchInternalConnection}
    (h : collectConns testConfig ps conns = .ok (false, all))
    (values : List IdeSwitchInternalConnection) :
    ¬ List.Forall₂ (Connects testConfig) ps values := by
  intro hvalues
  induction hvalues generalizing conns with
  | nil => cases h
  | cons hconn hvalues ih =>
      rw [collectConns] at h
      split_ifs at h
      rw [parseSwitchString_eq_some.mpr hconn] at h
      exact ih h

/-! ## The loop that frees the records -/

/-- The loop goes on until it cannot follow a pointer. -/
theorem freeConns_ne_ok (fuel header : ℕ) (itr : Option ℕ) (heap : ConnHeap)
    (result : Option ℕ × ConnHeap) : freeConns fuel header itr heap ≠ .ok result := by
  induction fuel generalizing header itr heap with
  | zero => nofun
  | succ fuel ih =>
      rw [freeConns]
      cases itr with
      | none => nofun
      | some a =>
          simp only
          cases checkPointer ((heap.release header).load (some a)) with
          | error fault => nofun
          | ok cell => exact ih a cell.next _

/-- The null pointer at the end of a list is followed. -/
theorem freeConns_eq_crash {fuel header : ℕ} {itr : Option ℕ} {heap : ConnHeap} {as : List ℕ}
    {vs : List IdeSwitchInternalConnection} (hsegment : Segment heap itr as vs none)
    (hnodup : (header :: as).Nodup) (hfuel : as.length < fuel) :
    freeConns fuel header itr heap = .error .crash := by
  induction fuel generalizing header itr heap as vs with
  | zero => exact absurd hfuel (Nat.not_lt_zero _)
  | succ fuel ih =>
      rw [freeConns]
      cases hsegment with
      | nil => rfl
      | cons hload hrest =>
          rename_i a value next as vs
          rw [List.nodup_cons, List.mem_cons, not_or] at hnodup
          obtain ⟨⟨hne, hmem⟩, hnodup⟩ := hnodup
          simp only [Heap.load_release_of_ne (Ne.symm hne), hload, checkPointer]
          refine ih (hrest.frame fun b hb => Heap.load_release_of_ne ?_) hnodup
            (Nat.lt_of_succ_lt_succ hfuel)
          rintro rfl
          exact hmem hb

/-! ## The parser -/

section Parser

variable (swConns : List UInt8)

/-- The loop of the parser starts with no record. -/
theorem swConnsLoop_start {result : Checked (Bool × List IdeSwitchInternalConnection)}
    (h : collectConns testConfig (connPieces swConns) [] = result) :
    Records (swConnsLoop testConfig swConns ⟨none, Heap.empty⟩) result := by
  rw [← h]
  exact swConnsLoop_records testConfig swConns listed_empty

theorem parseSwConnsRecords_listed
    (h : collectConns testConfig (connPieces swConns) [] = .ok (true, conns)) :
    ∃ s, parseSwConnsRecords testConfig swConns = .ok s ∧ Listed s conns := by
  obtain ⟨s, hloop, hlisted⟩ := (swConnsLoop_start swConns h).listed_of_true
  exact ⟨s, by rw [parseSwConnsRecords, hloop]; rfl, hlisted⟩

/-- A first piece that is wrong leaves its record behind. -/
theorem parseSwConnsRecords_leftBehind
    (h : collectConns testConfig (connPieces swConns) [] = .ok (false, [])) :
    ∃ s, parseSwConnsRecords testConfig swConns = .ok s ∧ LeftBehind s [] := by
  obtain ⟨⟨header, heap⟩, hloop, hleft⟩ := (swConnsLoop_start swConns h).leftBehind_of_false
  have hheader : header = none := by
    cases hleft.segment
    rfl
  subst hheader
  exact ⟨_, by rw [parseSwConnsRecords, hloop]; rfl, hleft⟩

/-- A later piece that is wrong follows a null pointer. -/
theorem parseSwConnsRecords_crash (hne : conns ≠ [])
    (h : collectConns testConfig (connPieces swConns) [] = .ok (false, conns)) :
    parseSwConnsRecords testConfig swConns = .error .crash := by
  obtain ⟨⟨header, heap⟩, hloop, hleft⟩ := (swConnsLoop_start swConns h).leftBehind_of_false
  obtain ⟨hsegment, hlength, -⟩ := hleft
  have hnodup : (List.range conns.length).Nodup := List.nodup_range
  have hrange := hsegment.length_eq
  generalize List.range conns.length = as at hsegment hnodup hrange
  cases hsegment with
  | nil => exact absurd rfl hne
  | cons hload hrest =>
      rw [parseSwConnsRecords, hloop]
      simp only [ok_bind, hload, checkPointer]
      rw [freeConns_eq_crash hrest hnodup (by simp at hlength hrange; omega)]
      rfl

theorem parseSwConnsRecords_error {fault : Fault}
    (h : collectConns testConfig (connPieces swConns) [] = .error fault) :
    parseSwConnsRecords testConfig swConns = .error fault := by
  rw [parseSwConnsRecords, (swConnsLoop_start swConns h).fault_of_error]
  rfl

/-- Each piece names a connection and fits into the line buffer. -/
def AllConnect (testConfig : IdeTestConfig) (swConns : List UInt8) : Prop :=
  ∀ piece ∈ connPieces swConns,
    piece.length < maxLineLength ∧ ∃ conn, Connects testConfig piece conn

theorem allConnect_iff :
    AllConnect testConfig swConns ↔
      (∃ conns, List.Forall₂ (Connects testConfig) (connPieces swConns) conns) ∧
        ∀ piece ∈ connPieces swConns, piece.length < maxLineLength := by
  rw [AllConnect]
  generalize connPieces swConns = ps
  induction ps with
  | nil => exact iff_of_true nofun ⟨⟨[], List.Forall₂.nil⟩, nofun⟩
  | cons piece ps ih =>
      rw [List.forall_mem_cons, List.forall_mem_cons, ih]
      constructor
      · rintro ⟨⟨hlength, conn, hconn⟩, ⟨conns, hconns⟩, hlengths⟩
        exact ⟨⟨conn :: conns, List.Forall₂.cons hconn hconns⟩, hlength, hlengths⟩
      · rintro ⟨⟨conns, hconns⟩, hlength, hlengths⟩
        cases hconns with
        | cons hconn hconns => exact ⟨⟨hlength, _, hconn⟩, ⟨_, hconns⟩, hlengths⟩

theorem not_connsMeet_of_error {fault : Fault}
    (h : parseSwConnsRecords testConfig swConns = .error fault) :
    ¬ ConnsMeet testConfig swConns := by
  intro hmeet
  by_cases hvalid : ∃ conns, List.Forall₂ (Connects testConfig) (connPieces swConns) conns
  · obtain ⟨conns, hconns⟩ := hvalid
    obtain ⟨s, as, hrun, -⟩ := hmeet.valid conns hconns
    rw [h] at hrun
    cases hrun
  · obtain ⟨s, hrun, -⟩ := hmeet.invalid (not_exists.mp hvalid)
    rw [h] at hrun
    cases hrun

/-- The list is right, and the records of wrong pieces are freed, just when no piece is wrong. -/
theorem connsMeet_iff (testConfig : IdeTestConfig) (swConns : List UInt8) :
    ConnsMeet testConfig swConns ↔ AllConnect testConfig swConns := by
  rw [allConnect_iff]
  constructor
  · intro hmeet
    cases hcollect : collectConns testConfig (connPieces swConns) [] with
    | error fault =>
        exact absurd hmeet
          (not_connsMeet_of_error swConns (parseSwConnsRecords_error swConns hcollect))
    | ok result =>
        obtain ⟨res, conns⟩ := result
        cases res with
        | true =>
            obtain ⟨values, -, hvalues, hlengths⟩ := collectConns_eq_true hcollect
            exact ⟨⟨values, hvalues⟩, hlengths⟩
        | false =>
            by_cases hnil : conns = []
            · subst hnil
              obtain ⟨s, hrun, -, hfreed⟩ := hmeet.invalid (not_forall₂_of_collectConns hcollect)
              obtain ⟨s', hrun', -, hlength, hreleased⟩ :=
                parseSwConnsRecords_leftBehind swConns hcollect
              cases hrun.symm.trans hrun'
              have hfirst := hfreed 0 (by rw [hlength]; decide)
              rw [hreleased] at hfirst
              cases hfirst
            · exact absurd hmeet (not_connsMeet_of_error swConns
                (parseSwConnsRecords_crash swConns hnil hcollect))
  · rintro ⟨⟨values, hvalues⟩, hlengths⟩
    refine ⟨?_, fun hinvalid => absurd hvalues (hinvalid values)⟩
    intro conns hconns
    have hcollect : collectConns testConfig (connPieces swConns) [] = .ok (true, [] ++ conns) :=
      collectConns_of_connects hconns hlengths
    obtain ⟨s, hrun, hlisted⟩ := parseSwConnsRecords_listed swConns hcollect
    exact ⟨s, _, hrun, hlisted.segment⟩

/-- The parser of the topologies, whose pieces are shorter than the line buffer. -/
theorem parseSwConns_eq (ps : List (List UInt8)) (conns : List IdeSwitchInternalConnection)
    (hlengths : ∀ piece ∈ ps, piece.length < maxLineLength) :
    parseSwConns testConfig ps conns = (do
      let (res, conns) ← collectConns testConfig ps conns
      if res then .ok (some conns) else if conns = [] then .ok none else .error .crash) := by
  induction ps generalizing conns with
  | nil => rfl
  | cons piece ps ih =>
      rw [List.forall_mem_cons] at hlengths
      rw [parseSwConns, collectConns, if_neg (Nat.not_le_of_lt hlengths.1)]
      cases parseSwitchString testConfig piece with
      | none => rfl
      | some conn => exact ih _ hlengths.2

/-- What the parser of the topologies says of a string, it says of its records. -/
structure SaysOfRecords (result : Checked (Option (List IdeSwitchInternalConnection)))
    (records : Checked ConnsState) : Prop where
  some : ∀ conns, result = .ok (some conns) → ∃ s, records = .ok s ∧ Listed s conns
  none : result = .ok none → ∃ s, records = .ok s ∧ s.header = none
  error : ∀ fault, result = .error fault → records = .error fault

theorem parseSwConnsString_records
    (hlengths : ∀ piece ∈ connPieces swConns, piece.length < maxLineLength) :
    SaysOfRecords (parseSwConnsString testConfig swConns)
      (parseSwConnsRecords testConfig swConns) := by
  have hstring : parseSwConnsString testConfig swConns = (do
      let (res, conns) ← collectConns testConfig (connPieces swConns) []
      if res then .ok (some conns) else if conns = [] then .ok none else .error .crash) :=
    parseSwConns_eq _ _ hlengths
  rw [hstring]
  cases hcollect : collectConns testConfig (connPieces swConns) [] with
  | error fault =>
      refine ⟨nofun, nofun, fun fault' hfault => ?_⟩
      cases hfault
      exact parseSwConnsRecords_error swConns hcollect
  | ok result =>
      obtain ⟨res, conns⟩ := result
      simp only [ok_bind]
      cases res with
      | true =>
          refine ⟨fun conns' hconns => ?_, nofun, nofun⟩
          cases hconns
          exact parseSwConnsRecords_listed swConns hcollect
      | false =>
          by_cases hnil : conns = []
          · subst hnil
            refine ⟨nofun, fun _ => ?_, nofun⟩
            obtain ⟨s, hrun, hleft⟩ := parseSwConnsRecords_leftBehind swConns hcollect
            refine ⟨s, hrun, ?_⟩
            obtain ⟨header, heap⟩ := s
            cases hleft.segment
            rfl
          · simp only [hnil, Bool.false_eq_true, if_false]
            refine ⟨nofun, nofun, fun fault hfault => ?_⟩
            cases hfault
            exact parseSwConnsRecords_crash swConns hnil hcollect

end Parser

/-- A configuration with a switch that has two ports. -/
def oneSwitch : IdeTestConfig :=
  let ports : Table IdePort maxSupportedSwitchPortsNum := ⟨2, fun i =>
    { id := i.val + 1, enabled := true, portName := text "port_" ++ decimalString (i.val + 1) }⟩
  { switchesConfig := ⟨1, fun _ => { id := 1, enabled := true, name := text "switch_1", ports }⟩ }

/-- The second of two pieces names no switch. -/
theorem not_connsMeet_secondPiece :
    ¬ ConnsMeet oneSwitch (text "switch_1:port_1-port_2,switch_2:port_1-port_2") := by
  intro h
  have hpieces : connPieces (text "switch_1:port_1-port_2,switch_2:port_1-port_2") =
      [text "switch_1:port_1-port_2", text "switch_2:port_1-port_2"] := by decide +kernel
  have hsecond : parseSwitchString oneSwitch (text "switch_2:port_1-port_2") = none := by
    decide +kernel
  have hinvalid : ∀ conns, ¬ List.Forall₂ (Connects oneSwitch)
      [text "switch_1:port_1-port_2", text "switch_2:port_1-port_2"] conns := by
    intro conns hconns
    cases hconns with
    | cons _ hrest =>
        cases hrest with
        | cons hconn _ =>
            rw [parseSwitchString_eq_some.mpr hconn] at hsecond
            cases hsecond
  obtain ⟨s, hrun, -⟩ := h.invalid (by rwa [hpieces])
  have hcrash : parseSwConnsRecords oneSwitch
      (text "switch_1:port_1-port_2,switch_2:port_1-port_2") = .error .crash := by
    have hcollect : collectConns oneSwitch
        [text "switch_1:port_1-port_2", text "switch_2:port_1-port_2"] [] =
        .ok (false, [⟨1, 1, 2⟩]) := by decide +kernel
    rw [← hpieces] at hcollect
    exact parseSwConnsRecords_crash _ (List.cons_ne_nil _ _) hcollect
  rw [hrun] at hcrash
  cases hcrash

end TeeIoValidator.IniConfig
