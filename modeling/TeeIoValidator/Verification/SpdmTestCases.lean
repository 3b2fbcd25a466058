import TeeIoValidator.Model.SpdmTestCases
import TeeIoValidator.Verification.IniConfig.CaseSafety

/-! # The case tables of the SPDM tests

The array of a group is indexed with case ids and filled by position.
-/

namespace TeeIoValidator.SpdmTestCases

open IniConfig IniFile

variable {Func : Type*}

/-- A table that serves the cases of a group: each id leads to its case, the count is no larger
than the array, and no id that a suite may list is looked up behind the array. -/
structure TableCorrect (className : List UInt8) (classId : ℕ) (cases : List (CommonTestCase Func))
    (generated : GeneratedCases Func) : Prop where
  entries : ∀ testCase ∈ cases, generated.funcs[testCase.caseId - 1]? = some testCase.funcs
  count : generated.cnt ≤ generated.funcs.length
  lookups : ∀ (context : IniContext) (sectionName : List UInt8) (casesId : List ℕ),
    ListsCases context sectionName ⟨className, generated.caseIds, classId⟩ casesId →
    ∀ id ∈ casesId, ¬ReadsPast generated id

/-- The tables of all groups are generated, and each one serves its group. -/
def TablesCorrect (groups : List (ResponderGroup Func)) : Prop :=
  ∃ tables, spdmTestLibInitTestCases groups = some tables ∧
    List.Forall₂ (fun group generated => ∀ className classId,
      TableCorrect className classId group.cases generated) groups tables

/-- The ids of a group are 1, 2, 3 and so on in this order, and their text fits into the
buffer. -/
structure InOrder (cases : List (CommonTestCase Func)) : Prop where
  ids : cases.map CommonTestCase.caseId = (List.range cases.length).map (· + 1)
  pos : 1 ≤ cases.length
  fits : cases.length ≤ 88

/-- No two cases of a group have the same functions. -/
def DistinctFuncs (cases : List (CommonTestCase Func)) : Prop :=
  (cases.map CommonTestCase.funcs).Nodup

/-! ## The text of the ids -/

theorem printCaseIds_append (buf : List UInt8) (ids ids' : List ℕ) :
    printCaseIds buf (ids ++ ids') =
      (printCaseIds buf ids).bind fun buf => printCaseIds buf ids' := by
  induction ids generalizing buf with
  | nil => rfl
  | cons id ids ih =>
      rw [List.cons_append, printCaseIds, printCaseIds]
      split
      · rfl
      · exact ih _

/-- The names of a class are the ids, separated by commas. -/
theorem printCaseIds_eq_some {buf printed : List UInt8} {ids : List ℕ} (hne : ids ≠ [])
    (h : printCaseIds buf ids = some printed) :
    printed = buf ++ spdmCaseIdsString ids ++ [comma] := by
  induction ids generalizing buf with
  | nil => exact absurd rfl hne
  | cons id ids ih =>
      rw [printCaseIds] at h
      split at h
      · cases h
      · cases ids with
        | nil =>
            cases h
            rfl
        | cons id' ids =>
            have hids : spdmCaseIdsString (id :: id' :: ids) =
                decimalString id ++ comma :: spdmCaseIdsString (id' :: ids) := rfl
            rw [ih (List.cons_ne_nil id' ids) h, hids]
            simp only [List.append_assoc, List.cons_append, List.nil_append]

/-- Whether the text of the ids fits behind that many characters. -/
def textFits : ℕ → List ℕ → Bool
  | _, [] => true
  | n, id :: ids =>
    decide (n + n + 4 + 1 ≤ maxLineLength) && textFits (n + (decimalString id).length + 1) ids

theorem printCaseIds_isSome (buf : List UInt8) (ids : List ℕ) :
    (printCaseIds buf ids).isSome = textFits buf.length ids := by
  induction ids generalizing buf with
  | nil => rfl
  | cons id ids ih =>
      rw [printCaseIds, textFits]
      split
      · rename_i hfull
        rw [decide_eq_false (not_le.mpr hfull)]
        rfl
      · rename_i hfits
        rw [ih, decide_eq_true (not_lt.mp hfits), Bool.true_and, List.length_append,
          List.length_append, List.length_singleton]

theorem printCaseIds_range_isSome_iff (n : ℕ) :
    (printCaseIds [] ((List.range n).map (· + 1))).isSome = true ↔ n ≤ 88 := by
  have hsplit : ∀ k m : ℕ, printCaseIds [] ((List.range (k + m)).map (· + 1)) =
      (printCaseIds [] ((List.range k).map (· + 1))).bind fun buf =>
        printCaseIds buf (((List.range m).map (k + ·)).map (· + 1)) := by
    intro k m
    rw [List.range_add, List.map_append, printCaseIds_append]
  constructor
  · intro h
    by_contra hmany
    have hfull : textFits 0 ((List.range 89).map (· + 1)) = false := by decide +kernel
    rw [← Nat.add_sub_cancel' (show 89 ≤ n by omega), hsplit] at h
    have hfirst := Option.isSome_of_isSome_bind h
    rw [printCaseIds_isSome, List.length_nil, hfull] at hfirst
    cases hfirst
  · intro h
    have hlast : textFits 0 ((List.range 88).map (· + 1)) = true := by decide +kernel
    rw [← @List.length_nil UInt8, ← printCaseIds_isSome, ← Nat.add_sub_cancel' h,
      hsplit] at hlast
    exact Option.isSome_of_isSome_bind hlast

theorem getMaxFromUint32Array_le {ids : List ℕ} {n : ℕ} (h : ∀ id ∈ ids, id ≤ n) :
    getMaxFromUint32Array ids ≤ n := by
  have hfold : ∀ (ids : List ℕ) (bound : ℕ), bound ≤ n → (∀ id ∈ ids, id ≤ n) →
      ids.foldl max bound ≤ n := by
    intro ids
    induction ids with
    | nil => exact fun bound hbound _ => hbound
    | cons id ids ih =>
        intro bound hbound h
        apply ih
        · exact max_le hbound (h id List.mem_cons_self)
        · exact fun id hid => h id (List.mem_cons_of_mem _ hid)
  exact hfold ids 0 (Nat.zero_le n) h

/-! ## One group -/

section Group

variable {cases : List (CommonTestCase Func)} {generated : GeneratedCases Func}

theorem genTeeioSpdmTestCase_eq_some_iff :
    genTeeioSpdmTestCase cases = some generated ↔
      cases.length ≠ 0 ∧
        ∃ buf, printCaseIds [] (cases.map CommonTestCase.caseId) = some buf ∧
          generated = ⟨buf.dropLast, getMaxFromUint32Array (cases.map CommonTestCase.caseId),
            cases.map CommonTestCase.funcs⟩ := by
  rw [genTeeioSpdmTestCase]
  split
  · rename_i hempty
    simp [hempty]
  · rename_i hne
    cases hprint : printCaseIds [] (cases.map CommonTestCase.caseId) with
    | none => simp
    | some buf => simp [hne, eq_comm]

/-- What is generated is what the set-up of the suites works with. -/
theorem genTeeioSpdmTestCase_registered {globals : Globals} {i : ℕ} {testCase : IdeTestCaseName}
    (h : genTeeioSpdmTestCase cases = some generated)
    (hname : (spdmTestCaseNames globals)[i]? = some testCase)
    (hids : globals.spdmCaseIds i = cases.map CommonTestCase.caseId) :
    testCase.names = generated.caseIds ∧
      ∃ testCases, (spdmTestCaseFuncs globals)[i]? = some testCases ∧
        testCases.cnt = generated.cnt ∧ testCases.funcs.length = generated.funcs.length := by
  obtain ⟨hne, buf, hprint, rfl⟩ := genTeeioSpdmTestCase_eq_some_iff.mp h
  have hmap : cases.map CommonTestCase.caseId ≠ [] := by
    rw [ne_eq, List.map_eq_nil_iff]
    exact fun hnil => hne (by rw [hnil]; rfl)
  obtain ⟨className, -, rfl⟩ := spdmTestCaseNames_eq_some hname
  refine ⟨?_, _, spdmTestCaseFuncs_getElem? hname, ?_, ?_⟩
  · rw [printCaseIds_eq_some hmap hprint, List.nil_append, List.dropLast_concat, hids]
  · rw [hids]
  · simp [hids]

/-- With a count inside the array no lookup reads behind it. -/
theorem not_readsPast_of_count (h : generated.cnt ≤ generated.funcs.length) (caseId : ℕ) :
    ¬ReadsPast generated caseId := by
  intro hpast
  have hindex := hpast.1
  have hend := hpast.2
  omega

theorem InOrder.caseId_eq (h : InOrder cases) {i : ℕ} {testCase : CommonTestCase Func}
    (hi : cases[i]? = some testCase) : testCase.caseId = i + 1 := by
  have hlt : i < cases.length := (List.getElem?_eq_some_iff.mp hi).1
  have hid := congrArg (fun ids => ids[i]?) h.ids
  simp only [List.getElem?_map, hi, Option.map_some, List.getElem?_range hlt] at hid
  exact Option.some.inj hid

theorem InOrder.tableCorrect (h : InOrder cases) :
    ∃ generated, genTeeioSpdmTestCase cases = some generated ∧
      ∀ className classId, TableCorrect className classId cases generated := by
  have hprint := (printCaseIds_range_isSome_iff cases.length).mpr h.fits
  rw [← h.ids, Option.isSome_iff_exists] at hprint
  obtain ⟨buf, hprint⟩ := hprint
  have hcount : getMaxFromUint32Array (cases.map CommonTestCase.caseId) ≤
      (cases.map CommonTestCase.funcs).length := by
    apply getMaxFromUint32Array_le
    intro id hid
    rw [h.ids, List.mem_map] at hid
    obtain ⟨i, hi, rfl⟩ := hid
    rw [List.length_map]
    exact List.mem_range.mp hi
  have hpos := h.pos
  refine ⟨_, genTeeioSpdmTestCase_eq_some_iff.mpr ⟨by omega, buf, hprint, rfl⟩, ?_⟩
  intro className classId
  refine ⟨?_, hcount, fun _ _ _ _ id _ => not_readsPast_of_count hcount id⟩
  intro testCase hmem
  obtain ⟨i, hi⟩ := List.mem_iff_getElem?.mp hmem
  rw [h.caseId_eq hi, Nat.add_sub_cancel, List.getElem?_map, hi]
  rfl

theorem TableCorrect.inOrder {className : List UInt8} {classId : ℕ}
    (hpositive : ∀ testCase ∈ cases, 0 < testCase.caseId) (hdistinct : DistinctFuncs cases)
    (hgen : genTeeioSpdmTestCase cases = some generated)
    (h : TableCorrect className classId cases generated) : InOrder cases := by
  obtain ⟨hne, buf, hprint, rfl⟩ := genTeeioSpdmTestCase_eq_some_iff.mp hgen
  have hids : cases.map CommonTestCase.caseId = (List.range cases.length).map (· + 1) := by
    apply List.ext_getElem
    · simp
    · intro i hi _
      rw [List.length_map] at hi
      have hentry := h.entries _ (List.getElem_mem hi)
      have hpos := hpositive _ (List.getElem_mem hi)
      have hown : (cases.map CommonTestCase.funcs)[i]? = some cases[i].funcs := by
        rw [List.getElem?_map, List.getElem?_eq_getElem hi]
        rfl
      have hindex : i = cases[i].caseId - 1 :=
        (List.getElem?_inj (by rwa [List.length_map]) hdistinct).mp (hown.trans hentry.symm)
      rw [List.getElem_map, List.getElem_map, List.getElem_range]
      omega
  refine ⟨hids, Nat.pos_of_ne_zero hne, ?_⟩
  rw [← printCaseIds_range_isSome_iff, ← hids, hprint]
  rfl

end Group

/-! ## All groups -/

theorem spdmTestLibInitTestCases_eq_some_iff {groups : List (ResponderGroup Func)}
    {tables : List (GeneratedCases Func)} :
    spdmTestLibInitTestCases groups = some tables ↔
      List.Forall₂ (fun group generated => genTeeioSpdmTestCase group.cases = some generated)
        groups tables := by
  induction groups generalizing tables with
  | nil =>
      rw [spdmTestLibInitTestCases, List.forall₂_nil_left_iff, Option.some.injEq, eq_comm]
  | cons group groups ih =>
      rw [spdmTestLibInitTestCases, List.forall₂_cons_left_iff]
      cases hgen : genTeeioSpdmTestCase group.cases with
      | none => simp
      | some generated => simp [ih, eq_comm]

theorem tablesCorrect_of_inOrder {groups : List (ResponderGroup Func)}
    (h : ∀ group ∈ groups, InOrder group.cases) : TablesCorrect groups := by
  induction groups with
  | nil => exact ⟨[], rfl, List.Forall₂.nil⟩
  | cons group groups ih =>
      obtain ⟨generated, hgen, hcorrect⟩ := (h group List.mem_cons_self).tableCorrect
      have hrest : ∀ group ∈ groups, InOrder group.cases :=
        fun group hgroup => h group (List.mem_cons_of_mem _ hgroup)
      obtain ⟨tables, htables, hall⟩ := ih hrest
      refine ⟨generated :: tables, ?_, List.Forall₂.cons hcorrect hall⟩
      rw [spdmTestLibInitTestCases, hgen, htables]
      rfl

theorem TablesCorrect.inOrder {groups : List (ResponderGroup Func)}
    (hdistinct : ∀ group ∈ groups, DistinctFuncs group.cases) (h : TablesCorrect groups) :
    ∀ group ∈ groups, InOrder group.cases := by
  obtain ⟨tables, htables, hcorrect⟩ := h
  have hgenerated := spdmTestLibInitTestCases_eq_some_iff.mp htables
  clear htables
  induction hgenerated with
  | nil => exact List.forall_mem_nil _
  | @cons group generated groups tables hgen hrest ih =>
      cases hcorrect with
      | cons hfirst hcorrect =>
          rw [List.forall_mem_cons] at hdistinct ⊢
          exact ⟨(hfirst [] 0).inOrder group.positive hdistinct.1 hgen, ih hdistinct.2 hcorrect⟩

/-- The tables serve groups whose ids are in order; with different functions for different cases
they serve no other groups. -/
theorem tablesCorrect_iff_inOrder (groups : List (ResponderGroup Func)) :
    ((∀ group ∈ groups, InOrder group.cases) → TablesCorrect groups) ∧
    ((∀ group ∈ groups, DistinctFuncs group.cases) →
      (TablesCorrect groups ↔ ∀ group ∈ groups, InOrder group.cases)) :=
  ⟨tablesCorrect_of_inOrder, fun hdistinct =>
    ⟨fun h => h.inOrder hdistinct, tablesCorrect_of_inOrder⟩⟩

/-- A group without a case 2. -/
def gapGroup : ResponderGroup ℕ where
  cases := [⟨1, ⟨10, 11, 12⟩⟩, ⟨3, ⟨30, 31, 32⟩⟩]
  positive := by decide
  distinct := by decide

/-- Case 3 is accepted, and its lookup reads behind the array. -/
theorem gapGroup_readsPast :
    (∃ generated casesId, genTeeioSpdmTestCase gapGroup.cases = some generated ∧
      ListsCases (contextOf [(text "Suite", [(text "Version", text "3")])]) (text "Suite")
        ⟨text "Version", generated.caseIds, 0⟩ casesId ∧
      3 ∈ casesId ∧ ReadsPast generated 3) ∧
    ¬TablesCorrect [gapGroup] := by
  refine ⟨⟨_, [3], rfl, ?_, List.mem_singleton_self 3, by decide, by decide⟩, ?_⟩
  · exact ⟨[1, 3], text "3", by decide +kernel, by decide +kernel, by decide +kernel, by decide,
      by decide⟩
  · intro h
    obtain ⟨tables, htables, hcorrect⟩ := h
    cases htables
    cases hcorrect with
    | cons hfirst _ => exact absurd (hfirst [] 0).count (by decide)

end TeeIoValidator.SpdmTestCases
