import TeeIoValidator.Library.Trim
import TeeIoValidator.Model.IniFile

/-! # The lines of a data file

Whatever the line breaks and the size of the line buffer, the loop does to the context what
the pieces between line breaks do to it one after the other.
-/

namespace TeeIoValidator.IniFile

/-! ## One line -/

/-- The first line break and what follows it. -/
inductive FirstBreak : List UInt8 → List UInt8 → Prop where
  | none : FirstBreak [] []
  | single {b rest} (hb : isLineBreak b) (hrest : rest.head? ≠ some lf) : FirstBreak [b] rest
  | double {b rest} (hb : isLineBreak b) : FirstBreak [b, lf] rest

theorem FirstBreak.alone {brk rest : List UInt8} (h : FirstBreak brk rest) : FirstBreak brk [] := by
  cases h with
  | none => exact .none
  | single hb hrest => exact .single hb (by simp)
  | double hb => exact .double hb

theorem FirstBreak.blank {brk rest : List UInt8} (h : FirstBreak brk rest) :
    ∀ c ∈ brk, isBlank c := by
  have hbreak : ∀ {b}, isLineBreak b → isBlank b := by
    intro b hb
    rw [isLineBreak] at hb
    rw [isBlank, hb]
    rfl
  cases h with
  | none =>
      intro c hc
      cases hc
  | single hb hrest =>
      intro c hc
      rw [List.mem_singleton.mp hc]
      exact hbreak hb
  | double hb =>
      intro c hc
      rcases List.mem_cons.mp hc with rfl | hlf
      · exact hbreak hb
      · rw [List.mem_singleton.mp hlf]
        rfl

/-- Every text has a first line. -/
theorem exists_firstBreak (data : List UInt8) : ∃ text brk rest,
    data = text ++ (brk ++ rest) ∧ (∀ c ∈ text, isLineBreak c = false) ∧ FirstBreak brk rest := by
  induction data with
  | nil => exact ⟨[], [], [], rfl, (by simp), .none⟩
  | cons c data ih =>
      cases hc : isLineBreak c with
      | false =>
          rcases ih with ⟨text, brk, rest, rfl, htext, hbrk⟩
          refine ⟨c :: text, brk, rest, rfl, ?_, hbrk⟩
          intro d hd
          rcases List.mem_cons.mp hd with rfl | hmem
          · exact hc
          · exact htext d hmem
      | true =>
          by_cases hhead : data.head? = some lf
          · cases data with
            | nil => cases hhead
            | cons d data =>
                rw [List.head?_cons, Option.some.injEq] at hhead
                subst hhead
                exact ⟨[], [c, lf], data, rfl, (by simp), .double hc⟩
          · exact ⟨[], [c], data, rfl, (by simp), .single hc hhead⟩

section FirstLine

variable {text brk rest : List UInt8} (htext : ∀ c ∈ text, isLineBreak c = false)
  (hbrk : FirstBreak brk rest)

include htext hbrk

/-- The reader finds the first line with its break. -/
theorem profileLineLength_eq : profileLineLength (text ++ (brk ++ rest)) = (text ++ brk).length := by
  have hall : ∀ c ∈ text, (!isLineBreak c) = true := by
    intro c hc
    rw [htext c hc]
    rfl
  have hsearch : ((text ++ (brk ++ rest)).takeWhile fun c => !isLineBreak c) = text := by
    cases hbrk with
    | none =>
        rw [List.append_nil, List.append_nil]
        exact List.takeWhile_eq_self_iff.mpr hall
    | single hb hrest => exact Trim.takeWhile_append_cons hall (by simp [hb])
    | double hb => exact Trim.takeWhile_append_cons hall (by simp [hb])
  rw [profileLineLength, hsearch]
  cases hbrk with
  | none => simp
  | double hb => simp
  | single hb hrest =>
      cases rest with
      | nil => simp
      | cons c rest =>
          have hc : c ≠ lf := by
            intro heq
            exact hrest (congrArg some heq)
          simp [hc]

/-- A line of any length is read, if need be with a larger buffer. -/
theorem readLine_eq (maxLineLength : ℕ) :
    ∃ newLength, readLine (text ++ (brk ++ rest)) maxLineLength = some (text ++ brk, newLength) := by
  have hline : (text ++ (brk ++ rest)).take (text ++ brk).length = text ++ brk := by
    rw [← List.append_assoc, List.take_left]
  have hagain : profileLineLength (text ++ brk) = (text ++ brk).length := by
    have hsame := profileLineLength_eq htext hbrk.alone
    rwa [List.append_nil] at hsame
  rw [readLine, profileGetLine, profileLineLength_eq htext hbrk]
  by_cases hsmall : (text ++ brk).length > maxLineLength
  · refine ⟨(text ++ brk).length, ?_⟩
    rw [if_pos hsmall]
    simp only
    rw [hline, profileGetLine, hagain, if_neg (Nat.lt_irrefl _), List.take_length]
  · refine ⟨maxLineLength, ?_⟩
    rw [if_neg hsmall, hline]

end FirstLine

/-! ## All lines -/

/-- What a line does to the context. -/
def lineEffect (ctx : IniContext) (line : List UInt8) : IniContext :=
  if profileTrim line = [] then ctx else (processLine (profileTrim line) ctx).2

/-- The pieces between the line breaks. -/
def pieces (data : List UInt8) : List (List UInt8) := data.splitOnP isLineBreak

theorem profileTrim_append_blanks (line : List UInt8) {blanks : List UInt8}
    (h : ∀ c ∈ blanks, isBlank c) : profileTrim (line ++ blanks) = profileTrim line :=
  Trim.trim_append_blanks line h

@[simp] theorem lineEffect_nil (ctx : IniContext) : lineEffect ctx [] = ctx := rfl

theorem lineEffect_append_break (ctx : IniContext) {text brk rest : List UInt8}
    (hbrk : FirstBreak brk rest) : lineEffect ctx (text ++ brk) = lineEffect ctx text := by
  rw [lineEffect, lineEffect, profileTrim_append_blanks text hbrk.blank]

/-- The first line and the pieces after it. -/
theorem foldl_pieces {text brk rest : List UInt8} (htext : ∀ c ∈ text, isLineBreak c = false)
    (hbrk : FirstBreak brk rest) (ctx : IniContext) :
    (pieces (text ++ (brk ++ rest))).foldl lineEffect ctx =
      (pieces rest).foldl lineEffect (lineEffect ctx text) := by
  cases hbrk with
  | none =>
      rw [List.append_nil, List.append_nil, pieces, pieces,
        List.splitOnP_eq_singleton htext, List.splitOnP_nil]
      rfl
  | single hb hrest =>
      rw [pieces, List.singleton_append, List.splitOnP_append_cons_of_forall_mem htext _ hb]
      rfl
  | double hb =>
      rw [pieces, List.cons_append, List.splitOnP_append_cons_of_forall_mem htext _ hb]
      have hlf : ([lf] ++ rest).splitOnP isLineBreak = [] :: rest.splitOnP isLineBreak :=
        List.splitOnP_append_cons [] rest rfl
      rw [hlf]
      rfl

/-- No status of a line stops the loop. -/
theorem preProcessLines_step (lib : LibspdmStatus) {data line : List UInt8}
    {maxLineLength newLength : ℕ} (hne : data ≠ [])
    (hread : readLine data maxLineLength = some (line, newLength)) (status : Dword)
    (ctx : IniContext) :
    ∃ status', preProcessLines lib data maxLineLength status ctx =
      preProcessLines lib (data.drop line.length) newLength status' (lineEffect ctx line) := by
  rw [preProcessLines, dif_neg hne]
  split
  · rename_i hline
    rw [hread] at hline
    cases hline
  · rename_i line' newLength' hline
    rw [hread] at hline
    cases hline
    rw [lineEffect]
    by_cases hblank : profileTrim line = []
    · refine ⟨statusSuccess, ?_⟩
      simp only [hblank, if_true]
    · refine ⟨statusOfBool (processLine (profileTrim line) ctx).1, ?_⟩
      simp only [hblank, if_false, lib.isError_bool, Bool.false_eq_true]

theorem preProcessLines_eq (lib : LibspdmStatus) (data : List UInt8) (maxLineLength : ℕ)
    (status : Dword) (ctx : IniContext) :
    (preProcessLines lib data maxLineLength status ctx).2 =
      (pieces data).foldl lineEffect ctx := by
  induction hlength : data.length using Nat.strong_induction_on
    generalizing data maxLineLength status ctx with
  | _ n ih =>
      subst hlength
      by_cases hempty : data = []
      · subst hempty
        rw [preProcessLines]
        rfl
      · rcases exists_firstBreak data with ⟨text, brk, rest, rfl, htext, hbrk⟩
        rcases readLine_eq htext hbrk maxLineLength with ⟨newLength, hread⟩
        have hlt := drop_readLine_lt hempty hread
        have hdrop : (text ++ (brk ++ rest)).drop (text ++ brk).length = rest := by
          rw [← List.append_assoc, List.drop_left]
        rcases preProcessLines_step lib hempty hread status ctx with ⟨status', hstep⟩
        rw [hdrop] at hlt hstep
        rw [hstep, ih _ hlt rest _ _ _ rfl, foldl_pieces htext hbrk,
          lineEffect_append_break ctx hbrk]

/-- An empty file gives no context; every other one does. -/
theorem openIniFile_eq (lib : LibspdmStatus) (data : List UInt8) :
    openIniFile lib data =
      if data = [] then none else some ((pieces data).foldl lineEffect ⟨[], []⟩) := by
  rw [openIniFile]
  split
  · rfl
  · simp only [lib.isError_bool, preProcessDataFile, preProcessLines_eq]
    rfl

end TeeIoValidator.IniFile
