import TeeIoValidator.Library.History
import TeeIoValidator.Verification.IniFile.Lines

/-! # Lines that the reader rejects

Which lines `ProfileGetSection` and `ProfileGetEntry` reject is said in terms of their text, and
what becomes of a file that has such a line.
-/

namespace TeeIoValidator.IniFile

/-! ## Text of a line -/

/-- The name between the brackets. -/
def sectionText (line : List UInt8) : List UInt8 :=
  profileTrim ((line.drop 1).takeWhile fun c => c != ']'.toUInt8)

def keyText (line : List UInt8) : List UInt8 :=
  profileTrim (line.takeWhile fun c => c != '='.toUInt8)

/-- What stands between the equals sign and a comment. -/
def valueText (line : List UInt8) : List UInt8 :=
  profileTrim ((line.drop ((line.takeWhile fun c => c != '='.toUInt8).length + 1)).takeWhile
    fun c => !isCommentMark c)

inductive SectionRejected (line : List UInt8) : Prop where
  | noBracket (h : ']'.toUInt8 ∉ line.drop 1)
  | empty (h : sectionText line = [])
  | illegal (h : isValidName (sectionText line) = false)

inductive KeyRejected (line : List UInt8) : Prop where
  | noEqual (h : '='.toUInt8 ∉ line)
  | empty (h : keyText line = [])
  | illegal (h : isValidName (keyText line) = false)

inductive ValueRejected (line : List UInt8) : Prop where
  | empty (h : valueText line = [])
  | illegal (h : isValidValue (valueText line) = false)

theorem takeWhile_length_eq_iff {line : List UInt8} {c : UInt8} :
    (line.takeWhile fun d => d != c).length = line.length ↔ c ∉ line := by
  constructor
  · intro h hc
    have hall := List.takeWhile_eq_self_iff.mp ((List.takeWhile_prefix _).eq_of_length h)
    simpa using hall c hc
  · intro h
    rw [List.takeWhile_eq_self_iff.mpr]
    intro d hd
    rw [bne_iff_ne]
    exact fun heq => h (heq ▸ hd)

@[simp] theorem profileTrim_nil : profileTrim [] = [] := rfl

/-! ## What the two functions do -/

/-- The item of a section line. -/
def sectionItem (name : List UInt8) : SectionItem := ⟨.live name, name.length, .null, .null⟩

/-- The item of an entry below the item of its section. -/
def entryItem (item : SectionItem) (key value : List UInt8) : SectionItem :=
  ⟨item.ptrSection, item.secNameLen, .live key, .live value⟩

/-- The item that a rejected value leaves in the list. -/
def freedItem (item : SectionItem) : SectionItem := ⟨.freed, item.secNameLen, .freed, .null⟩

def IniContext.link (ctx : IniContext) (item : SectionItem) : IniContext :=
  { ctx with sectionHead := item :: ctx.sectionHead }

@[simp] theorem IniContext.link_sectionHead (ctx : IniContext) (item : SectionItem) :
    (ctx.link item).sectionHead = item :: ctx.sectionHead := rfl

theorem IniContext.link_ne (ctx : IniContext) (item : SectionItem) : ctx.link item ≠ ctx := by
  intro h
  have hlength := congrArg (fun c => c.sectionHead.length) h
  simp at hlength

section Functions

variable {line : List UInt8} {ctx : IniContext}

theorem profileGetSection_rejected (h : SectionRejected line) :
    profileGetSection line ctx = (false, ctx) := by
  rw [profileGetSection]
  simp only [takeWhile_length_eq_iff]
  cases h with
  | noBracket h => rw [if_pos h]
  | empty h =>
      rw [sectionText] at h
      simp only [h, if_true, ite_self]
  | illegal h =>
      rw [sectionText] at h
      simp only [h, Bool.not_false, if_true, ite_self]

theorem profileGetSection_accepted (h : ¬SectionRejected line) :
    profileGetSection line ctx = (true, ctx.link (sectionItem (sectionText line))) := by
  have hbracket : ¬ ']'.toUInt8 ∉ line.drop 1 := fun hno => h (.noBracket hno)
  have hempty : sectionText line ≠ [] := fun hno => h (.empty hno)
  have hvalid : isValidName (sectionText line) ≠ false := fun hno => h (.illegal hno)
  have hname : ((line.drop 1).takeWhile fun c => c != ']'.toUInt8) ≠ [] := by
    intro hno
    rw [sectionText, hno] at hempty
    exact hempty rfl
  rw [sectionText] at hempty hvalid
  rw [profileGetSection]
  simp only [takeWhile_length_eq_iff]
  rw [if_neg hbracket, if_neg hname, if_neg hempty, if_neg (by simpa using hvalid)]
  rfl

theorem profileGetEntry_keyRejected (h : KeyRejected line) :
    profileGetEntry line ctx = (false, ctx) := by
  rw [profileGetEntry]
  simp only [takeWhile_length_eq_iff]
  cases h with
  | noEqual h => rw [if_pos h]
  | empty h =>
      rw [keyText] at h
      simp only [h, if_true, ite_self]
  | illegal h =>
      rw [keyText] at h
      simp only [h, Bool.not_false, if_true, ite_self]

/-- What is left to do for a line whose key is legal. -/
theorem profileGetEntry_key (h : ¬KeyRejected line) :
    profileGetEntry line ctx =
      match ctx.sectionHead with
      | [] => (true, ctx)
      | item :: _ =>
        if valueText line = [] then (false, ctx.link (freedItem item))
        else if !isValidValue (valueText line) then (false, ctx.link (freedItem item))
        else (true, ctx.link (entryItem item (keyText line) (valueText line))) := by
  have hequal : ¬ '='.toUInt8 ∉ line := fun hno => h (.noEqual hno)
  have hempty : keyText line ≠ [] := fun hno => h (.empty hno)
  have hvalid : isValidName (keyText line) ≠ false := fun hno => h (.illegal hno)
  have hname : (line.takeWhile fun c => c != '='.toUInt8) ≠ [] := by
    intro hno
    rw [keyText, hno] at hempty
    exact hempty rfl
  rw [keyText] at hempty hvalid
  rw [profileGetEntry]
  simp only [takeWhile_length_eq_iff]
  rw [if_neg hequal, if_neg hname, if_neg hempty, if_neg (by simpa using hvalid)]
  cases hctx : ctx.sectionHead with
  | nil => rfl
  | cons item items =>
      -- an empty text is trimmed to an empty value
      by_cases htext :
          ((line.drop ((line.takeWhile fun c => c != '='.toUInt8).length + 1)).takeWhile
            fun c => !isCommentMark c) = []
      · have hvalue : valueText line = [] := by rw [valueText, htext, profileTrim_nil]
        simp only [htext, hvalue, if_true, IniContext.link, hctx]
        rfl
      · simp only [htext, if_false, IniContext.link, hctx]
        rfl

theorem profileGetEntry_noSection (h : ¬KeyRejected line) (hctx : ctx.sectionHead = []) :
    profileGetEntry line ctx = (true, ctx) := by
  rw [profileGetEntry_key h, hctx]

theorem profileGetEntry_valueRejected {item : SectionItem} {items : List SectionItem}
    (h : ¬KeyRejected line) (hctx : ctx.sectionHead = item :: items) (hvalue : ValueRejected line) :
    profileGetEntry line ctx = (false, ctx.link (freedItem item)) := by
  rw [profileGetEntry_key h, hctx]
  cases hvalue with
  | empty hvalue => simp only [hvalue, if_true]
  | illegal hvalue => simp only [hvalue, Bool.not_false, if_true, ite_self]

theorem profileGetEntry_accepted {item : SectionItem} {items : List SectionItem}
    (h : ¬KeyRejected line) (hctx : ctx.sectionHead = item :: items)
    (hvalue : ¬ValueRejected line) :
    profileGetEntry line ctx =
      (true, ctx.link (entryItem item (keyText line) (valueText line))) := by
  have hempty : valueText line ≠ [] := fun hno => hvalue (.empty hno)
  have hvalid : isValidValue (valueText line) ≠ false := fun hno => hvalue (.illegal hno)
  rw [profileGetEntry_key h, hctx]
  simp only [hempty, if_false]
  rw [if_neg (by simpa using hvalid)]

/-- A section line is rejected for its text alone. -/
theorem profileGetSection_eq_false_iff :
    (profileGetSection line ctx).1 = false ↔ SectionRejected line := by
  by_cases h : SectionRejected line
  · simp [profileGetSection_rejected h, h]
  · simp [profileGetSection_accepted h, h]

/-- An entry is rejected for its key, and for its value when there is a section. -/
theorem profileGetEntry_eq_false_iff :
    (profileGetEntry line ctx).1 = false ↔
      KeyRejected line ∨ (ctx.sectionHead ≠ [] ∧ ValueRejected line) := by
  by_cases h : KeyRejected line
  · simp [profileGetEntry_keyRejected h, h]
  · cases hctx : ctx.sectionHead with
    | nil => simp [profileGetEntry_noSection h hctx, h]
    | cons item items =>
        by_cases hvalue : ValueRejected line
        · simp [profileGetEntry_valueRejected h hctx hvalue, hvalue]
        · simp [profileGetEntry_accepted h hctx hvalue, h, hvalue]

end Functions

/-! ## Malformed files -/

/-- The context when the lines before some line have been processed. -/
def contextAfter (before : List (List UInt8)) : IniContext := before.foldl lineEffect ⟨[], []⟩

/-- A line that is neither blank nor a comment. -/
structure Significant (line : List UInt8) : Prop where
  notBlank : profileTrim line ≠ []
  notComment : ∀ c ∈ (profileTrim line).head?, isCommentMark c = false

/-- The line is handed to `ProfileGetSection` or `ProfileGetEntry`, which rejects it. -/
structure RejectedAfter (before : List (List UInt8)) (line : List UInt8) : Prop where
  significant : Significant line
  rejected : (processLine (profileTrim line) (contextAfter before)).1 = false

def HasMalformedLine (data : List UInt8) : Prop :=
  ∃ before line after, pieces data = before ++ line :: after ∧ RejectedAfter before line

def IsSectionLine (line : List UInt8) : Prop := (profileTrim line).head? = some '['.toUInt8

/-- A section line that is not rejected. -/
def OpensSection (line : List UInt8) : Prop :=
  IsSectionLine line ∧ ¬SectionRejected (profileTrim line)

theorem processLine_section {line : List UInt8} {ctx : IniContext} (h : IsSectionLine line) :
    processLine (profileTrim line) ctx = profileGetSection (profileTrim line) ctx := by
  rw [IsSectionLine] at h
  cases htrim : profileTrim line with
  | nil => simp [htrim] at h
  | cons c rest =>
      rw [htrim, List.head?_cons, Option.some.injEq] at h
      subst h
      rfl

theorem processLine_entry {line : List UInt8} {ctx : IniContext} (hline : Significant line)
    (h : ¬IsSectionLine line) :
    processLine (profileTrim line) ctx = profileGetEntry (profileTrim line) ctx := by
  have hnotComment := hline.notComment
  rw [IsSectionLine] at h
  cases htrim : profileTrim line with
  | nil => exact absurd htrim hline.notBlank
  | cons c rest =>
      rw [htrim] at h hnotComment
      have hc : c ≠ '['.toUInt8 := fun hc => h (congrArg some hc)
      rw [processLine, hnotComment c rfl, if_neg (by decide), if_neg hc]

/-- Blank lines and comments leave the items alone. -/
theorem lineEffect_insignificant {line : List UInt8} (ctx : IniContext) (h : ¬Significant line) :
    (lineEffect ctx line).sectionHead = ctx.sectionHead := by
  rw [lineEffect]
  cases htrim : profileTrim line with
  | nil => rfl
  | cons c rest =>
      have hmark : isCommentMark c = true := by
        by_contra hmark
        refine h ⟨by simp [htrim], ?_⟩
        intro d hd
        rw [htrim, List.head?_cons, Option.mem_some_iff] at hd
        rw [← hd]
        simpa using hmark
      rw [if_neg (List.cons_ne_nil c rest), processLine, if_pos hmark]
      rfl

theorem lineEffect_section {line : List UInt8} (ctx : IniContext) (h : IsSectionLine line) :
    lineEffect ctx line = (profileGetSection (profileTrim line) ctx).2 := by
  have hne : profileTrim line ≠ [] := by
    intro hnil
    rw [IsSectionLine, hnil] at h
    cases h
  rw [lineEffect, if_neg hne, processLine_section h]

theorem lineEffect_entry_eq {line : List UInt8} (ctx : IniContext) (hline : Significant line)
    (h : ¬IsSectionLine line) :
    lineEffect ctx line = (profileGetEntry (profileTrim line) ctx).2 := by
  rw [lineEffect, if_neg hline.notBlank, processLine_entry hline h]

/-- An entry neither opens a section nor closes one. -/
theorem profileGetEntry_sectionHead_eq_nil_iff {line : List UInt8} {ctx : IniContext} :
    (profileGetEntry line ctx).2.sectionHead = [] ↔ ctx.sectionHead = [] := by
  by_cases h : KeyRejected line
  · rw [profileGetEntry_keyRejected h]
  · cases hctx : ctx.sectionHead with
    | nil => simp [profileGetEntry_noSection h hctx, hctx]
    | cons item items =>
        by_cases hvalue : ValueRejected line
        · simp [profileGetEntry_valueRejected h hctx hvalue]
        · simp [profileGetEntry_accepted h hctx hvalue]

/-- There are items below the first section line that is accepted. -/
theorem contextAfter_sectionHead_ne_nil_iff {before : List (List UInt8)} :
    (contextAfter before).sectionHead ≠ [] ↔ ∃ line ∈ before, OpensSection line := by
  induction before using List.reverseRecOn with
  | nil => simp [contextAfter]
  | append_singleton before line ih =>
      have hstep : contextAfter (before ++ [line]) = lineEffect (contextAfter before) line := by
        rw [contextAfter, List.foldl_append]
        rfl
      have hmem : (∃ l ∈ before ++ [line], OpensSection l) ↔
          (contextAfter before).sectionHead ≠ [] ∨ OpensSection line := by
        simp only [List.mem_append, List.mem_singleton, or_and_right, exists_or, exists_eq_left, ih]
      rw [hstep, hmem]
      by_cases hsection : IsSectionLine line
      · rw [lineEffect_section _ hsection]
        by_cases hrejected : SectionRejected (profileTrim line)
        · simp [profileGetSection_rejected hrejected, OpensSection, hrejected]
        · simp [profileGetSection_accepted hrejected, OpensSection, hrejected, hsection]
      · by_cases hline : Significant line
        · rw [lineEffect_entry_eq _ hline hsection, Ne, profileGetEntry_sectionHead_eq_nil_iff]
          simp [OpensSection, hsection]
        · rw [lineEffect_insignificant _ hline]
          simp [OpensSection, hsection]

/-- What is wrong with a line, by its text and the section lines before it. -/
inductive Malformed (before : List (List UInt8)) (line : List UInt8) : Prop where
  | sectionLine (h : IsSectionLine line) (hrejected : SectionRejected (profileTrim line))
  | key (h : ¬IsSectionLine line) (hrejected : KeyRejected (profileTrim line))
  | value (h : ¬IsSectionLine line) (hbelow : ∃ l ∈ before, OpensSection l)
      (hrejected : ValueRejected (profileTrim line))

theorem rejectedAfter_iff {before : List (List UInt8)} {line : List UInt8} :
    RejectedAfter before line ↔ Significant line ∧ Malformed before line := by
  constructor
  · intro h
    refine ⟨h.significant, ?_⟩
    have hrejected := h.rejected
    by_cases hsection : IsSectionLine line
    · rw [processLine_section hsection, profileGetSection_eq_false_iff] at hrejected
      exact .sectionLine hsection hrejected
    · rw [processLine_entry h.significant hsection, profileGetEntry_eq_false_iff,
        contextAfter_sectionHead_ne_nil_iff] at hrejected
      cases hrejected with
      | inl hkey => exact .key hsection hkey
      | inr hvalue => exact .value hsection hvalue.1 hvalue.2
  · intro h
    refine ⟨h.1, ?_⟩
    cases h.2 with
    | sectionLine hsection hrejected =>
        rwa [processLine_section hsection, profileGetSection_eq_false_iff]
    | key hsection hrejected =>
        rw [processLine_entry h.1 hsection, profileGetEntry_eq_false_iff]
        exact Or.inl hrejected
    | value hsection hbelow hrejected =>
        rw [processLine_entry h.1 hsection, profileGetEntry_eq_false_iff,
          contextAfter_sectionHead_ne_nil_iff]
        exact Or.inr ⟨hbelow, hrejected⟩

theorem not_hasMalformedLine_nil : ¬HasMalformedLine [] := by
  rintro ⟨before, line, after, hsplit, hrejected⟩
  have hnil : line = [] := by
    cases before with
    | nil => exact (List.cons.inj hsplit).1.symm
    | cons l before =>
        exact absurd (List.cons.inj hsplit).2.symm
          (List.append_ne_nil_of_right_ne_nil before (List.cons_ne_nil line after))
  rw [hnil] at hrejected
  exact hrejected.significant.notBlank rfl

/-- No line makes the reader give up: it answers as the format says exactly for the files
that have content and no malformed line. -/
theorem openIniFile_eq_none_iff_malformed_iff (lib : LibspdmStatus) (data : List UInt8) :
    (openIniFile lib data = none ↔ HasMalformedLine data) ↔
      data ≠ [] ∧ ¬HasMalformedLine data := by
  have hnone : openIniFile lib data = none ↔ data = [] := by
    rw [openIniFile_eq]
    split <;> simp_all
  rw [hnone]
  by_cases hdata : data = []
  · subst hdata
    simp [not_hasMalformedLine_nil]
  · simp [hdata]

/-- The library's own encoding of a status. -/
def severityStatus : LibspdmStatus where
  isError status := status >>> 28 == 8
  bufferTooSmall := 0x80010002
  isError_bool := by decide
  isError_bufferTooSmall := by decide

/-- `[Main`: the bracket is missing, and there is a context. -/
theorem missingBracket_accepted :
    ¬(openIniFile severityStatus ("[Main".toList.map Char.toUInt8) = none ↔
      HasMalformedLine ("[Main".toList.map Char.toUInt8)) := by
  intro h
  have hpieces : pieces ("[Main".toList.map Char.toUInt8) = ["[Main".toList.map Char.toUInt8] := by
    decide
  have hhead : (profileTrim ("[Main".toList.map Char.toUInt8)).head? = some '['.toUInt8 := by
    decide
  have hsignificant : Significant ("[Main".toList.map Char.toUInt8) := by
    refine ⟨by decide, ?_⟩
    intro c hc
    rw [hhead] at hc
    cases hc
    decide
  have hmalformed : HasMalformedLine ("[Main".toList.map Char.toUInt8) :=
    ⟨[], _, [], hpieces, hsignificant, by decide⟩
  have hnone := h.mpr hmalformed
  rw [openIniFile_eq, if_neg (by decide)] at hnone
  cases hnone

end TeeIoValidator.IniFile
