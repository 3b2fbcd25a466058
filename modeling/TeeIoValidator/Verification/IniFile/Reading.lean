import TeeIoValidator.Verification.IniFile.Document

/-! # What is read from a well-formed data file

Each line has the effect that its kind says, so the item list answers every lookup with the
last assignment of the document.
-/

namespace TeeIoValidator.IniFile

/-! ## The pieces of a document -/

theorem trailer_notBreak (blanks : Blanks) (remark : Option Comment) :
    ∀ c ∈ trailer blanks remark, isLineBreak c = false := by
  intro c hc
  rcases List.mem_append.mp hc with hblank | hremark
  · exact (blanks.padding c hblank).notBreak
  · cases remark with
    | none => cases hremark
    | some remark =>
        rcases List.mem_cons.mp hremark with rfl | htext
        · exact isLineBreak_of_notBlank (isCommentMark.notBlank remark.isMark)
        · exact remark.oneLine c htext

/-- A line has no line break. -/
theorem Line.notBreak (line : Line) : ∀ c ∈ line.bytes, isLineBreak c = false := by
  intro c hc
  cases line with
  | blank blanks => exact (blanks.padding c hc).notBreak
  | comment lead remark => exact trailer_notBreak lead (some remark) c hc
  | header lead before name after trail remark =>
      simp only [Line.bytes, List.mem_append, List.mem_cons] at hc
      rcases hc with hlead | rfl | ((hbefore | hname) | hafter) | rfl | htrailer
      · exact (lead.padding c hlead).notBreak
      · rfl
      · exact (before.padding c hbefore).notBreak
      · exact (name.plain c hname).notBreak
      · exact (after.padding c hafter).notBreak
      · rfl
      · exact trailer_notBreak trail remark c htrailer
  | entry lead key before after value trail remark =>
      simp only [Line.bytes, List.mem_append, List.mem_cons] at hc
      rcases hc with hlead | (hkey | hbefore) | rfl | (hafter | hvalue) | htrailer
      · exact (lead.padding c hlead).notBreak
      · exact (key.plain c hkey).notBreak
      · exact (before.padding c hbefore).notBreak
      · rfl
      · exact (after.padding c hafter).notBreak
      · exact (value.plain c hvalue).notBreak
      · exact trailer_notBreak trail remark c htrailer

/-- A line end of any kind ends the line. -/
theorem foldl_pieces_line (line : Line) (lineEnd : LineEnd) (rest : List UInt8) (ctx : IniContext) :
    (pieces (line.bytes ++ lineEnd.bytes ++ rest)).foldl lineEffect ctx =
      (pieces rest).foldl lineEffect (lineEffect ctx line.bytes) := by
  have hsplit : ∀ {b : UInt8} {rest : List UInt8}, isLineBreak b →
      pieces (line.bytes ++ b :: rest) = line.bytes :: pieces rest :=
    fun hb => List.splitOnP_append_cons_of_forall_mem line.notBreak _ hb _
  rw [List.append_assoc]
  cases lineEnd with
  | cr => exact congrArg (List.foldl lineEffect ctx) (hsplit rfl)
  | lf => exact congrArg (List.foldl lineEffect ctx) (hsplit rfl)
  | crlf =>
      have hempty : pieces (lf :: rest) = [] :: pieces rest :=
        List.splitOnP_append_cons [] rest rfl
      have hlist : pieces (line.bytes ++ (LineEnd.crlf.bytes ++ rest)) =
          line.bytes :: [] :: pieces rest := (hsplit rfl).trans (congrArg _ hempty)
      rw [hlist]
      rfl

theorem foldl_pieces_document (lines : List (Line × LineEnd)) (last : Line) (ctx : IniContext) :
    (pieces (Document.bytes ⟨lines, last⟩)).foldl lineEffect ctx =
      ((Document.allLines ⟨lines, last⟩).map Line.bytes).foldl lineEffect ctx := by
  induction lines generalizing ctx with
  | nil =>
      have hlast : pieces last.bytes = [last.bytes] := List.splitOnP_eq_singleton last.notBreak
      exact congrArg (List.foldl lineEffect ctx) hlast
  | cons line lines ih =>
      have hbytes : Document.bytes ⟨line :: lines, last⟩ =
          line.1.bytes ++ line.2.bytes ++ Document.bytes ⟨lines, last⟩ := by
        simp only [Document.bytes, List.flatMap_cons, List.append_assoc]
      rw [hbytes, foldl_pieces_line, ih]
      rfl

/-! ## The effect of a line -/

section Trailer

variable (blanks : Blanks) (remark : Option Comment)

/-- What is left of a trailer when the line is trimmed: blanks up to a comment. -/
theorem trailer_trimmed :
    ∀ c ∈ ((trailer blanks remark).rdropWhile isBlank).takeWhile fun c => !isCommentMark c,
      isBlank c = true := by
  cases remark with
  | none =>
      have hall : ∀ c ∈ trailer blanks none, isBlank c := by
        intro c hc
        rcases List.mem_append.mp hc with hblank | hnone
        · exact blanks.isBlank c hblank
        · cases hnone
      rw [Trim.rdropWhile_eq_nil hall]
      intro c hc
      cases hc
  | some remark =>
      have hmark : ¬isBlank remark.mark := by
        rw [isCommentMark.notBlank remark.isMark]
        decide
      have hbytes : trailer blanks (some remark) = (blanks.bytes ++ [remark.mark]) ++ remark.text :=
        (List.append_cons _ _ _)
      rw [hbytes, Trim.rdropWhile_append (List.rdropWhile_concat_neg _ _ _ hmark),
        List.append_assoc, List.singleton_append, Trim.takeWhile_append_cons]
      · exact blanks.isBlank
      · intro c hc
        rw [(blanks.padding c hc).notMark]
        rfl
      · rw [remark.isMark]
        decide

end Trailer

theorem Name.trimmed (name : Name) : Trim.Trimmed (isBlank ·) name.bytes :=
  Trim.Trimmed.of_forall fun c hc => by
    rw [(name.plain c hc).notBlank]
    decide

theorem Value.trimmed (value : Value) : Trim.Trimmed (isBlank ·) value.bytes :=
  Trim.Trimmed.of_forall fun c hc => by
    rw [(value.plain c hc).notBlank]
    decide

theorem lineEffect_blank (ctx : IniContext) (blanks : Blanks) :
    lineEffect ctx (Line.blank blanks).bytes = ctx := by
  have hnil : profileTrim blanks.bytes = [] := Trim.trim_eq_nil blanks.isBlank
  rw [lineEffect, Line.bytes, if_pos hnil]

theorem lineEffect_comment (ctx : IniContext) (lead : Blanks) (remark : Comment) :
    (lineEffect ctx (Line.comment lead remark).bytes).sectionHead = ctx.sectionHead := by
  have hword : Trim.Trimmed isBlank [remark.mark] := by
    apply Trim.Trimmed.of_forall
    intro c hc
    rw [List.mem_singleton.mp hc, isCommentMark.notBlank remark.isMark]
    decide
  have htrim : profileTrim (Line.comment lead remark).bytes =
      remark.mark :: remark.text.rdropWhile isBlank := by
    have hcut := Trim.trim_word remark.text lead.isBlank hword (by simp)
    rwa [List.append_assoc] at hcut
  rw [lineEffect, htrim, if_neg (by simp), processLine, if_pos remark.isMark]
  rfl

/-- A section line puts its name at the head of the list. -/
theorem lineEffect_header (ctx : IniContext) (lead before : Blanks) (name : Name)
    (after trail : Blanks) (remark : Option Comment) :
    lineEffect ctx (Line.header lead before name after trail remark).bytes =
      { ctx with sectionHead :=
          ⟨.live name.bytes, name.bytes.length, .null, .null⟩ :: ctx.sectionHead } := by
  let inner := before.bytes ++ name.bytes ++ after.bytes
  let rest := (trailer trail remark).rdropWhile isBlank
  have hinner : ∀ c ∈ inner, c ≠ ']'.toUInt8 := by
    intro c hc
    simp only [inner, List.mem_append] at hc
    rcases hc with (hbefore | hname) | hafter
    · exact (before.padding c hbefore).notClose
    · exact (name.plain c hname).notClose
    · exact (after.padding c hafter).notClose
  have hne : inner ≠ [] := by
    intro hnil
    simp only [inner, List.append_eq_nil_iff] at hnil
    exact name.nonempty hnil.1.2
  have hword : Trim.Trimmed isBlank ('['.toUInt8 :: inner ++ [']'.toUInt8]) :=
    Trim.Trimmed.of_ends (by decide) (by decide)
  have htrim : profileTrim (Line.header lead before name after trail remark).bytes =
      '['.toUInt8 :: (inner ++ ']'.toUInt8 :: rest) := by
    have hcut := Trim.trim_word (trailer trail remark) lead.isBlank hword (by simp)
    simpa [profileTrim, Trim.trim, Line.bytes, inner, rest] using hcut
  have hsearch : (inner ++ ']'.toUInt8 :: rest).takeWhile (fun c => c != ']'.toUInt8) = inner :=
    Trim.takeWhile_append_cons (fun c hc => by simpa using hinner c hc) (by decide)
  have hname : profileTrim inner = name.bytes :=
    Trim.trim_word_blanks before.isBlank name.trimmed name.nonempty after.isBlank
  have hlength : inner.length ≠ (inner ++ ']'.toUInt8 :: rest).length :=
    Trim.length_ne_of_append_cons inner _ rest
  rw [lineEffect, htrim, if_neg (by simp), processLine, if_neg (by decide), if_pos rfl,
    profileGetSection]
  simp only [List.drop_one, List.tail_cons, hsearch, hname, if_neg hlength, if_neg hne,
    if_neg name.nonempty, name.valid]
  rfl

theorem processLine_name (name : Name) (rest : List UInt8) (ctx : IniContext) :
    processLine (name.bytes ++ rest) ctx = profileGetEntry (name.bytes ++ rest) ctx := by
  have hplain := name.plain
  cases hname : name.bytes with
  | nil => exact absurd hname name.nonempty
  | cons c bytes =>
      have hc := hplain c (by simp [hname])
      rw [List.cons_append, processLine, hc.notMark, if_neg (by decide), if_neg hc.notOpen]

/-- An entry goes to the section at the head of the list, and nowhere without one. -/
theorem lineEffect_entry (ctx : IniContext) (lead : Blanks) (key : Name) (before after : Blanks)
    (value : Value) (trail : Blanks) (remark : Option Comment) :
    lineEffect ctx (Line.entry lead key before after value trail remark).bytes =
      match ctx.sectionHead with
      | [] => ctx
      | item :: items =>
        { ctx with
          sectionHead :=
            ⟨item.ptrSection, item.secNameLen, .live key.bytes, .live value.bytes⟩ ::
              item :: items } := by
  let left := key.bytes ++ before.bytes
  let right := after.bytes ++ value.bytes
  let rest := (trailer trail remark).rdropWhile isBlank
  have hleft : ∀ c ∈ left, (c != '='.toUInt8) = true := by
    intro c hc
    rw [bne_iff_ne]
    rcases List.mem_append.mp hc with hkey | hbefore
    · exact (key.plain c hkey).notEqual
    · exact (before.padding c hbefore).notEqual
  have hright : ∀ c ∈ right, (!isCommentMark c) = true := by
    intro c hc
    rw [Bool.not_eq_true']
    rcases List.mem_append.mp hc with hafter | hvalue
    · exact (after.padding c hafter).notMark
    · exact (value.plain c hvalue).notMark
  have hword : Trim.Trimmed (isBlank ·) (key.bytes ++
      ((before.bytes ++ '='.toUInt8 :: after.bytes) ++ value.bytes)) :=
    key.trimmed.append key.nonempty _ value.trimmed value.nonempty
  have htrim : profileTrim (Line.entry lead key before after value trail remark).bytes =
      left ++ '='.toUInt8 :: (right ++ rest) := by
    have hcut := Trim.trim_word (trailer trail remark) lead.isBlank hword (by simp [key.nonempty])
    simpa [profileTrim, Trim.trim, Line.bytes, left, right, rest] using hcut
  have hsearch : (left ++ '='.toUInt8 :: (right ++ rest)).takeWhile (fun c => c != '='.toUInt8) =
      left := Trim.takeWhile_append_cons hleft (by decide)
  have hkey : profileTrim left = key.bytes := key.trimmed.trim_append before.isBlank
  have hlength : left.length ≠ (left ++ '='.toUInt8 :: (right ++ rest)).length :=
    Trim.length_ne_of_append_cons left _ _
  have hleftNe : left ≠ [] := by simp [left, key.nonempty]
  have htext : (left ++ '='.toUInt8 :: (right ++ rest)).drop (left.length + 1) = right ++ rest := by
    rw [← List.drop_drop, List.drop_left, List.drop_one, List.tail_cons]
  -- a comment behind the value is cut off with the blanks before it
  have hcut : profileTrim ((right ++ rest).takeWhile fun c => !isCommentMark c) = value.bytes := by
    rw [List.takeWhile_append_of_pos hright]
    exact Trim.trim_word_blanks after.isBlank value.trimmed value.nonempty
      (trailer_trimmed trail remark)
  have hne : ((right ++ rest).takeWhile fun c => !isCommentMark c) ≠ [] := by
    rw [List.takeWhile_append_of_pos hright]
    simp [right, value.nonempty]
  have hprocess : processLine (left ++ '='.toUInt8 :: (right ++ rest)) ctx =
      profileGetEntry (left ++ '='.toUInt8 :: (right ++ rest)) ctx := by
    simp only [left, List.append_assoc]
    exact processLine_name key _ ctx
  rw [lineEffect, htrim, if_neg (by simp), hprocess, profileGetEntry]
  simp only [hsearch, hkey, htext, hcut, if_neg hlength, if_neg hleftNe, if_neg key.nonempty,
    if_neg hne, if_neg value.nonempty, key.valid, value.valid]
  cases ctx.sectionHead <;> rfl

/-! ## The items -/

/-- The section that the lines after a line belong to. -/
def Line.sectionAfter (current : Option (List UInt8)) : Line → Option (List UInt8)
  | .header _ _ name _ _ _ => some name.bytes
  | .blank _ | .comment .. | .entry .. => current

theorem assignments_cons (current : Option (List UInt8)) (line : Line) (lines : List Line) :
    assignments current (line :: lines) =
      assignments current [line] ++ assignments (line.sectionAfter current) lines := by
  cases line <;> cases current <;> rfl

theorem lastValue_append (assigned : List Assignment) (a : Assignment)
    (sectionName entryName : List UInt8) :
    lastValue (assigned ++ [a]) sectionName entryName =
      if a.sectionName = sectionName ∧ a.entryName = entryName then some a.value
      else lastValue assigned sectionName entryName := by
  rw [lastValue, List.filter_append]
  split
  · rename_i hassigned
    rw [List.filter_cons_of_pos (by simpa using hassigned), List.filter_nil, List.getLast?_append]
    rfl
  · rename_i hother
    rw [List.filter_cons_of_neg (by simpa using hother), List.filter_nil, List.append_nil]
    rfl

theorem Name.cString_eq (name : Name) : cString name.bytes = name.bytes := by
  rw [cString, List.takeWhile_eq_self_iff]
  intro c hc
  rw [bne_iff_ne]
  exact (name.plain c hc).notNul

/-- What a lookup answers for a value that is assigned, or for none. -/
def answer : Option (List UInt8) → Lookup
  | some value => .found (.live value)
  | none => .notFound

/-- The items answer with the last assignments, and the head item is in the current section. -/
structure Reads (ctx : IniContext) (current : Option (List UInt8)) (assigned : List Assignment) :
    Prop where
  head : ctx.sectionHead.head?.map SectionItem.ptrSection = current.map StringPtr.live
  terminated : ∀ sectionName ∈ current, cString sectionName = sectionName
  lookup : ∀ sectionName entryName,
    updateGetProfileString sectionName entryName ctx.sectionHead =
      answer (lastValue assigned (cString sectionName) (cString entryName))

theorem reads_empty : Reads ⟨[], []⟩ none [] where
  head := rfl
  terminated := by
    intro sectionName hmem
    cases hmem
  lookup _ _ := rfl

section Step

variable {ctx : IniContext} {current : Option (List UInt8)} {assigned : List Assignment}

theorem Reads.header (h : Reads ctx current assigned) (name : Name) :
    Reads
      { ctx with sectionHead :=
          ⟨.live name.bytes, name.bytes.length, .null, .null⟩ :: ctx.sectionHead }
      (some name.bytes) assigned where
  head := rfl
  terminated := by
    intro sectionName hmem
    cases hmem
    exact name.cString_eq
  lookup := by
    intro sectionName entryName
    rw [← h.lookup, updateGetProfileString]
    simp only [ite_self]

theorem Reads.entry {sectionName : List UInt8} {item : SectionItem} {items : List SectionItem}
    (h : Reads ctx (some sectionName) assigned) (hitems : ctx.sectionHead = item :: items)
    (key : Name) (value : Value) :
    Reads
      { ctx with sectionHead :=
          ⟨item.ptrSection, item.secNameLen, .live key.bytes, .live value.bytes⟩ ::
            item :: items }
      (some sectionName) (assigned ++ [⟨sectionName, key.bytes, value.bytes⟩]) := by
  have hsection : item.ptrSection = .live sectionName := by
    have hhead := h.head
    rw [hitems] at hhead
    exact Option.some.inj hhead
  refine ⟨congrArg some hsection, h.terminated, ?_⟩
  intro wantedSection wantedEntry
  have hlookup := h.lookup wantedSection wantedEntry
  have hterminated := h.terminated sectionName rfl
  rw [hitems] at hlookup
  rw [lastValue_append, updateGetProfileString, hsection]
  simp only [sameString, key.cString_eq, hterminated, hlookup, beq_iff_eq]
  by_cases hsame : sectionName = cString wantedSection
  · by_cases hkey : key.bytes = cString wantedEntry
    · rw [if_pos hsame, if_pos hkey, if_pos ⟨hsame, hkey⟩]
      rfl
    · rw [if_pos hsame, if_neg hkey, if_neg fun hboth => hkey hboth.2]
  · rw [if_neg hsame, if_neg fun hboth => hsame hboth.1]

/-- Every line keeps the items in step with the assignments. -/
theorem Reads.line (h : Reads ctx current assigned) (line : Line) :
    Reads (lineEffect ctx line.bytes) (line.sectionAfter current)
      (assigned ++ assignments current [line]) := by
  cases line with
  | blank blanks =>
      rw [lineEffect_blank]
      cases current <;> simpa [assignments, Line.sectionAfter] using h
  | comment lead remark =>
      have hsame := lineEffect_comment ctx lead remark
      have hkept : Reads (lineEffect ctx (Line.comment lead remark).bytes) current assigned :=
        ⟨hsame ▸ h.head, h.terminated, hsame ▸ h.lookup⟩
      cases current <;> simpa [assignments, Line.sectionAfter] using hkept
  | header lead before name after trail remark =>
      rw [lineEffect_header]
      have hnew := h.header name
      cases current <;> simpa [assignments, Line.sectionAfter] using hnew
  | entry lead key before after value trail remark =>
      rw [lineEffect_entry]
      cases hitems : ctx.sectionHead with
      | nil =>
          cases current with
          | none => simpa [assignments, Line.sectionAfter] using h
          | some sectionName =>
              have hhead := h.head
              rw [hitems] at hhead
              cases hhead
      | cons item items =>
          cases current with
          | none =>
              have hhead := h.head
              rw [hitems] at hhead
              cases hhead
          | some sectionName => exact h.entry hitems key value

end Step

/-- The lines of a document keep the items in step with its assignments. -/
theorem Reads.lines {ctx : IniContext} {current : Option (List UInt8)}
    {assigned : List Assignment} (h : Reads ctx current assigned) (lines : List Line) :
    ∃ last, Reads ((lines.map Line.bytes).foldl lineEffect ctx) last
      (assigned ++ assignments current lines) := by
  induction lines generalizing ctx current assigned with
  | nil =>
      refine ⟨current, ?_⟩
      cases current <;> simpa [assignments, Line.sectionAfter] using h
  | cons line lines ih =>
      rw [assignments_cons, ← List.append_assoc]
      exact ih (h.line line)

/-- Reading a well-formed file and looking an entry up gives what the document assigns. -/
theorem getStringFromDataFile_document (lib : LibspdmStatus) (doc : Document)
    (sectionName entryName : List UInt8) :
    getStringFromDataFile (openIniFile lib doc.bytes) sectionName entryName =
      match doc.value? (cString sectionName) (cString entryName) with
      | some value => .found (.live value)
      | none => .notFound := by
  rcases reads_empty.lines doc.allLines with ⟨last, hreads⟩
  have hlookup := hreads.lookup sectionName entryName
  rw [← foldl_pieces_document] at hlookup
  rw [openIniFile_eq]
  split
  · rename_i hempty
    rw [hempty] at hlookup
    exact hlookup
  · exact hlookup

end TeeIoValidator.IniFile
