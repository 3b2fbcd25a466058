import TeeIoValidator.Verification.IniFile.Lines

/-! # Well-formed data files

A document is a list of lines with their line ends; its bytes are what the file holds, and the
assignments of its lines are what the file says.
-/

namespace TeeIoValidator.IniFile

/-! ## Grammar -/

/-- Spaces and tabs. -/
structure Blanks where
  bytes : List UInt8
  blank : ∀ c ∈ bytes, c = space ∨ c = tab

structure Name where
  bytes : List UInt8
  nonempty : bytes ≠ []
  valid : isValidName bytes = true

structure Value where
  bytes : List UInt8
  nonempty : bytes ≠ []
  valid : isValidValue bytes = true

structure Comment where
  mark : UInt8
  text : List UInt8
  isMark : isCommentMark mark = true
  oneLine : ∀ c ∈ text, isLineBreak c = false

def Comment.bytes (comment : Comment) : List UInt8 := comment.mark :: comment.text

/-- A comment may follow a section and an entry. -/
def trailer (blanks : Blanks) (remark : Option Comment) : List UInt8 :=
  blanks.bytes ++ (remark.map Comment.bytes).getD []

inductive Line where
  | blank (blanks : Blanks)
  | comment (lead : Blanks) (remark : Comment)
  | header (lead before : Blanks) (name : Name) (after trail : Blanks) (remark : Option Comment)
  | entry (lead : Blanks) (key : Name) (before after : Blanks) (value : Value) (trail : Blanks)
      (remark : Option Comment)

def Line.bytes : Line → List UInt8
  | .blank blanks => blanks.bytes
  | .comment lead remark => lead.bytes ++ remark.bytes
  | .header lead before name after trail remark =>
    lead.bytes ++ '['.toUInt8 ::
      (before.bytes ++ name.bytes ++ after.bytes ++ ']'.toUInt8 :: trailer trail remark)
  | .entry lead key before after value trail remark =>
    lead.bytes ++ (key.bytes ++ before.bytes ++ '='.toUInt8 ::
      (after.bytes ++ value.bytes ++ trailer trail remark))

inductive LineEnd where
  | cr
  | lf
  | crlf

def LineEnd.bytes : LineEnd → List UInt8
  | .cr => [IniFile.cr]
  | .lf => [IniFile.lf]
  | .crlf => [IniFile.cr, IniFile.lf]

/-- A file whose last line has no line end; it is blank when the file ends with one. -/
structure Document where
  lines : List (Line × LineEnd)
  last : Line

def Document.bytes (doc : Document) : List UInt8 :=
  (doc.lines.flatMap fun line => line.1.bytes ++ line.2.bytes) ++ doc.last.bytes

def Document.allLines (doc : Document) : List Line := doc.lines.map Prod.fst ++ [doc.last]

/-! ## Meaning -/

structure Assignment where
  sectionName : List UInt8
  entryName : List UInt8
  value : List UInt8

/-- The assignments of lines below a section, in order. Entries that are below no section
assign nothing. -/
def assignments : Option (List UInt8) → List Line → List Assignment
  | _, [] => []
  | _, .header _ _ name _ _ _ :: lines => assignments (some name.bytes) lines
  | some sectionName, .entry _ key _ _ value _ _ :: lines =>
    ⟨sectionName, key.bytes, value.bytes⟩ :: assignments (some sectionName) lines
  | none, .entry .. :: lines => assignments none lines
  | current, .blank _ :: lines => assignments current lines
  | current, .comment .. :: lines => assignments current lines

/-- The value of the last assignment to an entry. -/
def lastValue (assigned : List Assignment) (sectionName entryName : List UInt8) :
    Option (List UInt8) :=
  ((assigned.filter fun a => a.sectionName = sectionName ∧ a.entryName = entryName).getLast?).map
    Assignment.value

/-- What a document assigns to an entry of a section. -/
def Document.value? (doc : Document) (sectionName entryName : List UInt8) :
    Option (List UInt8) :=
  lastValue (assignments none doc.allLines) sectionName entryName

/-! ## Characters -/

/-- The mark of a comment is no blank. -/
theorem isCommentMark.notBlank {c : UInt8} (h : isCommentMark c = true) : isBlank c = false := by
  rw [isCommentMark, Bool.or_eq_true, beq_iff_eq, beq_iff_eq] at h
  rcases h with rfl | rfl <;> rfl

/-- A name has none of the characters that mean something else. -/
structure PlainChar (c : UInt8) : Prop where
  notBlank : isBlank c = false
  notMark : isCommentMark c = false
  notOpen : c ≠ '['.toUInt8
  notClose : c ≠ ']'.toUInt8
  notEqual : c ≠ '='.toUInt8
  notNul : c ≠ 0

/-- What is no blank is no line break either. -/
theorem isLineBreak_of_notBlank {c : UInt8} (h : isBlank c = false) : isLineBreak c = false := by
  rw [isBlank, Bool.or_eq_false_iff, Bool.or_eq_false_iff] at h
  exact h.1.1

theorem PlainChar.notBreak {c : UInt8} (h : PlainChar c) : isLineBreak c = false :=
  isLineBreak_of_notBlank h.notBlank

theorem isValidNameChar.plain {c : UInt8} (h : isValidNameChar c = true) : PlainChar c := by
  have hne : ∀ {d}, isValidNameChar d = false → c ≠ d := by
    rintro d hd rfl
    rw [h] at hd
    cases hd
  have hcr := hne (show isValidNameChar cr = false from rfl)
  have hlf := hne (show isValidNameChar lf = false from rfl)
  have hspace := hne (show isValidNameChar space = false from rfl)
  have htab := hne (show isValidNameChar tab = false from rfl)
  have hhash := hne (show isValidNameChar '#'.toUInt8 = false from rfl)
  have hsemi := hne (show isValidNameChar ';'.toUInt8 = false from rfl)
  refine ⟨?_, ?_, hne rfl, hne rfl, hne rfl, hne rfl⟩
  · simp [isBlank, hcr, hlf, hspace, htab]
  · simp [isCommentMark, hhash, hsemi]

theorem isValidName.plain {name : List UInt8} (h : isValidName name = true) :
    ∀ c ∈ name, PlainChar c :=
  fun c hc => isValidNameChar.plain (List.all_eq_true.mp h c hc)

theorem isValidDigitalChar.isValidNameChar {c : UInt8} (h : isValidDigitalChar c true = true) :
    isValidNameChar c = true := by
  have hf : ∀ {d : UInt8}, d ≤ 'f'.toUInt8 → d ≤ 'z'.toUInt8 :=
    fun h => UInt8.le_trans h (by decide)
  have hF : ∀ {d : UInt8}, d ≤ 'F'.toUInt8 → d ≤ 'Z'.toUInt8 :=
    fun h => UInt8.le_trans h (by decide)
  rw [isValidDigitalChar] at h
  rw [IniFile.isValidNameChar]
  simp only [Bool.or_eq_true, Bool.and_eq_true, decide_eq_true_eq, true_and] at h ⊢
  rcases h with hdigit | hlower | hupper
  · exact Or.inl (Or.inr hdigit)
  · exact Or.inl (Or.inl (Or.inl ⟨hlower.1, hf hlower.2⟩))
  · exact Or.inl (Or.inl (Or.inr ⟨hupper.1, hF hupper.2⟩))

/-- The characters of a block of hexadecimal digits. -/
theorem isValidDigital.getElem {value : List UInt8} {start n i : ℕ}
    (h : isValidDigital ((value.drop start).take n) true = true) (hstart : start ≤ i)
    (hn : i < start + n) (hi : i < value.length) : isValidNameChar value[i] = true := by
  have hlength : i - start < ((value.drop start).take n).length := by
    rw [List.length_take, List.length_drop]
    omega
  have hchar : ((value.drop start).take n)[i - start] = value[i] := by
    rw [List.getElem_take, List.getElem_drop]
    congr 1
    omega
  rw [← hchar]
  exact isValidDigitalChar.isValidNameChar (List.all_eq_true.mp h _ (List.getElem_mem hlength))

theorem isHyphen.isValidNameChar {value : List UInt8} {i : ℕ} (h : isHyphen value[i]? = true)
    (hi : i < value.length) : isValidNameChar value[i] = true := by
  rw [isHyphen, List.getElem?_eq_getElem hi, beq_iff_eq, Option.some.injEq] at h
  rw [h]
  rfl

/-- A GUID has only characters of names. -/
theorem isValidGuid.isValidName {value : List UInt8} (h : isValidGuid value = true) :
    isValidName value = true := by
  simp only [isValidGuid, Bool.and_eq_true, beq_iff_eq] at h
  rcases h with
    ⟨⟨⟨⟨⟨⟨⟨⟨⟨hlength, h8⟩, h13⟩, h18⟩, h23⟩, hfirst⟩, hsecond⟩, hthird⟩, hfourth⟩, hlast⟩
  have hstart : isValidDigital ((value.drop 0).take 8) true = true := hfirst
  rw [IniFile.isValidName, List.all_eq_true]
  intro c hc
  rcases List.mem_iff_getElem.mp hc with ⟨i, hi, rfl⟩
  have hrange : i < 8 ∨ i = 8 ∨ (9 ≤ i ∧ i < 13) ∨ i = 13 ∨ (14 ≤ i ∧ i < 18) ∨ i = 18 ∨
      (19 ≤ i ∧ i < 23) ∨ i = 23 ∨ (24 ≤ i ∧ i < 36) := by omega
  rcases hrange with hr | rfl | hr | rfl | hr | rfl | hr | rfl | hr
  · exact isValidDigital.getElem hstart (Nat.zero_le i) (by omega) hi
  · exact isHyphen.isValidNameChar h8 hi
  · exact isValidDigital.getElem hsecond hr.1 hr.2 hi
  · exact isHyphen.isValidNameChar h13 hi
  · exact isValidDigital.getElem hthird hr.1 hr.2 hi
  · exact isHyphen.isValidNameChar h18 hi
  · exact isValidDigital.getElem hfourth hr.1 hr.2 hi
  · exact isHyphen.isValidNameChar h23 hi
  · exact isValidDigital.getElem hlast hr.1 hr.2 hi

theorem Name.plain (name : Name) : ∀ c ∈ name.bytes, PlainChar c := isValidName.plain name.valid

theorem Value.plain (value : Value) : ∀ c ∈ value.bytes, PlainChar c := by
  rcases Bool.or_eq_true_iff.mp value.valid with hname | hguid
  · exact isValidName.plain hname
  · exact isValidName.plain (isValidGuid.isValidName hguid)

theorem Blanks.isBlank (blanks : Blanks) : ∀ c ∈ blanks.bytes, isBlank c = true := by
  intro c hc
  rcases blanks.blank c hc with rfl | rfl <;> rfl

/-- Blanks inside a line are none of the characters that mean something. -/
structure PaddingChar (c : UInt8) : Prop where
  notBreak : isLineBreak c = false
  notMark : isCommentMark c = false
  notClose : c ≠ ']'.toUInt8
  notEqual : c ≠ '='.toUInt8

theorem Blanks.padding (blanks : Blanks) : ∀ c ∈ blanks.bytes, PaddingChar c := by
  intro c hc
  rcases blanks.blank c hc with rfl | rfl <;>
    exact ⟨rfl, rfl, by decide, by decide⟩

end TeeIoValidator.IniFile
