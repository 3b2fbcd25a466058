import Mathlib.Data.List.DropRight
import TeeIoValidator.Model.Register

/-! The INI reader: lines of a data file, its sections and entries, and their lookup. -/

namespace TeeIoValidator.IniFile

/-! ## Characters -/

def cr : UInt8 := 0x0D
def lf : UInt8 := 0x0A
def space : UInt8 := 0x20
def tab : UInt8 := 0x09

def isLineBreak (c : UInt8) : Bool := c == cr || c == lf

/-- The characters that `ProfileTrim` removes. -/
def isBlank (c : UInt8) : Bool := c == cr || c == lf || c == space || c == tab

def isCommentMark (c : UInt8) : Bool := c == '#'.toUInt8 || c == ';'.toUInt8

def validChars : List UInt8 := ['_'.toUInt8, ':'.toUInt8, ','.toUInt8, '.'.toUInt8, '-'.toUInt8]

def isValidNameChar (nameChar : UInt8) : Bool :=
  ('a'.toUInt8 ≤ nameChar && nameChar ≤ 'z'.toUInt8) ||
    ('A'.toUInt8 ≤ nameChar && nameChar ≤ 'Z'.toUInt8) ||
    ('0'.toUInt8 ≤ nameChar && nameChar ≤ '9'.toUInt8) || validChars.contains nameChar

def isValidDigitalChar (digitalChar : UInt8) (includeHex : Bool) : Bool :=
  ('0'.toUInt8 ≤ digitalChar && digitalChar ≤ '9'.toUInt8) ||
    (includeHex && (('a'.toUInt8 ≤ digitalChar && digitalChar ≤ 'f'.toUInt8) ||
      ('A'.toUInt8 ≤ digitalChar && digitalChar ≤ 'F'.toUInt8)))

def isValidDigital (digital : List UInt8) (includeHex : Bool) : Bool :=
  digital.all fun c => isValidDigitalChar c includeHex

def isValidName (name : List UInt8) : Bool := name.all isValidNameChar

def isHyphen (c : Option UInt8) : Bool := c == some '-'.toUInt8

/-- `xxxxxxxx-xxxx-xxxx-xxxx-xxxxxxxxxxxx`. -/
def isValidGuid (value : List UInt8) : Bool :=
  value.length == 36 && isHyphen value[8]? && isHyphen value[13]? && isHyphen value[18]? &&
    isHyphen value[23]? && isValidDigital (value.take 8) true &&
    isValidDigital ((value.drop 9).take 4) true && isValidDigital ((value.drop 14).take 4) true &&
    isValidDigital ((value.drop 19).take 4) true && isValidDigital ((value.drop 24).take 12) true

def isValidValue (value : List UInt8) : Bool := isValidName value || isValidGuid value

/-! ## Sections and entries -/

/-- A pointer to a string of an item. -/
inductive StringPtr where
  | null
  | live (bytes : List UInt8)
  | freed
  deriving Repr, DecidableEq

/-- `SECTION_ITEM`; its `PtrNext` is the rest of the list. -/
structure SectionItem where
  ptrSection : StringPtr
  secNameLen : ℕ
  ptrEntry : StringPtr
  ptrValue : StringPtr
  deriving Repr, DecidableEq

/-- `INI_PARSING_LIB_CONTEXT`: the items and the comments, the last ones first. -/
structure IniContext where
  sectionHead : List SectionItem
  commentHead : List (List UInt8)
  deriving Repr, DecidableEq

/-- A boolean that is taken for a `libspdm_return_t`. -/
def statusOfBool (b : Bool) : Dword := if b then 1 else 0

/-- `LIBSPDM_STATUS_SUCCESS`. -/
def statusSuccess : Dword := 0

/-- What the code uses of the library's status type. An error has its severity in the top bits,
so a boolean is none. -/
structure LibspdmStatus where
  isError : Dword → Bool
  bufferTooSmall : Dword
  isError_bool : ∀ b, isError (statusOfBool b) = false
  isError_bufferTooSmall : isError bufferTooSmall = true

example : Nonempty LibspdmStatus :=
  ⟨⟨fun status => status >>> 28 == 8, 0x80010002, by decide, by decide⟩⟩

/-! ## Lines -/

inductive LineResult where
  | bufferTooSmall (lineSize : ℕ)
  | success (line : List UInt8)
  deriving Repr, DecidableEq

/-- The length of the first line with its line break. A line feed after the break belongs to
it. -/
def profileLineLength (buffer : List UInt8) : ℕ :=
  let ptrBuf := (buffer.takeWhile fun c => !isLineBreak c).length
  if ptrBuf + 1 ≥ buffer.length then buffer.length
  else if buffer[ptrBuf + 1]? = some lf then ptrBuf + 2
  else ptrBuf + 1

def profileGetLine (buffer : List UInt8) (lineSize : ℕ) : LineResult :=
  let length := profileLineLength buffer
  if length > lineSize then .bufferTooSmall length else .success (buffer.take length)

def profileTrim (buffer : List UInt8) : List UInt8 := (buffer.rdropWhile isBlank).dropWhile isBlank

def profileGetComments (buffer : List UInt8) (ctx : IniContext) : Bool × IniContext :=
  (true, { ctx with commentHead := buffer :: ctx.commentHead })

/-- A line that starts with an opening bracket. -/
def profileGetSection (buffer : List UInt8) (ctx : IniContext) : Bool × IniContext :=
  let name := (buffer.drop 1).takeWhile fun c => c != ']'.toUInt8
  if name.length = (buffer.drop 1).length then (false, ctx)
  else if name = [] then (false, ctx)
  else
    let name := profileTrim name
    if name = [] then (false, ctx)
    else if !isValidName name then (false, ctx)
    else
      (true, { ctx with sectionHead := ⟨.live name, name.length, .null, .null⟩ :: ctx.sectionHead })

/-- The item of an entry is in the list before its value is checked. When the value is
rejected, its strings are freed and the item stays; a later entry then copies a string that is
freed. -/
def profileGetEntry (buffer : List UInt8) (ctx : IniContext) : Bool × IniContext :=
  let name := buffer.takeWhile fun c => c != '='.toUInt8
  if name.length = buffer.length then (false, ctx)
  else if name = [] then (false, ctx)
  else
    let entry := profileTrim name
    if entry = [] then (false, ctx)
    else if !isValidName entry then (false, ctx)
    else match ctx.sectionHead with
      | [] => (true, ctx)
      | ptrSection :: _ =>
        let rejected := { ctx with
          sectionHead := ⟨.freed, ptrSection.secNameLen, .freed, .null⟩ :: ctx.sectionHead }
        let text := (buffer.drop (name.length + 1)).takeWhile fun c => !isCommentMark c
        if text = [] then (false, rejected)
        else
          let value := profileTrim text
          if value = [] then (false, rejected)
          else if !isValidValue value then (false, rejected)
          else
            (true, { ctx with
              sectionHead :=
                ⟨ptrSection.ptrSection, ptrSection.secNameLen, .live entry, .live value⟩ ::
                  ctx.sectionHead })

/-! ## `PreProcessDataFile` -/

/-- A line, read again with a buffer of its length when the buffer is too small; with the new
length of the buffer. -/
def readLine (source : List UInt8) (maxLineLength : ℕ) : Option (List UInt8 × ℕ) :=
  match profileGetLine source maxLineLength with
  | .success line => some (line, maxLineLength)
  | .bufferTooSmall lineLength =>
    match profileGetLine (source.take lineLength) lineLength with
    | .success line => some (line, line.length)
    | .bufferTooSmall _ => none

/-- What is done with a line that is trimmed and not blank. -/
def processLine (line : List UInt8) (ctx : IniContext) : Bool × IniContext :=
  match line with
  | [] => (true, ctx)
  | c :: _ =>
    if isCommentMark c then profileGetComments line ctx
    else if c = '['.toUInt8 then profileGetSection line ctx
    else profileGetEntry line ctx

theorem profileLineLength_pos {buffer : List UInt8} (h : buffer ≠ []) :
    0 < profileLineLength buffer := by
  have hpos := List.length_pos_of_ne_nil h
  rw [profileLineLength]
  split
  · exact hpos
  · split <;> omega

theorem readLine_ne_nil {source line : List UInt8} {maxLineLength newLength : ℕ}
    (h : source ≠ []) (hread : readLine source maxLineLength = some (line, newLength)) :
    line ≠ [] := by
  have hpos := List.length_pos_of_ne_nil h
  have htake : ∀ {buffer lineSize}, buffer ≠ [] →
      profileGetLine buffer lineSize = .success line → line ≠ [] := by
    intro buffer lineSize hne hline
    rw [profileGetLine] at hline
    split at hline
    · cases hline
    · cases hline
      have hlength := profileLineLength_pos hne
      intro hnil
      rw [List.take_eq_nil_iff] at hnil
      rcases hnil with hzero | hempty
      · omega
      · exact hne hempty
  rw [readLine] at hread
  split at hread
  · rename_i hfirst
    cases hread
    exact htake h hfirst
  · rename_i lineLength hfirst
    have hlineLength : 0 < lineLength := by
      rw [profileGetLine] at hfirst
      split at hfirst
      · cases hfirst
        exact profileLineLength_pos h
      · cases hfirst
    split at hread
    · rename_i hsecond
      cases hread
      refine htake ?_ hsecond
      rw [Ne, List.take_eq_nil_iff]
      rintro (hzero | hempty)
      · omega
      · exact h hempty
    · cases hread

theorem drop_readLine_lt {source line : List UInt8} {maxLineLength newLength : ℕ}
    (h : source ≠ []) (hread : readLine source maxLineLength = some (line, newLength)) :
    (source.drop line.length).length < source.length := by
  have hline := List.length_pos_of_ne_nil (readLine_ne_nil h hread)
  have hsource := List.length_pos_of_ne_nil h
  rw [List.length_drop]
  omega

/-- The loop of `PreProcessDataFile` over the rest of the data. -/
def preProcessLines (lib : LibspdmStatus) (data : List UInt8) (maxLineLength : ℕ)
    (status : Dword) (ctx : IniContext) : Dword × IniContext :=
  if h : data = [] then (status, ctx)
  else match hline : readLine data maxLineLength with
    | none => (lib.bufferTooSmall, ctx)
    | some (line, maxLineLength) =>
      have := drop_readLine_lt h hline
      let trimmed := profileTrim line
      if trimmed = [] then
        preProcessLines lib (data.drop line.length) maxLineLength statusSuccess ctx
      else
        let (res, ctx) := processLine trimmed ctx
        if lib.isError (statusOfBool res) then (statusOfBool res, ctx)
        else preProcessLines lib (data.drop line.length) maxLineLength (statusOfBool res) ctx
  termination_by data.length
  decreasing_by all_goals assumption

def maxLineLengthInitial : ℕ := 512

/-- The status of the last line, as a boolean. -/
def preProcessDataFile (lib : LibspdmStatus) (data : List UInt8) : Bool × IniContext :=
  let (status, ctx) := preProcessLines lib data maxLineLengthInitial statusSuccess ⟨[], []⟩
  (status != 0, ctx)

/-- `OpenIniFile`: the boolean is taken for a status. -/
def openIniFile (lib : LibspdmStatus) (dataBuffer : List UInt8) : Option IniContext :=
  if dataBuffer = [] then none
  else
    let (res, ctx) := preProcessDataFile lib dataBuffer
    if lib.isError (statusOfBool res) then none else some ctx

/-! ## Lookup -/

/-- A string up to its terminator. -/
def cString (bytes : List UInt8) : List UInt8 := bytes.takeWhile fun c => c != 0

/-- `strcmp(..) == 0`. -/
def sameString (s t : List UInt8) : Bool := cString s == cString t

inductive Lookup where
  | found (value : StringPtr)
  | notFound
  | undefined
  deriving Repr, DecidableEq

/-- Comparing a string that is not there is undefined. -/
def updateGetProfileString (sectionName entryName : List UInt8) : List SectionItem → Lookup
  | [] => .notFound
  | item :: items =>
    match item.ptrSection with
    | .null => .undefined
    | .freed => .undefined
    | .live sectionBytes =>
      if sameString sectionBytes sectionName then
        match item.ptrEntry with
        | .null => updateGetProfileString sectionName entryName items
        | .freed => .undefined
        | .live entryBytes =>
          if sameString entryBytes entryName then .found item.ptrValue
          else updateGetProfileString sectionName entryName items
      else updateGetProfileString sectionName entryName items

def getStringFromDataFile (context : Option IniContext) (sectionName entryName : List UInt8) :
    Lookup :=
  match context with
  | none => .notFound
  | some ctx => updateGetProfileString sectionName entryName ctx.sectionHead

end TeeIoValidator.IniFile
