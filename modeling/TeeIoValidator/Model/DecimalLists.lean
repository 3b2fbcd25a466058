import TeeIoValidator.Library.Iteration
import TeeIoValidator.Library.Tracked
import TeeIoValidator.Model.BusScan
import TeeIoValidator.Model.IniConfig.SwConns

/-! The recognisers of lists of decimal numbers. Each of them cuts a copy of the string into
pieces. -/

namespace TeeIoValidator.DecimalLists

open IniFile IniConfig
open BusScan (isSpace splitSign)

/-! ## Functions of the C library -/

/-- `ULONG_MAX`. -/
def ulongMax : ℕ := 2 ^ 64 - 1

/-- `strtoul(s, &end_ptr, 10)`: the number, and the string at `end_ptr`. -/
def strtoul (s : List UInt8) : ℕ × List UInt8 :=
  let (negative, unsigned) := splitSign (s.dropWhile isSpace)
  let digits := unsigned.takeWhile fun c => isValidDigitalChar c false
  if digits = [] then (0, s)
  else
    let value := digitsValue 10 digits
    let result := if value > ulongMax then ulongMax
      else if negative then (ulongMax + 1 - value) % (ulongMax + 1) else value
    (result, unsigned.dropWhile fun c => isValidDigitalChar c false)

/-- A token with its offset in the copy. -/
structure Token where
  pos : ℕ
  bytes : List UInt8
  deriving Repr, DecidableEq

/-- The pointer that `strtok` keeps between two calls: its offset in the copy, and the string that
is there. -/
structure Cursor where
  pos : ℕ
  rest : List UInt8
  deriving Repr, DecidableEq

structure Strtok where
  token : Option Token
  cursor : Cursor
  access : ℕ × ℕ
  deriving Repr, DecidableEq

/-- `strtok` with commas. The byte behind the token, which becomes its terminator, is the last one
that is touched. -/
def strtok (c : Cursor) : Strtok :=
  let start := c.pos + (c.rest.takeWhile (· == comma)).length
  let found := c.rest.dropWhile (· == comma)
  if found = [] then ⟨none, ⟨start, []⟩, (c.pos, start - c.pos + 1)⟩
  else
    let bytes := found.takeWhile (!· == comma)
    let stop := start + bytes.length
    let access := (c.pos, stop - c.pos + 1)
    match found.dropWhile (!· == comma) with
    | [] => ⟨some ⟨start, bytes⟩, ⟨stop, []⟩, access⟩
    | _ :: rest => ⟨some ⟨start, bytes⟩, ⟨stop + 1, rest⟩, access⟩

/-- `IsValidDecimalString(s, strlen(s))`, which takes the length as a `uint32_t`. -/
def isValidDecimal (s : List UInt8) : Bool :=
  isValidDecimalString (s.take (BitVec.ofNat 32 s.length).toNat)

/-! ## Results -/

/-- The bytes of the string and of its copy that are accessed, and the size of the copy. -/
structure Touched where
  copySize : ℕ
  string : Reads
  copy : Reads
  deriving Repr, DecidableEq

def Touched.onCopy (t : Touched) (access : ℕ × ℕ) : Touched :=
  { t with copy := t.copy ++ [access] }

/-- The copy of a string and its terminator is allocated and written. -/
def Touched.copied (string : List UInt8) : Touched where
  copySize := string.length + 1
  string := [(0, string.length + 1)]
  copy := [(0, string.length + 1)]

/-- What is returned, the numbers that are written to the array, and `*array_size` where there is
one. -/
structure Outcome where
  ret : Bool
  array : List ℤ
  arraySize : BitVec 32 := 0
  touched : Touched
  deriving Repr, DecidableEq

/-! ## `IsValidDecimalArray` -/

structure ScanState where
  token : Option Token
  valid : Bool
  touched : Touched
  deriving Repr, DecidableEq

/-- The body of the loop, which does not go on to the next token. -/
def isValidDecimalArrayRound (s : ScanState) : ScanState ⊕ Outcome :=
  match s.token with
  | none => .inr { ret := s.valid, array := [], touched := s.touched }
  | some token =>
    let touched := s.touched.onCopy (token.pos, token.bytes.length + 1)
    if isValidDecimal token.bytes then .inl ⟨some token, true, touched⟩
    else .inr { ret := false, array := [], touched := touched }

/-- `IsValidDecimalArray`, where `length` is the length of the string. The size of the copy is a
`uint32_t`; one that is too small holds no terminator. -/
def isValidDecimalArray (value : Option (List UInt8)) (length : BitVec 32) (fuel : ℕ) :
    Option (Checked Outcome) :=
  match value with
  | none => some (.ok { ret := false, array := [], touched := ⟨0, [], []⟩ })
  | some value =>
    if length = 0 then some (.ok { ret := false, array := [], touched := ⟨0, [], []⟩ })
    else if (length + 1).toNat ≠ value.length + 1 then some (.error .overrun)
    else
      let first := strtok ⟨0, value⟩
      (Iteration.run isValidDecimalArrayRound fuel
        ⟨first.token, false, (Touched.copied value).onCopy first.access⟩).map .ok

/-! ## `decimal_str_to_array` -/

/-- `ptr` by its offset in the copy, and the string that is there. -/
structure ConvertState where
  ptr : ℕ
  rest : List UInt8
  pos : ℕ
  array : List ℤ
  valid : Bool
  touched : Touched
  deriving Repr, DecidableEq

/-- The body of the loop. The elements of the array are of type `int`. -/
def decimalStrToArrayRound (len : ℕ) (array : Option ℕ) (s : ConvertState) :
    ConvertState ⊕ Outcome :=
  if len ≤ s.pos then .inr { ret := s.valid, array := s.array, touched := s.touched }
  else
    let touched := s.touched.onCopy (s.ptr, s.rest.length + 1)
    match findCharInStr s.rest comma with
    | none => .inr { ret := s.valid, array := s.array, touched := touched }
    | some pos =>
      let piece := s.rest.take pos
      let touched := touched.onCopy (s.ptr, pos + 1)
      let next (written : List ℤ) : ConvertState :=
        ⟨s.ptr + (pos + 1), s.rest.drop (pos + 1), pos + 1, written, true, touched⟩
      if !isValidDecimal piece then .inr { ret := false, array := s.array, touched := touched }
      else
        match array with
        | none | some 0 => .inl (next s.array)
        | some (size + 1) =>
          let (result, endPtr) := strtoul piece
          if endPtr ≠ [] ∨ s.array.length = size + 1 then
            .inr { ret := false, array := s.array, touched := touched }
          else .inl (next (s.array ++ [(BitVec.ofNat 32 result).toInt]))

/-- `len`, an `int`. -/
def copyLength (str : List UInt8) : ℤ := (BitVec.ofNat 32 (str.length + 2)).toInt

/-- The copy is padded with zeros, and a comma is written behind it. -/
def Touched.padded (str : List UInt8) : Touched where
  copySize := str.length + 2
  string := [(0, str.length + 1), (0, str.length + 1)]
  copy := [(0, str.length + 2), (str.length + 2, 1)]

/-- `decimal_str_to_array`, where `array` is the size of the array, if there is one. No memory is
allocated for a negative length, and in a copy that is too small the string has no terminator. -/
def decimalStrToArray (str : Option (List UInt8)) (array : Option ℕ) (fuel : ℕ) :
    Option (Checked Outcome) :=
  match str with
  | none => some (.ok { ret := false, array := [], touched := ⟨0, [], []⟩ })
  | some [] => some (.ok { ret := false, array := [], touched := ⟨0, [(0, 1)], []⟩ })
  | some str =>
    if copyLength str < 0 then some (.error .crash)
    else if copyLength str ≠ str.length + 2 then some (.error .overrun)
    else
      (Iteration.run (decimalStrToArrayRound (str.length + 2) array) fuel
        ⟨0, str, 0, [], false, .padded str⟩).map .ok

def validDecimalIntArray (str : Option (List UInt8)) (fuel : ℕ) : Option (Checked Outcome) :=
  decimalStrToArray str none fuel

/-! ## `get_uint32_array_from_string` -/

structure FillState where
  token : Option Token
  cursor : Cursor
  count : ℕ
  array : List ℤ
  ret : Bool
  touched : Touched
  deriving Repr, DecidableEq

/-- The body of the loop; `array` says whether there is an array. -/
def getUint32ArrayRound (array : Bool) (arraySize : BitVec 32) (s : FillState) :
    FillState ⊕ Outcome :=
  match s.token with
  | none =>
    .inr ⟨s.ret, s.array, if s.ret then BitVec.ofNat 32 s.count else arraySize, s.touched⟩
  | some token =>
    let touched := s.touched.onCopy (token.pos, token.bytes.length + 1)
    let (result, endPtr) := strtoul token.bytes
    if !isValidDecimal token.bytes then .inr ⟨false, s.array, arraySize, touched⟩
    else if endPtr ≠ [] then .inr ⟨false, s.array, arraySize, touched⟩
    else if result > uint32Max then .inr ⟨false, s.array, arraySize, touched⟩
    else if array ∧ BitVec.ofNat 32 s.count = arraySize then
      .inr ⟨false, s.array, arraySize, touched⟩
    else
      let next := strtok s.cursor
      .inl ⟨next.token, next.cursor, s.count + 1,
        if array then s.array ++ [((BitVec.ofNat 32 result).toNat : ℤ)] else s.array, true,
        touched.onCopy next.access⟩

/-- `get_uint32_array_from_string`, where `arraySize` is `*array_size` at the call. -/
def getUint32ArrayFromString (array : Bool) (arraySize : BitVec 32)
    (string : Option (List UInt8)) (fuel : ℕ) : Option (Checked Outcome) :=
  match string with
  | none => some (.error .crash)
  | some [] => some (.ok ⟨false, [], arraySize, ⟨0, [(0, 1)], []⟩⟩)
  | some string =>
    let first := strtok ⟨0, string⟩
    (Iteration.run (getUint32ArrayRound array arraySize) fuel
      ⟨first.token, first.cursor, 0, [], false,
        (Touched.copied string).onCopy first.access⟩).map .ok

/-! ## What the recognisers are for -/

/-- The pieces between the commas. -/
def pieces (string : List UInt8) : List (List UInt8) := string.splitOnP (· == comma)

/-- A piece is a number when it is one digit or more. -/
def IsNumber (piece : List UInt8) : Prop := piece ≠ [] ∧ isValidDecimalString piece = true

instance (piece : List UInt8) : Decidable (IsNumber piece) := inferInstanceAs (Decidable (_ ∧ _))

def IsDecimalList (string : List UInt8) : Prop := ∀ piece ∈ pieces string, IsNumber piece

instance (string : List UInt8) : Decidable (IsDecimalList string) :=
  inferInstanceAs (Decidable (∀ _ ∈ _, _))

def numbers (string : List UInt8) : List ℤ :=
  (pieces string).map fun piece => (digitsValue 10 piece : ℤ)

/-- No byte outside of the string or its copy is accessed. -/
def Touched.Inside (touched : Touched) (string : List UInt8) : Prop :=
  touched.string.Within (string.length + 1) ∧ touched.copy.Within touched.copySize

def Returns (run : ℕ → Option (Checked Outcome)) (outcome : Outcome) : Prop :=
  ∃ fuel, run fuel = some (.ok outcome)

/-- The lists are accepted, and what is written for them is their numbers. -/
structure Right (string : List UInt8) (written : List ℤ) (outcome : Outcome) : Prop where
  accepts : outcome.ret = true ↔ IsDecimalList string
  array : outcome.ret = true → outcome.array = written
  inside : outcome.touched.Inside string

def Recognises (run : ℕ → Option (Checked Outcome)) (string : List UInt8) (written : List ℤ) :
    Prop :=
  ∃ outcome, Returns run outcome ∧ Right string written outcome

/-- The recognisers come to their ends with the same answer, and an array that is large enough is
filled with the numbers. -/
structure RecognisersAgree (string : List UInt8) : Prop where
  isValidDecimalArray : ∀ length : BitVec 32, length.toNat = string.length →
    Recognises (isValidDecimalArray (some string) length) string []
  validDecimalIntArray : Recognises (validDecimalIntArray (some string)) string []
  decimalStrToArray : ∀ size, (pieces string).length ≤ size →
    Recognises (decimalStrToArray (some string) (some size)) string (numbers string)
  sizes : ∀ arraySize, Recognises (getUint32ArrayFromString false arraySize (some string)) string []
  fills : ∀ arraySize, (pieces string).length ≤ arraySize.toNat →
    Recognises (getUint32ArrayFromString true arraySize (some string)) string (numbers string)
  sizesWhatIsFilled : ∀ arraySize sized,
    Returns (getUint32ArrayFromString false arraySize (some string)) sized → sized.ret = true →
    ∃ filled, Returns (getUint32ArrayFromString true sized.arraySize (some string)) filled ∧
      filled.ret = true ∧ filled.array.length = sized.arraySize.toNat

end TeeIoValidator.DecimalLists
