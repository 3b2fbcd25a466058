import TeeIoValidator.Library.Checked
import TeeIoValidator.Model.IniFile

/-! The values that the section parsers read: strings, numbers and lists of numbers. -/

namespace TeeIoValidator.IniConfig

open IniFile

/-! ## Text -/

def text (s : String) : List UInt8 := s.toList.map Char.toUInt8

def digit (n : ℕ) : UInt8 := '0'.toUInt8 + UInt8.ofNat n

def decimalDigits : ℕ → ℕ → List UInt8
  | 0, _ => []
  | fuel + 1, n => (if n < 10 then [] else decimalDigits fuel (n / 10)) ++ [digit (n % 10)]

/-- `%d`. A number has fewer digits than its successor counts. -/
def decimalString (n : ℕ) : List UInt8 := decimalDigits (n + 1) n

def comma : UInt8 := ','.toUInt8

/-- What is in front of the last comma and what is behind it. -/
def splitAtLastComma (str : List UInt8) : Option (List UInt8 × List UInt8) :=
  let last := (str.reverse.takeWhile fun c => c != comma).reverse
  if last.length = str.length then none
  else some (str.take (str.length - last.length - 1), last)

/-- What is in front of the first `c` and what is behind it. -/
def splitAtFirst (c : UInt8) (str : List UInt8) : Option (List UInt8 × List UInt8) :=
  let first := str.takeWhile fun d => d != c
  if first.length = str.length then none else some (first, str.drop (first.length + 1))

/-! ## Faults -/

/-- Where a function does not come to its end: a failed assertion loops for ever, a null pointer or
a number that is no pointer is dereferenced, memory outside of an object is accessed, or a table of
the configuration is written behind its end. -/
inductive Fault where
  | assertion
  | crash
  | wild
  | overrun
  deriving Repr, DecidableEq

abbrev Checked := Except Fault

/-! ## Lookup -/

/-- `GetStringFromDataFile`; the string is used up to its terminator. -/
def getString (context : IniContext) (sectionName entryName : List UInt8) :
    Checked (Option (List UInt8)) :=
  match getStringFromDataFile (some context) sectionName entryName with
  | .found (.live value) => .ok (some (cString value))
  | .found .null => .error .crash
  | .found .freed => .error .wild
  | .notFound => .ok none
  | .undefined => .error .wild

def sectionHasEntry (sectionName : List UInt8) : List SectionItem → Checked Bool
  | [] => .ok false
  | item :: items =>
    match item.ptrSection with
    | .null => .error .crash
    | .freed => .error .wild
    | .live name =>
      if sameString name sectionName && item.ptrEntry != .null then .ok true
      else sectionHasEntry sectionName items

def isValidSection (context : IniContext) (sectionName : List UInt8) : Checked Bool :=
  sectionHasEntry sectionName context.sectionHead

/-! ## Numbers -/

def uint32Max : ℕ := 2 ^ 32 - 1

def isValidDecimalString (decimal : List UInt8) : Bool := isValidDigital decimal false

def isValidHexString (hex : List UInt8) : Bool :=
  hex.length > 2 && hex[0]? == some '0'.toUInt8 &&
    (hex[1]? == some 'x'.toUInt8 || hex[1]? == some 'X'.toUInt8) && isValidDigital (hex.drop 2) true

def hexDigitValue (c : UInt8) : ℕ :=
  if c ≤ '9'.toUInt8 then (c - '0'.toUInt8).toNat
  else if c ≤ 'F'.toUInt8 then (c - 'A'.toUInt8).toNat + 10
  else (c - 'a'.toUInt8).toNat + 10

/-- The number that digits stand for. -/
def digitsValue (base : ℕ) (digits : List UInt8) : ℕ :=
  digits.foldl (fun value c => base * value + hexDigitValue c) 0

/-- A number that is valid and fits. -/
def decimalUint32 (value : List UInt8) : Option ℕ :=
  if isValidDecimalString value && digitsValue 10 value ≤ uint32Max then some (digitsValue 10 value)
  else none

def hexUint32 (value : List UInt8) : Option ℕ :=
  if isValidHexString value && digitsValue 16 (value.drop 2) ≤ uint32Max then
    some (digitsValue 16 (value.drop 2))
  else none

def getDecimalUint32 (context : IniContext) (sectionName entryName : List UInt8) :
    Checked (Option ℕ) := do
  let value ← getString context sectionName entryName
  .ok (value.bind decimalUint32)

def getHexUint32 (context : IniContext) (sectionName entryName : List UInt8) :
    Checked (Option ℕ) := do
  let value ← getString context sectionName entryName
  .ok (value.bind hexUint32)

/-! ## Lists -/

/-- The tokens that `strtok` cuts at commas. -/
def tokens (string : List UInt8) : List (List UInt8) :=
  (string.splitOnP (· == comma)).filter fun token => token ≠ []

/-- `get_uint32_array_from_string` without a limit. -/
def getUint32Array (string : List UInt8) : Option (List ℕ) :=
  if tokens string = [] then none else (tokens string).mapM decimalUint32

def getMaxFromUint32Array (array : List ℕ) : ℕ := array.foldl max 0

/-! ## Devices -/

/-- A device and function such as `02.0`. -/
def isValidDevFunc (df : List UInt8) : Bool :=
  match df with
  | [d₁, d₀, dot, f] =>
    dot == '.'.toUInt8 && isValidDigitalChar d₁ true && isValidDigitalChar d₀ true &&
      isValidDigitalChar f true
  | _ => false

end TeeIoValidator.IniConfig
