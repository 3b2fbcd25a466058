import TeeIoValidator.Library.Block

/-! The keys and IVs of a `KEY_PROG` message in the byte order of the root port's registers. -/

namespace TeeIoValidator.KeyOrder

/-- The bytes from an address on. -/
abbrev Buffer := ℕ → BitVec 8

/-- The four bytes of the double word `i` of a buffer. -/
def loadDw (m : Buffer) (i : ℕ) : List (BitVec 8) := Block.read m (4 * i) 4

def storeDw (m : Buffer) (i : ℕ) (dw : List (BitVec 8)) : Buffer := Block.write m (4 * i) dw

/-- `for(int i = 0; i < n; i++)` over the double words of a buffer. -/
def forEachDw (body : ℕ → Buffer → Buffer) : ℕ → Buffer → Buffer
  | 0, m => m
  | n + 1, m => body n (forEachDw body n m)

/-- One round of `revert_bytes_inside_dw`, on the double word at an address. -/
def swapBytes (dw i : ℕ) (m : Buffer) : Buffer :=
  let tmp := m (dw + i)
  let m := Function.update m (dw + i) (m (dw + 3 - i))
  Function.update m (dw + 3 - i) tmp

def revertBytesInsideDw (dw : ℕ) (m : Buffer) : Buffer := swapBytes dw 1 (swapBytes dw 0 m)

/-- The check that both conversions of a key begin with; none when it fails, which is an
assertion. -/
def constructRpKeys (convert : Buffer → ℕ → Buffer → Buffer) (keyProgKeys : Option Buffer)
    (keyProgKeysSize : ℕ) (rpKeys : Option Buffer) (rpKeysSize : ℕ) : Option Buffer :=
  match keyProgKeys, rpKeys with
  | some keyProgKeys, some rpKeys =>
    if keyProgKeysSize = 0 ∨ keyProgKeysSize ≠ rpKeysSize ∨ keyProgKeysSize % 4 ≠ 0 then none
    else some (convert keyProgKeys (keyProgKeysSize / 4) rpKeys)
  | _, _ => none

def pcieConvert (keyProgKeys : Buffer) (sizeInDw : ℕ) : Buffer → Buffer :=
  forEachDw (fun i rpKeys => storeDw rpKeys i (loadDw keyProgKeys (sizeInDw - i - 1))) sizeInDw

def cxlConvert (keyProgKeys : Buffer) (sizeInDw : ℕ) : Buffer → Buffer :=
  forEachDw (fun i rpKeys => revertBytesInsideDw (4 * i) (storeDw rpKeys i (loadDw keyProgKeys i)))
    sizeInDw

/-- The buffer `rp_keys` afterwards. -/
def pcieConstructRpKeys : Option Buffer → ℕ → Option Buffer → ℕ → Option Buffer :=
  constructRpKeys pcieConvert

def cxlConstructRpKeys : Option Buffer → ℕ → Option Buffer → ℕ → Option Buffer :=
  constructRpKeys cxlConvert

/-- The buffer `rp_iv` afterwards; none when an assertion fails. -/
def cxlConstructRpIv (keyProgIv : Buffer) (keyProgIvSize : ℕ) (rpIv : Buffer) (rpIvSize : ℕ) :
    Option Buffer :=
  if keyProgIvSize ≠ 3 * 4 then none
  else if rpIvSize ≠ 2 * 4 then none
  else
    let rpIv := storeDw rpIv 0 (loadDw keyProgIv 2)
    some (storeDw rpIv 1 (loadDw keyProgIv 1))

end TeeIoValidator.KeyOrder
