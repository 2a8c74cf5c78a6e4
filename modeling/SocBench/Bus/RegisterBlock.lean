import SocBench.Bus.Access
import SocBench.Fault

/-!
# Blocks of registers

A block is a row of bytes.  A number of several bytes stands there with its lowest byte first.
`peek` and `poke` are the owner's view and always work, a byte outside the block being zero; `read`
and `write` are the view from the bus and refuse accesses that are misaligned or out of range.
-/

namespace SocBench

/-- The widths of a bus access. -/
inductive Width where
  | byte
  | half
  | word
  | double
  deriving DecidableEq

/-- How many bytes an access covers. -/
def Width.bytes : Width → Nat
  | .byte => 1
  | .half => 2
  | .word => 4
  | .double => 8

/-- A row of `size` bytes. -/
structure RegisterBlock (size : Nat) where
  bytes : Vector UInt8 size

namespace RegisterBlock

variable {size : Nat}

/-- A block of zeros. -/
def zero (size : Nat) : RegisterBlock size :=
  ⟨Vector.replicate size 0⟩

/-- The byte at an offset, zero outside the block. -/
def byte (b : RegisterBlock size) (offset : Nat) : UInt8 :=
  b.bytes[offset]?.getD 0

/-- The block with one byte replaced; nothing happens outside the block. -/
def setByte (b : RegisterBlock size) (offset : Nat) (value : UInt8) : RegisterBlock size :=
  ⟨b.bytes.setIfInBounds offset value⟩

/-- The number that `width` bytes from an offset on denote, the lowest byte first. -/
def peek (b : RegisterBlock size) : (width offset : Nat) → Nat
  | 0, _ => 0
  | width + 1, offset => (b.byte offset).toNat + 256 * b.peek width (offset + 1)

/-- The block with `width` bytes from an offset on replaced by the digits of a number in base 256,
the lowest first. -/
def poke (b : RegisterBlock size) : (width offset value : Nat) → RegisterBlock size
  | 0, _, _ => b
  | width + 1, offset, value =>
    poke (b.setByte offset (UInt8.ofNat value)) width (offset + 1) (value / 256)

/-- Whether an access is allowed: first it must be aligned, then it must stay inside. -/
def check (size : Nat) (width : Width) (offset : Nat) : Except BusError Unit :=
  if offset % width.bytes ≠ 0 then .error (.misaligned offset width.bytes)
  else if size < offset + width.bytes then .error (.outOfRange offset width.bytes size)
  else .ok ()

/-- Reads a number from the bus. -/
def read (b : RegisterBlock size) (width : Width) (offset : Nat) : Except BusError Nat :=
  (check size width offset).map fun _ => b.peek width.bytes offset

/-- Changes the block if an access is allowed. -/
def change (b : RegisterBlock size) (width : Width) (offset : Nat)
    (f : RegisterBlock size → RegisterBlock size) : Access (RegisterBlock size) Unit :=
  match check size width offset with
  | .ok _ => .done () (f b)
  | .error e => .refused e b

/-- Writes a number from the bus. -/
def write (b : RegisterBlock size) (width : Width) (offset value : Nat) :
    Access (RegisterBlock size) Unit :=
  b.change width offset fun b => b.poke width.bytes offset value

/-! ## Words -/

/-- The word at an offset. -/
def word (b : RegisterBlock size) (offset : Nat) : UInt32 :=
  UInt32.ofNat (b.peek 4 offset)

/-- The block with the word at an offset replaced. -/
def setWord (b : RegisterBlock size) (offset : Nat) (value : UInt32) : RegisterBlock size :=
  b.poke 4 offset value.toNat

/-- A word with some bits cleared and then some set. -/
def maskWord (value clear set : UInt32) : UInt32 :=
  (value &&& ~~~clear) ||| set

/-- The block with some bits of a word cleared and then some set. -/
def updateWord (b : RegisterBlock size) (offset : Nat) (clear set : UInt32) :
    RegisterBlock size :=
  b.setWord offset (maskWord (b.word offset) clear set)

/-- Clears and sets bits of a word from the bus. -/
def modify (b : RegisterBlock size) (offset : Nat) (clear set : UInt32) :
    Access (RegisterBlock size) Unit :=
  b.change .word offset fun b => b.updateWord offset clear set

end RegisterBlock

/-- Neighbouring bits of one word, `width` of them from bit `shift` on. -/
structure BitField where
  offset : Nat
  shift : Nat
  width : Nat
  width_pos : 1 ≤ width
  fits : shift + width ≤ 32

namespace BitField

/-- A field of the given bits.  Adding the two numbers must not overflow a word, and the sum must
not pass its last bit. -/
def make (offset shift width : Nat) : Except Fault BitField :=
  if width_pos : 1 ≤ width then
    if UInt32.size ≤ shift + width then .error .addOverflow
    else if fits : shift + width ≤ 32 then .ok { offset, shift, width, width_pos, fits }
    else .error .fieldTooWide
  else .error .fieldTooWide

/-- A field of one bit. -/
def bit (offset bit : Nat) : Except Fault BitField :=
  make offset bit 1

/-- The largest value of the field, which has all its bits set. -/
def valueMask (f : BitField) : UInt32 :=
  UInt32.ofNat (Nat.pow 2 f.width - 1)

/-- The bits of the word that belong to the field. -/
def mask (f : BitField) : UInt32 :=
  f.valueMask <<< UInt32.ofNat f.shift

/-- The value of the field in a word. -/
def extract (f : BitField) (word : UInt32) : UInt32 :=
  (word >>> UInt32.ofNat f.shift) &&& f.valueMask

/-- A word with the field set to the low bits of a value. -/
def insert (f : BitField) (word value : UInt32) : UInt32 :=
  RegisterBlock.maskWord word f.mask ((value &&& f.valueMask) <<< UInt32.ofNat f.shift)

end BitField

namespace RegisterBlock

variable {size : Nat}

/-- The value of a field. -/
def readField (b : RegisterBlock size) (f : BitField) : Except BusError UInt32 :=
  (check size .word f.offset).map fun _ => f.extract (b.word f.offset)

/-- Sets a field to the low bits of a value. -/
def writeField (b : RegisterBlock size) (f : BitField) (value : UInt32) :
    Access (RegisterBlock size) Unit :=
  b.change .word f.offset fun b => b.setWord f.offset (f.insert (b.word f.offset) value)

/-- Whether some bit of a field is set. -/
def isSet (b : RegisterBlock size) (f : BitField) : Except BusError Bool :=
  (b.readField f).map (· != 0)

end RegisterBlock

end SocBench
