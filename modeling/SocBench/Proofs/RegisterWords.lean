import Mathlib.Data.Nat.Bitwise
import Mathlib.Tactic
import SocBench.Bus.RegisterBlock

/-!
# Reading back what was written to a block

A word that was written is read back as long as it lies in the block, and an access elsewhere does
not see it.  The devices keep all their registers in one block, so every statement about a register
rests on these two facts.
-/

namespace SocBench

/-- A bit of a word is set exactly if masking everything else leaves something. -/
lemma and_two_pow_bne_zero {value mask : UInt32} {k : ℕ} (hmask : mask.toNat = 2 ^ k) :
    (value &&& mask != 0) = value.toNat.testBit k := by
  have hbit : (value &&& mask).toNat = (value.toNat.testBit k).toNat * 2 ^ k := by
    rw [UInt32.toNat_and, hmask]
    exact Nat.and_two_pow value.toNat k
  rw [Bool.eq_iff_iff, bne_iff_ne, ne_eq, ← UInt32.toNat_inj, hbit]
  cases value.toNat.testBit k <;> simp

namespace RegisterBlock

variable {size : ℕ} (b : RegisterBlock size)

/-! ## Bytes -/

lemma byte_setByte_same {offset : ℕ} (h : offset < size) (value : UInt8) :
    (b.setByte offset value).byte offset = value := by
  simp [byte, setByte, h]

lemma byte_setByte_ne {offset other : ℕ} (h : other ≠ offset) (value : UInt8) :
    (b.setByte offset value).byte other = b.byte other := by
  simp [byte, setByte, h.symm]

lemma byte_poke_outside {width offset other : ℕ} (h : other < offset ∨ offset + width ≤ other)
    (value : ℕ) : (b.poke width offset value).byte other = b.byte other := by
  induction width generalizing b offset value with
  | zero => rfl
  | succ width ih =>
    rw [poke, ih _ (by omega), byte_setByte_ne _ (by omega)]

/-! ## Numbers of several bytes -/

lemma peek_congr {c : RegisterBlock size} {width offset : ℕ}
    (h : ∀ i < width, b.byte (offset + i) = c.byte (offset + i)) :
    b.peek width offset = c.peek width offset := by
  induction width generalizing offset with
  | zero => rfl
  | succ width ih =>
    have hfirst := h 0 (by omega)
    rw [Nat.add_zero] at hfirst
    rw [peek, peek, hfirst]
    congr 2
    refine ih fun i hi => ?_
    have := h (i + 1) (by omega)
    rwa [Nat.add_comm i 1, ← Nat.add_assoc] at this

lemma peek_poke_disjoint {width offset width' offset' : ℕ}
    (h : offset + width ≤ offset' ∨ offset' + width' ≤ offset) (value : ℕ) :
    (b.poke width' offset' value).peek width offset = b.peek width offset := by
  refine peek_congr _ fun i hi => ?_
  exact byte_poke_outside b (by omega) value

lemma peek_poke_same {width offset : ℕ} (h : offset + width ≤ size) (value : ℕ) :
    (b.poke width offset value).peek width offset = value % 256 ^ width := by
  induction width generalizing b offset value with
  | zero => simp [peek, Nat.mod_one]
  | succ width ih =>
    have hdigits : value % 256 ^ (width + 1) = value % 256 + 256 * (value / 256 % 256 ^ width) := by
      rw [pow_succ', Nat.mod_mul]
    -- the lowest byte is written first, and the bytes above it leave it alone
    rw [poke, peek, ih _ (by omega), byte_poke_outside _ (by omega),
      byte_setByte_same b (by omega), UInt8.toNat_ofNat', hdigits]

lemma peek_lt (width offset : ℕ) : b.peek width offset < 256 ^ width := by
  induction width generalizing offset with
  | zero => simp [peek]
  | succ width ih =>
    have hbyte : (b.byte offset).toNat < 256 := (b.byte offset).toNat_lt
    have hrest := ih (offset + 1)
    rw [peek, pow_succ']
    omega

lemma peek_add (width rest offset : ℕ) :
    b.peek (width + rest) offset
      = b.peek width offset + 256 ^ width * b.peek rest (offset + width) := by
  induction width generalizing offset with
  | zero => simp [peek]
  | succ width ih =>
    rw [Nat.succ_add, peek, peek, ih (offset + 1), pow_succ', Nat.add_assoc offset 1 width,
      Nat.add_comm 1 width]
    ring

lemma poke_add (width rest offset value : ℕ) :
    b.poke (width + rest) offset value
      = (b.poke width offset value).poke rest (offset + width) (value / 256 ^ width) := by
  induction width generalizing b offset value with
  | zero => simp [poke]
  | succ width ih =>
    rw [Nat.succ_add, poke, poke, ih, Nat.div_div_eq_div_mul, ← pow_succ', Nat.add_assoc offset 1,
      Nat.add_comm 1 width]

/-- What does not fit into the bytes is left out. -/
lemma poke_mod (width offset value : ℕ) :
    b.poke width offset (value % 256 ^ width) = b.poke width offset value := by
  induction width generalizing b offset value with
  | zero => rfl
  | succ width ih =>
    have hlow : UInt8.ofNat (value % 256 ^ (width + 1)) = UInt8.ofNat value := by
      apply UInt8.toNat_inj.1
      rw [UInt8.toNat_ofNat', UInt8.toNat_ofNat', pow_succ', Nat.mod_mul_right_mod]
    have hhigh : value % 256 ^ (width + 1) / 256 = value / 256 % 256 ^ width := by
      rw [pow_succ', Nat.mod_mul_right_div_self]
    rw [poke, poke, hlow, hhigh, ih]

/-! ## Words -/

lemma word_setWord_same {offset : ℕ} (h : offset + 4 ≤ size) (value : UInt32) :
    (b.setWord offset value).word offset = value := by
  have hlt : value.toNat < 256 ^ 4 := value.toNat_lt
  rw [word, setWord, peek_poke_same b h, Nat.mod_eq_of_lt hlt, UInt32.ofNat_toNat]

lemma word_setWord_ne {offset other : ℕ} (h : other + 4 ≤ offset ∨ offset + 4 ≤ other)
    (value : UInt32) : (b.setWord offset value).word other = b.word other := by
  rw [word, setWord, peek_poke_disjoint b h, word]

/-- Aligned words are the same or apart. -/
lemma word_setWord_aligned {offset other : ℕ} (hoffset : offset % 4 = 0) (hother : other % 4 = 0)
    (h : offset + 4 ≤ size) (value : UInt32) :
    (b.setWord offset value).word other = if other = offset then value else b.word other := by
  by_cases hsame : other = offset
  · rw [if_pos hsame, hsame, word_setWord_same b h]
  · rw [if_neg hsame, word_setWord_ne b (by omega)]

lemma word_updateWord_same {offset : ℕ} (h : offset + 4 ≤ size) (clear set : UInt32) :
    (b.updateWord offset clear set).word offset = maskWord (b.word offset) clear set :=
  word_setWord_same b h _

lemma word_updateWord_ne {offset other : ℕ} (h : other + 4 ≤ offset ∨ offset + 4 ≤ other)
    (clear set : UInt32) : (b.updateWord offset clear set).word other = b.word other :=
  word_setWord_ne b h _

/-- A number of eight bytes stands there as two words, the lower one first. -/
lemma peek_double (offset : ℕ) :
    b.peek 8 offset = (b.word offset).toNat + 2 ^ 32 * (b.word (offset + 4)).toNat := by
  have hword : ∀ offset, (b.word offset).toNat = b.peek 4 offset := by
    intro offset
    have hlt : b.peek 4 offset < 2 ^ 32 := b.peek_lt 4 offset
    rw [word, UInt32.toNat_ofNat', Nat.mod_eq_of_lt hlt]
  rw [hword, hword, show 8 = 4 + 4 from rfl, peek_add]
  norm_num

/-- Writing eight bytes is writing two words. -/
lemma poke_double (offset value : ℕ) :
    b.poke 8 offset value
      = (b.setWord offset (UInt32.ofNat value)).setWord (offset + 4)
          (UInt32.ofNat (value / 2 ^ 32)) := by
  have hbase : 2 ^ 32 = 256 ^ 4 := by norm_num
  rw [setWord, setWord, UInt32.toNat_ofNat', UInt32.toNat_ofNat', hbase, poke_mod, poke_mod,
    show 8 = 4 + 4 from rfl, poke_add]

@[simp] lemma byte_zero (offset : ℕ) : (zero size).byte offset = 0 := by
  simp only [byte, zero]
  rcases Nat.lt_or_ge offset size with h | h
  · simp [h]
  · simp [h]

@[simp] lemma peek_zero (width offset : ℕ) : (zero size).peek width offset = 0 := by
  induction width generalizing offset with
  | zero => rfl
  | succ width ih => simp [peek, ih]

@[simp] lemma word_zero (offset : ℕ) : (zero size).word offset = 0 := by
  rw [word, peek_zero]
  rfl

/-! ## Accesses from the bus -/

lemma check_word {offset : ℕ} (halign : offset % 4 = 0) (h : offset + 4 ≤ size) :
    check size .word offset = .ok () := by
  rw [check, if_neg (by simpa [Width.bytes] using halign), if_neg (by simpa [Width.bytes] using h)]

lemma change_of_ok {width : Width} {offset : ℕ} (h : check size width offset = .ok ())
    (f : RegisterBlock size → RegisterBlock size) : b.change width offset f = .done () (f b) := by
  rw [change, h]

lemma change_of_error {width : Width} {offset : ℕ} {e : BusError}
    (h : check size width offset = .error e) (f : RegisterBlock size → RegisterBlock size) :
    b.change width offset f = .refused e b := by
  rw [change, h]

lemma write_word {offset : ℕ} (halign : offset % 4 = 0) (h : offset + 4 ≤ size) (value : UInt32) :
    b.write .word offset value.toNat = .done () (b.setWord offset value) :=
  b.change_of_ok (check_word halign h) _

lemma read_word {offset : ℕ} (halign : offset % 4 = 0) (h : offset + 4 ≤ size) :
    b.read .word offset = .ok (b.word offset).toNat := by
  have hlt : b.peek 4 offset < 2 ^ 32 := b.peek_lt 4 offset
  rw [read, check_word halign h, word, UInt32.toNat_ofNat', Nat.mod_eq_of_lt hlt]
  rfl

lemma check_byte {offset : ℕ} (h : offset + 1 ≤ size) : check size .byte offset = .ok () := by
  rw [check, if_neg (by simp [Width.bytes, Nat.mod_one]), if_neg (by simpa [Width.bytes] using h)]

lemma write_byte {offset : ℕ} (h : offset + 1 ≤ size) (value : UInt8) :
    b.write .byte offset value.toNat = .done () (b.setByte offset value) := by
  rw [write, change_of_ok _ (check_byte h)]
  simp [poke, Width.bytes]

lemma read_byte {offset : ℕ} (h : offset + 1 ≤ size) :
    b.read .byte offset = .ok (b.byte offset).toNat := by
  rw [read, check_byte h]
  rfl

lemma word_setByte_ne {offset other : ℕ} (h : offset < other ∨ other + 4 ≤ offset)
    (value : UInt8) : (b.setByte offset value).word other = b.word other := by
  rw [word, word]
  congr 1
  refine peek_congr _ fun i hi => ?_
  exact byte_setByte_ne b (by omega) value

end RegisterBlock

end SocBench
