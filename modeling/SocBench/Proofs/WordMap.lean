import SocBench.Proofs.RegisterWords

/-!
# Registers that are words of a block

A device that keeps its registers in a block of bytes gives each of them a word.  `WordMap` says
which word: the offsets are multiples of four, inside the block, and no two registers share one.  So
there is at most one register at an offset (`WordMap.find?`), and a register that is written is the
only one that sees it (`WordMap.word_setWord`).
-/

namespace SocBench

/-- Where the registers `R` of a device stand in its block of `size` bytes. -/
structure WordMap (size : ℕ) (R : Type) where
  offset : R → ℕ
  /-- All registers. -/
  all : List R
  mem_all : ∀ reg, reg ∈ all
  injective : Function.Injective offset
  aligned : ∀ reg, offset reg % 4 = 0
  fits : ∀ reg, offset reg + 4 ≤ size

namespace WordMap

variable {size : ℕ} {R : Type} (m : WordMap size R)

/-- The register that stands at an offset. -/
def find? (offset : ℕ) : Option R :=
  m.all.find? (m.offset · == offset)

variable {m}

lemma offset_of_find? {offset : ℕ} {reg : R} (h : m.find? offset = some reg) :
    m.offset reg = offset := by
  simpa using List.find?_some h

lemma ne_offset_of_find? {offset : ℕ} (h : m.find? offset = none) (reg : R) :
    offset ≠ m.offset reg := by
  have hne := List.find?_eq_none.mp h reg (m.mem_all reg)
  rintro rfl
  simp at hne

@[simp] lemma find?_offset (m : WordMap size R) (reg : R) : m.find? (m.offset reg) = some reg := by
  cases hfind : m.find? (m.offset reg) with
  | none => exact absurd rfl (ne_offset_of_find? hfind reg)
  | some other => rw [m.injective (offset_of_find? hfind)]

lemma find?_eq_none_iff {offset : ℕ} : m.find? offset = none ↔ offset ∉ m.all.map m.offset := by
  simp [find?, List.find?_eq_none]

/-- A word that is written is what is read at its register, and no other register sees it. -/
lemma word_setWord [DecidableEq R] (m : WordMap size R) (regs : RegisterBlock size) (reg other : R)
    (value : UInt32) :
    (regs.setWord (m.offset reg) value).word (m.offset other)
      = if other = reg then value else regs.word (m.offset other) := by
  rw [RegisterBlock.word_setWord_aligned _ (m.aligned reg) (m.aligned other) (m.fits reg)]
  by_cases hsame : other = reg
  · rw [if_pos hsame, if_pos (congrArg _ hsame)]
  · rw [if_neg hsame, if_neg fun h => hsame (m.injective h)]

end WordMap

end SocBench
