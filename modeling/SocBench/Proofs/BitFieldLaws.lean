import SocBench.Proofs.ByteMemory

/-!
# The laws of bit fields

A field is some neighbouring bits of a word in a block.  Setting a field reads the word, replaces
the bits and writes the word back, and the word stands in the block as four bytes.

Extracting a field from a word and inserting it are known here by their bits (`testBit_extract`,
`testBit_insert`), and the laws of fields follow bit by bit; what is true of the words is then true
of the blocks, since a block is known by its bytes.  The main result is `RegisterBlock.field_laws`.
-/

namespace SocBench

/-! ## Words by their bits -/

namespace WordBits

variable (x y : UInt32)

lemma testBit_of_le {k : ℕ} (hk : 32 ≤ k) : x.toNat.testBit k = false :=
  Nat.testBit_lt_two_pow (x.toNat_lt.trans_le (Nat.pow_le_pow_right (by norm_num) hk))

variable {x y} in
lemma eq_of_testBit (h : ∀ k < 32, x.toNat.testBit k = y.toNat.testBit k) : x = y := by
  apply UInt32.toNat_inj.1
  apply Nat.eq_of_testBit_eq
  intro k
  by_cases hk : k < 32
  · exact h k hk
  · rw [testBit_of_le x (not_lt.1 hk), testBit_of_le y (not_lt.1 hk)]

lemma testBit_not {k : ℕ} (hk : k < 32) : (~~~x).toNat.testBit k = !x.toNat.testBit k := by
  rw [← UInt32.toNat_toBitVec, ← UInt32.toNat_toBitVec, BitVec.testBit_toNat, BitVec.testBit_toNat,
    UInt32.toBitVec_not, BitVec.getLsbD_not]
  simp [hk]

lemma toNat_amount {n : ℕ} (hn : n < 32) : (UInt32.ofNat n).toNat % 32 = n := by
  rw [UInt32.toNat_ofNat', Nat.mod_mod_of_dvd n (by norm_num), Nat.mod_eq_of_lt hn]

lemma testBit_shiftLeft {n k : ℕ} (hn : n < 32) (hk : k < 32) :
    (x <<< UInt32.ofNat n).toNat.testBit k = (decide (n ≤ k) && x.toNat.testBit (k - n)) := by
  rw [UInt32.toNat_shiftLeft, toNat_amount hn, Nat.testBit_mod_two_pow, Nat.testBit_shiftLeft]
  simp [hk]

lemma testBit_shiftRight {n : ℕ} (hn : n < 32) (k : ℕ) :
    (x >>> UInt32.ofNat n).toNat.testBit k = x.toNat.testBit (n + k) := by
  rw [UInt32.toNat_shiftRight, toNat_amount hn, Nat.testBit_shiftRight]

lemma testBit_maskWord (clear set : UInt32) {k : ℕ} (hk : k < 32) :
    (RegisterBlock.maskWord x clear set).toNat.testBit k
      = ((x.toNat.testBit k && !clear.toNat.testBit k) || set.toNat.testBit k) := by
  rw [RegisterBlock.maskWord, UInt32.toNat_or, Nat.testBit_or, UInt32.toNat_and, Nat.testBit_and,
    testBit_not clear hk]

end WordBits

/-! ## Fields of a word -/

namespace BitField

open WordBits

variable (f g : BitField)

lemma shift_lt : f.shift < 32 := by
  have hpos := f.width_pos
  have hfits := f.fits
  omega

lemma toNat_valueMask : f.valueMask.toNat = 2 ^ f.width - 1 := by
  have hwidth : f.width ≤ 32 := by
    have hfits := f.fits
    omega
  have hlt : 2 ^ f.width - 1 < 2 ^ 32 := by
    have hle : 2 ^ f.width ≤ 2 ^ 32 := Nat.pow_le_pow_right (by norm_num) hwidth
    have hpos : 0 < 2 ^ f.width := Nat.two_pow_pos _
    omega
  exact (UInt32.toNat_ofNat' ..).trans (Nat.mod_eq_of_lt hlt)

lemma testBit_valueMask (k : ℕ) : f.valueMask.toNat.testBit k = decide (k < f.width) := by
  rw [toNat_valueMask, Nat.testBit_two_pow_sub_one]

/-- A bit of a word is in the field. -/
def Has (k : ℕ) : Prop :=
  f.shift ≤ k ∧ k < f.shift + f.width

instance (k : ℕ) : Decidable (f.Has k) :=
  inferInstanceAs (Decidable (_ ∧ _))

lemma testBit_mask (k : ℕ) : f.mask.toNat.testBit k = decide (f.Has k) := by
  have hfits := f.fits
  by_cases hk : k < 32
  · rw [mask, testBit_shiftLeft _ f.shift_lt hk, testBit_valueMask, ← Bool.decide_and]
    apply decide_eq_decide.2
    unfold Has
    omega
  · rw [testBit_of_le _ (not_lt.1 hk)]
    exact (decide_eq_false (by unfold Has; omega)).symm

lemma testBit_extract (word : UInt32) (k : ℕ) :
    (f.extract word).toNat.testBit k
      = (word.toNat.testBit (f.shift + k) && decide (k < f.width)) := by
  rw [extract, UInt32.toNat_and, Nat.testBit_and, testBit_shiftRight _ f.shift_lt,
    testBit_valueMask]

lemma testBit_insert (word value : UInt32) {k : ℕ} (hk : k < 32) :
    (f.insert word value).toNat.testBit k
      = if f.Has k then value.toNat.testBit (k - f.shift) else word.toNat.testBit k := by
  rw [insert, testBit_maskWord _ _ _ hk, testBit_mask, testBit_shiftLeft _ f.shift_lt hk,
    UInt32.toNat_and, Nat.testBit_and, testBit_valueMask]
  by_cases hhas : f.Has k
  · have hlow : f.shift ≤ k := hhas.1
    have hhigh : k - f.shift < f.width := by
      have := hhas.2
      omega
    simp [hhas, hlow, hhigh]
  · have hout : f.shift ≤ k → ¬ k - f.shift < f.width := by
      unfold Has at hhas
      omega
    by_cases hlow : f.shift ≤ k
    · simp [hhas, hout hlow]
    · simp [hhas, hlow]

/-- What was inserted is extracted, as far as it fits. -/
lemma extract_insert (word value : UInt32) :
    f.extract (f.insert word value) = .ofNat (value.toNat % 2 ^ f.width) := by
  have hfits := f.fits
  apply eq_of_testBit
  intro k hk
  rw [testBit_extract, UInt32.toNat_ofNat', Nat.testBit_mod_two_pow, Nat.testBit_mod_two_pow]
  by_cases hwidth : k < f.width
  · have hhas : f.Has (f.shift + k) := ⟨by omega, by omega⟩
    rw [testBit_insert f word value (by omega), if_pos hhas, Nat.add_sub_cancel_left]
    simp [hk, hwidth]
  · simp [hwidth]

/-- Inserting what was extracted changes nothing. -/
lemma insert_extract (word : UInt32) : f.insert word (f.extract word) = word := by
  apply eq_of_testBit
  intro k hk
  rw [testBit_insert f word _ hk]
  split_ifs with hhas
  · obtain ⟨hlow, hhigh⟩ := hhas
    have hwidth : k - f.shift < f.width := by omega
    rw [testBit_extract, Nat.add_sub_cancel' hlow]
    simp [hwidth]
  · rfl

/-- The other bits of the word stay. -/
lemma insert_and_not_mask (word value : UInt32) :
    f.insert word value &&& ~~~f.mask = word &&& ~~~f.mask := by
  apply eq_of_testBit
  intro k hk
  rw [UInt32.toNat_and, UInt32.toNat_and, Nat.testBit_and, Nat.testBit_and, testBit_not _ hk,
    testBit_mask, testBit_insert f word value hk]
  by_cases hhas : f.Has k
  · simp [hhas]
  · simp [hhas]

lemma extract_ne_zero_iff (word : UInt32) :
    f.extract word ≠ 0 ↔ ∃ k, f.mask.toNat.testBit k = true ∧ word.toNat.testBit k = true := by
  simp only [testBit_mask, decide_eq_true_eq]
  constructor
  · intro hne
    by_contra hnone
    refine hne (eq_of_testBit fun k _ => ?_)
    rw [testBit_extract, UInt32.toNat_zero, Nat.zero_testBit, Bool.and_eq_false_iff]
    by_cases hwidth : k < f.width
    · left
      rw [← Bool.not_eq_true]
      intro hset
      exact hnone ⟨f.shift + k, ⟨by omega, by omega⟩, hset⟩
    · right
      simp [hwidth]
  · rintro ⟨k, ⟨hlow, hhigh⟩, hset⟩ hzero
    have hbit := f.testBit_extract word (k - f.shift)
    have hwidth : k - f.shift < f.width := by omega
    rw [hzero, UInt32.toNat_zero, Nat.zero_testBit, Nat.add_sub_cancel' hlow, hset] at hbit
    simp [hwidth] at hbit

/-! ## Two fields of a word -/

variable {f g}

/-- Masks that do not meet have no bit in common. -/
lemma not_has_of_disjoint (h : f.mask &&& g.mask = 0) {k : ℕ} (hf : f.Has k) : ¬ g.Has k := by
  intro hg
  have hbit : (f.mask &&& g.mask).toNat.testBit k = true := by
    rw [UInt32.toNat_and, Nat.testBit_and, testBit_mask, testBit_mask]
    simp [hf, hg]
  rw [h] at hbit
  simp at hbit

lemma extract_insert_of_disjoint (h : f.mask &&& g.mask = 0) (word value : UInt32) :
    g.extract (f.insert word value) = g.extract word := by
  have hfits := g.fits
  apply eq_of_testBit
  intro k _
  rw [testBit_extract, testBit_extract]
  by_cases hwidth : k < g.width
  · have hhas : g.Has (g.shift + k) := ⟨by omega, by omega⟩
    have hnot : ¬ f.Has (g.shift + k) := fun hf => not_has_of_disjoint h hf hhas
    rw [testBit_insert f word value (by omega), if_neg hnot]
  · simp [hwidth]

lemma insert_insert_comm (h : f.mask &&& g.mask = 0) (word v w : UInt32) :
    g.insert (f.insert word v) w = f.insert (g.insert word w) v := by
  apply eq_of_testBit
  intro k hk
  simp only [testBit_insert _ _ _ hk]
  by_cases hf : f.Has k
  · simp [hf, not_has_of_disjoint h hf]
  · simp [hf]

/-! ## Checked operations

A shift by as many bits as a word has, or more, is a fault, and so is a difference below zero.  The
functions of a field are put together from such operations. -/

/-- A word shifted up. -/
def shiftUp? (x : UInt32) (n : ℕ) : Option UInt32 :=
  if n < 32 then some (x <<< .ofNat n) else none

/-- A word shifted down. -/
def shiftDown? (x : UInt32) (n : ℕ) : Option UInt32 :=
  if n < 32 then some (x >>> .ofNat n) else none

/-- The difference of two words. -/
def subtract? (x y : UInt32) : Option UInt32 :=
  if y ≤ x then some (x - y) else none

variable (f)

/-- The largest value, where a field of a whole word is a case of its own. -/
def valueMask? : Option UInt32 :=
  if f.width = 32 then some (.ofNat (2 ^ 32 - 1))
  else (shiftUp? 1 f.width).bind (subtract? · 1)

/-- The bits of the field. -/
def mask? : Option UInt32 :=
  f.valueMask?.bind (shiftUp? · f.shift)

/-- The value of the field in a word. -/
def extract? (word : UInt32) : Option UInt32 :=
  (shiftDown? word f.shift).bind fun low => f.valueMask?.map (low &&& ·)

/-- A word with the field set. -/
def insert? (word value : UInt32) : Option UInt32 :=
  (f.valueMask?.bind fun largest => shiftUp? (value &&& largest) f.shift).bind fun placed =>
    f.mask?.map fun mask => RegisterBlock.maskWord word mask placed

lemma valueMask?_eq : f.valueMask? = some f.valueMask := by
  have hfits := f.fits
  by_cases hwhole : f.width = 32
  · rw [valueMask?, if_pos hwhole, valueMask, hwhole]
    rfl
  · have hlt : f.width < 32 := by omega
    have hpow : 2 ^ f.width < 2 ^ 32 := Nat.pow_lt_pow_right (by norm_num) hlt
    have hpos : 0 < 2 ^ f.width := Nat.two_pow_pos _
    obtain ⟨bit, hbit⟩ : ∃ bit, (1 : UInt32) <<< UInt32.ofNat f.width = bit := ⟨_, rfl⟩
    have hvalue : bit.toNat = 2 ^ f.width := by
      rw [← hbit, UInt32.toNat_shiftLeft, toNat_amount hlt, UInt32.toNat_one, Nat.one_shiftLeft,
        Nat.mod_eq_of_lt hpow]
    have hle : 1 ≤ bit := by
      rw [UInt32.le_iff_toNat_le, hvalue, UInt32.toNat_one]
      omega
    rw [valueMask?, if_neg hwhole, shiftUp?, if_pos hlt, hbit, Option.bind_some, subtract?,
      if_pos hle]
    congr 1
    apply UInt32.toNat_inj.1
    rw [UInt32.toNat_sub_of_le _ _ hle, hvalue, UInt32.toNat_one, toNat_valueMask]

lemma mask?_eq : f.mask? = some f.mask := by
  rw [mask?, valueMask?_eq, Option.bind_some, shiftUp?, if_pos f.shift_lt, mask]

lemma extract?_eq (word : UInt32) : f.extract? word = some (f.extract word) := by
  rw [extract?, shiftDown?, if_pos f.shift_lt, valueMask?_eq]
  rfl

lemma insert?_eq (word value : UInt32) : f.insert? word value = some (f.insert word value) := by
  rw [insert?, valueMask?_eq, Option.bind_some, shiftUp?, if_pos f.shift_lt, mask?_eq]
  rfl

lemma make_eq : make f.offset f.shift f.width = .ok f := by
  have hfits := f.fits
  have hsmall : ¬ UInt32.size ≤ f.shift + f.width := by
    have hsize : UInt32.size = 2 ^ 32 := rfl
    omega
  rw [make, dif_pos f.width_pos, if_neg hsmall, dif_pos hfits]

end BitField

/-! ## Fields of a block -/

namespace RegisterBlock

variable {size : ℕ} {b c : RegisterBlock size}

/-- A block is known by its bytes. -/
lemma eq_of_byte_eq (h : b.byte = c.byte) : b = c := by
  obtain ⟨bytes⟩ := b
  obtain ⟨bytes'⟩ := c
  congr 1
  apply Vector.ext
  intro i hi
  simpa [byte, hi] using congrFun h i

lemma setWord_word (b : RegisterBlock size) {offset : ℕ} (h : offset + 4 ≤ size) :
    b.setWord offset (b.word offset) = b := by
  have hlt : b.peek 4 offset < 2 ^ 32 := b.peek_lt 4 offset
  apply eq_of_byte_eq
  rw [setWord, byte_poke b h, word, UInt32.toNat_ofNat', Nat.mod_eq_of_lt hlt, peek_eq_number,
    Memory.overlay_number]

lemma setWord_setWord (b : RegisterBlock size) {offset : ℕ} (h : offset + 4 ≤ size)
    (v w : UInt32) : (b.setWord offset v).setWord offset w = b.setWord offset w := by
  apply eq_of_byte_eq
  rw [setWord, setWord, setWord, byte_poke _ h, byte_poke _ h, byte_poke _ h,
    Memory.overlay_overlay]

lemma setWord_comm (b : RegisterBlock size) {offset other : ℕ} (h : offset + 4 ≤ size)
    (h' : other + 4 ≤ size) (hapart : offset + 4 ≤ other ∨ other + 4 ≤ offset) (v w : UInt32) :
    (b.setWord offset v).setWord other w = (b.setWord other w).setWord offset v := by
  apply eq_of_byte_eq
  rw [setWord, setWord, setWord, setWord, byte_poke _ h', byte_poke _ h, byte_poke _ h,
    byte_poke _ h', Memory.overlay_comm _ hapart]

/-- A field that lies in the block is set by writing its word. -/
lemma writeField_eq (b : RegisterBlock size) {f : BitField} (halign : f.offset % 4 = 0)
    (hinside : f.offset + 4 ≤ size) (value : UInt32) :
    b.writeField f value = .done () (b.setWord f.offset (f.insert (b.word f.offset) value)) :=
  b.change_of_ok (check_word halign hinside) _

lemma readField_eq (b : RegisterBlock size) {f : BitField} (halign : f.offset % 4 = 0)
    (hinside : f.offset + 4 ≤ size) : b.readField f = .ok (f.extract (b.word f.offset)) := by
  rw [readField, check_word halign hinside]
  rfl

/-- No bit of a block is in both fields. -/
def FieldsApart (f g : BitField) : Prop :=
  f.offset ≠ g.offset ∨ f.mask &&& g.mask = 0

lemma FieldsApart.symm {f g : BitField} (h : FieldsApart f g) : FieldsApart g f :=
  h.imp Ne.symm fun hmasks => (UInt32.and_comm _ _).trans hmasks

section Two

variable (b : RegisterBlock size) {f g : BitField} (hf : f.offset % 4 = 0)
  (hf' : f.offset + 4 ≤ size) (hg : g.offset % 4 = 0) (hg' : g.offset + 4 ≤ size)
  (hapart : FieldsApart f g)
include hf hf' hg hg' hapart

/-- Setting one field does not change the other. -/
lemma readField_writeField (value : UInt32) :
    ∃ c, b.writeField f value = (.ok (), c) ∧ c.readField g = b.readField g := by
  refine ⟨_, writeField_eq b hf hf' value, ?_⟩
  rw [readField_eq _ hg hg', readField_eq b hg hg', word_setWord_aligned b hf hg hf']
  split_ifs with hsame
  · obtain hne | hmasks := hapart
    · exact absurd hsame.symm hne
    · rw [BitField.extract_insert_of_disjoint hmasks, hsame]
  · rfl

/-- Two fields may be set in either order. -/
lemma writeField_comm (v w : UInt32) :
    (b.writeField f v).andThen (fun _ c => c.writeField g w)
      = (b.writeField g w).andThen (fun _ c => c.writeField f v) := by
  rw [writeField_eq b hf hf', writeField_eq b hg hg', Access.done_andThen, Access.done_andThen,
    writeField_eq _ hg hg', writeField_eq _ hf hf', word_setWord_aligned b hf hg hf',
    word_setWord_aligned b hg hf hg']
  by_cases hsame : g.offset = f.offset
  · obtain hne | hmasks := hapart
    · exact absurd hsame.symm hne
    · rw [if_pos hsame, if_pos hsame.symm, hsame, setWord_setWord b hf', setWord_setWord b hf',
        BitField.insert_insert_comm hmasks]
  · rw [if_neg hsame, if_neg (Ne.symm hsame), setWord_comm b hf' hg' (by omega)]

end Two

/-- **The laws of fields.**  A field that lies in the block can be set to any value.  It then has
the low bits of the value, the other bits of its word and all other bytes are as before, and setting
it to the value it has changes nothing.  Fields that have no bit in common are set in either order
and do not change each other.  A field is set if its word has some bit under its mask.  All of it is
computed without a shift by too many bits and without a difference below zero, also for a field of a
whole word; and a field is what can be made from its numbers. -/
theorem field_laws (b : RegisterBlock size) (f : BitField) (halign : 4 ∣ f.offset)
    (hinside : f.offset + 4 ≤ size) :
    (∀ value, ∃ c, b.writeField f value = (.ok (), c)
        ∧ c.readField f = .ok (.ofNat (value.toNat % 2 ^ f.width))
        ∧ c.word f.offset &&& ~~~f.mask = b.word f.offset &&& ~~~f.mask
        ∧ ∀ i, i < f.offset ∨ f.offset + 4 ≤ i → c.byte i = b.byte i)
      ∧ (∃ value, b.readField f = .ok value ∧ b.writeField f value = (.ok (), b))
      ∧ (∀ g : BitField, 4 ∣ g.offset → g.offset + 4 ≤ size →
        f.offset ≠ g.offset ∨ f.mask &&& g.mask = 0 → ∀ v w,
          (b.writeField f v).andThen (fun _ c => c.writeField g w)
              = (b.writeField g w).andThen (fun _ c => c.writeField f v)
            ∧ (∃ c, b.writeField f v = (.ok (), c) ∧ c.readField g = b.readField g)
            ∧ ∃ c, b.writeField g w = (.ok (), c) ∧ c.readField f = b.readField f)
      ∧ (∃ answer, b.isSet f = .ok answer
        ∧ (answer = true ↔ ∃ bit, f.mask.toNat.testBit bit = true
          ∧ (b.word f.offset).toNat.testBit bit = true))
      ∧ (f.valueMask? = some f.valueMask ∧ f.mask? = some f.mask
        ∧ ∀ word value, f.extract? word = some (f.extract word)
          ∧ f.insert? word value = some (f.insert word value))
      ∧ BitField.make f.offset f.shift f.width = .ok f := by
  have hzero : f.offset % 4 = 0 := Nat.mod_eq_zero_of_dvd halign
  have hread := b.readField_eq hzero hinside
  refine ⟨?_, ?_, ?_, ?_, ⟨f.valueMask?_eq, f.mask?_eq, fun word value =>
    ⟨f.extract?_eq word, f.insert?_eq word value⟩⟩, f.make_eq⟩
  · intro value
    refine ⟨_, b.writeField_eq hzero hinside value, ?_, ?_, ?_⟩
    · rw [readField_eq _ hzero hinside, word_setWord_same b hinside, BitField.extract_insert]
    · rw [word_setWord_same b hinside, BitField.insert_and_not_mask]
    · intro i hi
      exact byte_poke_outside b hi _
  · refine ⟨_, hread, ?_⟩
    rw [b.writeField_eq hzero hinside, BitField.insert_extract, setWord_word b hinside]
    rfl
  · intro g halign' hinside' hapart v w
    have hzero' : g.offset % 4 = 0 := Nat.mod_eq_zero_of_dvd halign'
    exact ⟨b.writeField_comm hzero hinside hzero' hinside' hapart v w,
      b.readField_writeField hzero hinside hzero' hinside' hapart v,
      b.readField_writeField hzero' hinside' hzero hinside (FieldsApart.symm hapart) w⟩
  · refine ⟨f.extract (b.word f.offset) != 0, ?_, ?_⟩
    · rw [isSet, hread]
      rfl
    · rw [bne_iff_ne]
      exact f.extract_ne_zero_iff _

/-- The highest bit of the second word. -/
def topBit : BitField where
  offset := 4
  shift := 31
  width := 1
  width_pos := Nat.le_refl 1
  fits := Nat.le_refl 32

/-- The other bits of the second word. -/
def lowBits : BitField where
  offset := 4
  shift := 0
  width := 31
  width_pos := Nat.le_add_left 1 30
  fits := Nat.le_succ 31

/-- The two fields share a word between them. -/
theorem field_laws_top_bit :
    (4 ∣ topBit.offset ∧ topBit.offset + 4 ≤ 8 ∧ topBit.mask &&& lowBits.mask = 0)
      ∧ (∃ c, (zero 8).writeField topBit 3 = (.ok (), c) ∧ c.readField topBit = .ok 1)
      ∧ ∃ c, (zero 8).writeField topBit 3 = (.ok (), c)
        ∧ c.readField lowBits = (zero 8).readField lowBits := by
  have halign : 4 ∣ topBit.offset := by decide
  have hinside : topBit.offset + 4 ≤ 8 := by decide
  have hmasks : topBit.mask &&& lowBits.mask = 0 := by decide
  obtain ⟨hwrite, -, htwo, -⟩ := field_laws (zero 8) topBit halign hinside
  obtain ⟨c, hc, hread, -⟩ := hwrite 3
  exact ⟨⟨halign, hinside, hmasks⟩, ⟨c, hc, hread⟩,
    (htwo lowBits (by decide) (by decide) (.inr hmasks) 3 0).2.1⟩

end RegisterBlock

end SocBench
