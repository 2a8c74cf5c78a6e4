import SocBench.Proofs.BitFieldLaws
import SocBench.Proofs.CallHistory
import SocBench.Proofs.FirmwareBoot

/-!
# What the interrupt controller was told about its sources

A source of the interrupt controller has a line, an enable bit, a priority, a vector and an
argument.  The line is set by a call.  The other four stand in one block of bytes, where each of
them is reached by a call for the source and from the bus, a priority both as a byte and as a part
of a word.

What they are at any time follows from the calls alone.  `SourceSettings.after` goes through the
calls and writes down what they say about the source with some number, by its offsets: it knows
nothing of the block.  The main result, `Plic.holds_after`, says that the controller holds just that
for each of its sources.
-/

namespace SocBench

/-! ## Calls -/

/-- A call to an interrupt controller.  A line is raised and lowered by setting its level. -/
inductive PlicCall where
  | setLine (s : Plic.Source) (level : Bool)
  | enable (s : Plic.Source)
  | disable (s : Plic.Source)
  | setPriority (s : Plic.Source) (value : UInt8)
  | setHandler (s : Plic.Source) (vector argument : UInt32)
  | read (width : Width) (offset : ℕ)
  | writeByte (offset : ℕ) (value : UInt8)
  | writeWord (offset : ℕ) (value : UInt32)
  | update
  | reset

/-- What a call returns. -/
inductive PlicAnswer where
  | number (result : Except BusError ℕ)
  | written (result : Except BusError Unit)
  | selected (source : Option Plic.Source)
  | nothing

namespace Plic

/-- Makes a call. -/
def perform (p : Plic) : PlicCall → PlicAnswer × Plic
  | .setLine s level => (.nothing, p.setLine s level)
  | .enable s => (.nothing, p.enable s)
  | .disable s => (.nothing, p.disable s)
  | .setPriority s value => (.nothing, p.setPriority s value)
  | .setHandler s vector argument => (.nothing, p.setHandler s vector argument)
  | .read width offset => (.number (p.read width offset), p)
  | .writeByte offset value => (.written (p.writeByte offset value).1, (p.writeByte offset value).2)
  | .writeWord offset value => (.written (p.writeWord offset value).1, (p.writeWord offset value).2)
  | .update => (.selected p.update.selected, p.update)
  | .reset => (.nothing, initial)

/-! ## Settings -/

/-- The number of a source. -/
def Source.number : Source → ℕ
  | .timer0 => 0
  | .timer1 => 1
  | .timer2 => 2
  | .timer3 => 3
  | .spi => 4
  | .i2c0 => 5
  | .i2c1 => 6
  | .uart0 => 7
  | .uart1 => 8
  | .gpio0 => 9
  | .gpio1 => 10

lemma Source.id_eq_number (s : Source) : s.id = s.number := by
  cases s <;> rfl

lemma Source.number_lt (s : Source) : s.number < 11 := by
  cases s <;> decide

lemma Source.number_injective : Function.Injective Source.number := by
  intro s t h
  cases s <;> cases t <;> first | rfl | cases h

end Plic

/-- What an interrupt controller was told about a source. -/
structure SourceSettings where
  line : Bool := false
  enabled : Bool := false
  priority : UInt8 := 0
  vector : UInt32 := 0
  argument : UInt32 := 0

namespace SourceSettings

/-- What a call says about the source with number `n`.  Of a word of the enable bits it is bit `n`,
of a word of priorities one byte of four. -/
def next (n : ℕ) (a : SourceSettings) : PlicCall → SourceSettings
  | .setLine s level => if s.number = n then { a with line := level } else a
  | .enable s => if s.number = n then { a with enabled := true } else a
  | .disable s => if s.number = n then { a with enabled := false } else a
  | .setPriority s value => if s.number = n then { a with priority := value } else a
  | .setHandler s vector argument => if s.number = n then { a with vector, argument } else a
  | .writeByte offset value => if offset = 0x1000 + n then { a with priority := value } else a
  | .writeWord offset value =>
    if offset = 0x0000 then { a with enabled := value.toNat.testBit n }
    else if offset = 0x1000 + 4 * (n / 4) then
      { a with priority := .ofNat (value.toNat / 256 ^ (n % 4)) }
    else if offset = 0x2000 + 4 * n then { a with vector := value }
    else if offset = 0x3000 + 4 * n then { a with argument := value }
    else a
  | .reset => {}
  | .read _ _ | .update => a

/-- What some calls to a new controller say about the source with number `n`. -/
def after (n : ℕ) (calls : List PlicCall) : SourceSettings :=
  calls.foldl (next n) {}

end SourceSettings

namespace Plic

/-- The controller holds the settings of a source. -/
structure Holds (p : Plic) (s : Source) (a : SourceSettings) : Prop where
  line_eq : p.isPending s = a.line
  enabled_eq : (p.regs.word 0x0000).toNat.testBit s.number = a.enabled
  priority_eq : p.regs.byte (0x1000 + s.number) = a.priority
  vector_eq : p.regs.word (0x2000 + 4 * s.number) = a.vector
  argument_eq : p.regs.word (0x3000 + 4 * s.number) = a.argument

/-! ## Writes from the bus -/

/-- Where the bus may access the controller. -/
lemma isMapped_iff {width : Width} {offset : ℕ} :
    isMapped width offset = true ↔ (0x1000 ≤ offset ∧ offset < 0x100B)
      ∨ (width = .word ∧ (offset = 0 ∨ offset = 0x100 ∨ offset = 0x104
        ∨ (0x2000 ≤ offset ∧ offset < 0x202C) ∨ (0x3000 ≤ offset ∧ offset < 0x302C))) := by
  unfold isMapped
  split_ifs with hword hpriority hvector hargument
  all_goals simp only [Bool.or_eq_true, Bool.and_eq_true, beq_iff_eq, decide_eq_true_eq] at *
  all_goals simp only [enableOffset, vectorOffset, argumentOffset, priorityTable, vectorTable,
    argumentTable, sources] at *
  all_goals grind

/-- A byte is written to the priorities and nowhere else. -/
lemma writeByte_cases (p : Plic) (offset : ℕ) (value : UInt8) :
    ((0x1000 ≤ offset ∧ offset < 0x100B)
        ∧ p.writeByte offset value = .done () { p with regs := p.regs.setByte offset value })
      ∨ (¬ (0x1000 ≤ offset ∧ offset < 0x100B)
        ∧ p.writeByte offset value = .refused (.unmapped offset) p) := by
  have hmapped : isMapped .byte offset = true ↔ 0x1000 ≤ offset ∧ offset < 0x100B := by
    simp [isMapped_iff]
  by_cases hin : 0x1000 ≤ offset ∧ offset < 0x100B
  · have hsize : offset + 1 ≤ size := by
      simp only [size]
      omega
    exact .inl ⟨hin, p.writeByte_eq offset (hmapped.mpr hin) hsize value⟩
  · refine .inr ⟨hin, ?_⟩
    rw [writeByte, if_neg (mt hmapped.mp hin)]

/-- A word is written to a table or, as far as there are sources, to the enable bits; or it is one
of the latched words, and nothing happens; or it is refused. -/
lemma writeWord_cases (p : Plic) (offset : ℕ) (value : UInt32) :
    ((offset = 0x100 ∨ offset = 0x104) ∧ p.writeWord offset value = .done () p)
      ∨ (offset = 0x0000 ∧ p.writeWord offset value
          = .done () { p with regs := p.regs.setWord 0x0000 (value &&& 0x7FF) })
      ∨ ((4 ∣ offset ∧ isMapped .word offset = true ∧ 0x1000 ≤ offset)
        ∧ p.writeWord offset value = .done () { p with regs := p.regs.setWord offset value })
      ∨ (¬ (4 ∣ offset ∧ isMapped .word offset = true)
        ∧ ∃ e, p.writeWord offset value = .refused e p) := by
  by_cases hmapped : isMapped .word offset = true
  · by_cases hlatched : offset = vectorOffset ∨ offset = argumentOffset
    · refine .inl ⟨hlatched, ?_⟩
      rw [writeWord, if_pos hmapped, if_pos hlatched]
    · have hplace := isMapped_iff.mp hmapped
      have hsize : offset + 4 ≤ size := by
        simp only [size]
        omega
      by_cases halign : 4 ∣ offset
      · have hwrite := p.writeWord_eq offset hmapped hlatched (Nat.mod_eq_zero_of_dvd halign) hsize
          value
        by_cases henable : offset = 0x0000
        · subst henable
          exact .inr (.inl ⟨rfl, hwrite⟩)
        · rw [if_neg (show offset ≠ enableOffset from henable)] at hwrite
          simp only [vectorOffset, argumentOffset] at hlatched
          exact .inr (.inr (.inl ⟨⟨halign, hmapped, by omega⟩, hwrite⟩))
      · refine .inr (.inr (.inr ⟨fun h => halign h.1, ?_⟩))
        have hcheck : RegisterBlock.check size .word offset = .error (.misaligned offset 4) :=
          if_pos (mt Nat.dvd_of_mod_eq_zero halign)
        refine ⟨.misaligned offset 4, ?_⟩
        rw [writeWord, if_pos hmapped, if_neg hlatched]
        simp only [RegisterBlock.write, RegisterBlock.change_of_error _ hcheck]
        rfl
  · refine .inr (.inr (.inr ⟨fun h => hmapped h.2, .unmapped offset, ?_⟩))
    rw [writeWord, if_neg hmapped]

/-! ## Each part of the block -/

variable {p : Plic} {s : Source} {a : SourceSettings}

-- stated for any block, so that nothing has to look into the one that was written
@[simp] lemma isPending_withRegs (p : Plic) (regs : RegisterBlock size) (s : Source) :
    ({ p with regs } : Plic).isPending s = p.isPending s :=
  rfl

lemma Holds.setEnable (h : p.Holds s a) (word : UInt32) :
    Holds { p with regs := p.regs.setWord 0x0000 word } s
      { a with enabled := word.toNat.testBit s.number } where
  line_eq := (isPending_withRegs _ _ _).trans h.line_eq
  enabled_eq := by rw [RegisterBlock.word_setWord_same _ (by decide)]
  priority_eq := (RegisterBlock.byte_poke_outside _ (by omega) _).trans h.priority_eq
  vector_eq := (RegisterBlock.word_setWord_ne _ (by omega) _).trans h.vector_eq
  argument_eq := (RegisterBlock.word_setWord_ne _ (by omega) _).trans h.argument_eq

lemma Holds.setPriorityByte (h : p.Holds s a) (offset : ℕ)
    (hoffset : 0x1000 ≤ offset ∧ offset < 0x100B) (value : UInt8) :
    Holds { p with regs := p.regs.setByte offset value } s
      (if offset = 0x1000 + s.number then { a with priority := value } else a) := by
  have henabled : (p.regs.setByte offset value).word 0x0000 = p.regs.word 0x0000 :=
    RegisterBlock.word_setByte_ne _ (by omega) _
  have hvector : (p.regs.setByte offset value).word (0x2000 + 4 * s.number)
      = p.regs.word (0x2000 + 4 * s.number) := RegisterBlock.word_setByte_ne _ (by omega) _
  have hargument : (p.regs.setByte offset value).word (0x3000 + 4 * s.number)
      = p.regs.word (0x3000 + 4 * s.number) := RegisterBlock.word_setByte_ne _ (by omega) _
  by_cases hsame : offset = 0x1000 + s.number
  · subst hsame
    rw [if_pos rfl]
    have hinside : 0x1000 + s.number < size := by
      simp only [size]
      omega
    exact ⟨(isPending_withRegs _ _ _).trans h.line_eq, henabled ▸ h.enabled_eq,
      RegisterBlock.byte_setByte_same _ hinside value, hvector.trans h.vector_eq,
      hargument.trans h.argument_eq⟩
  · rw [if_neg hsame]
    exact ⟨(isPending_withRegs _ _ _).trans h.line_eq, henabled ▸ h.enabled_eq,
      (RegisterBlock.byte_setByte_ne _ (Ne.symm hsame) value).trans h.priority_eq,
      hvector.trans h.vector_eq, hargument.trans h.argument_eq⟩

/-- A word of a table: it holds four priorities, a vector or an argument. -/
lemma Holds.setTable (h : p.Holds s a) (offset : ℕ) (halign : 4 ∣ offset)
    (hoffset : 0x1000 ≤ offset) (hsize : offset + 4 ≤ size) (value : UInt32) :
    Holds { p with regs := p.regs.setWord offset value } s
      (if offset = 0x1000 + 4 * (s.number / 4) then
        { a with priority := .ofNat (value.toNat / 256 ^ (s.number % 4)) }
      else if offset = 0x2000 + 4 * s.number then { a with vector := value }
      else if offset = 0x3000 + 4 * s.number then { a with argument := value }
      else a) := by
  have hnumber := s.number_lt
  have henabled : (p.regs.setWord offset value).word 0x0000 = p.regs.word 0x0000 :=
    RegisterBlock.word_setWord_ne _ (by omega) _
  have hpriority : (p.regs.setWord offset value).byte (0x1000 + s.number)
      = if offset = 0x1000 + 4 * (s.number / 4) then .ofNat (value.toNat / 256 ^ (s.number % 4))
        else p.regs.byte (0x1000 + s.number) := by
    rw [RegisterBlock.setWord, RegisterBlock.byte_poke _ hsize, Memory.overlay]
    by_cases hsame : offset = 0x1000 + 4 * (s.number / 4)
    · rw [if_pos (by omega), if_pos hsame, show 0x1000 + s.number - offset = s.number % 4 by omega]
    · rw [if_neg (by omega), if_neg hsame]
  have hword : ∀ other, 4 ∣ other → (p.regs.setWord offset value).word other
      = if other = offset then value else p.regs.word other := fun other hother =>
    RegisterBlock.word_setWord_aligned _ (Nat.mod_eq_zero_of_dvd halign)
      (Nat.mod_eq_zero_of_dvd hother) hsize value
  have hvector := hword (0x2000 + 4 * s.number) (by omega)
  have hargument := hword (0x3000 + 4 * s.number) (by omega)
  refine ⟨?_, ?_, ?_, ?_, ?_⟩
  · rw [isPending_withRegs, h.line_eq]
    split_ifs <;> rfl
  · rw [henabled, h.enabled_eq]
    split_ifs <;> rfl
  · rw [hpriority, h.priority_eq]
    split_ifs <;> rfl
  · rw [hvector, h.vector_eq]
    split_ifs <;> first | rfl | omega
  · rw [hargument, h.argument_eq]
    split_ifs <;> first | rfl | omega

lemma Holds.setVector (h : p.Holds s a) (t : Source) (value : UInt32) :
    Holds { p with regs := p.regs.setWord (0x2000 + 4 * t.number) value } s
      (if t.number = s.number then { a with vector := value } else a) := by
  have hs := s.number_lt
  have ht := t.number_lt
  have hset := h.setTable (0x2000 + 4 * t.number) (by omega) (by omega)
    (by simp only [size]; omega) value
  split_ifs at hset ⊢ <;> first | exact hset | omega

lemma Holds.setArgument (h : p.Holds s a) (t : Source) (value : UInt32) :
    Holds { p with regs := p.regs.setWord (0x3000 + 4 * t.number) value } s
      (if t.number = s.number then { a with argument := value } else a) := by
  have hs := s.number_lt
  have ht := t.number_lt
  have hset := h.setTable (0x3000 + 4 * t.number) (by omega) (by omega)
    (by simp only [size]; omega) value
  split_ifs at hset ⊢ <;> first | exact hset | omega

/-! ## Each call -/

@[simp] lemma selected_update (p : Plic) : p.update.selected = p.choose := by
  simp only [update]

@[simp] lemma lines_update (p : Plic) : p.update.lines = p.lines := by
  simp only [update]

/-- An update writes the two latched words and nothing else. -/
lemma byte_update (p : Plic) {offset : ℕ} (h : offset < 0x100 ∨ 0x108 ≤ offset) :
    p.update.regs.byte offset = p.regs.byte offset := by
  have hargument : offset < argumentOffset ∨ argumentOffset + 4 ≤ offset := by
    simp only [argumentOffset]
    omega
  have hvector : offset < vectorOffset ∨ vectorOffset + 4 ≤ offset := by
    simp only [vectorOffset]
    omega
  rw [update]
  exact (RegisterBlock.byte_poke_outside _ hargument _).trans
    (RegisterBlock.byte_poke_outside _ hvector _)

lemma toNat_sourceBit (s : Source) : (sourceBit s).toNat = 2 ^ s.number := by
  cases s <;> decide

lemma isEnabled_eq (p : Plic) (s : Source) :
    p.isEnabled s = (p.regs.word 0x0000).toNat.testBit s.number :=
  and_two_pow_bne_zero (toNat_sourceBit s)

/-- Some enable bits are cleared and some set. -/
lemma Holds.updateEnable (h : p.Holds s a) (clear set : UInt32) :
    Holds { p with regs := p.regs.updateWord enableOffset clear set } s
      { a with enabled := (a.enabled && !clear.toNat.testBit s.number)
          || set.toNat.testBit s.number } := by
  have hnumber := s.number_lt
  have hset := h.setEnable (RegisterBlock.maskWord (p.regs.word 0x0000) clear set)
  rw [WordBits.testBit_maskWord _ _ _ (by omega), h.enabled_eq] at hset
  exact hset

lemma holds_initial (s : Source) : initial.Holds s {} where
  line_eq := by
    rw [isPending, initial, Vector.getElem?_replicate]
    split_ifs <;> rfl
  enabled_eq := by simp [initial]
  priority_eq := RegisterBlock.byte_zero _
  vector_eq := RegisterBlock.word_zero _
  argument_eq := RegisterBlock.word_zero _

lemma Holds.update (h : p.Holds s a) : p.update.Holds s a := by
  have hword : ∀ offset, offset = 0x0000 ∨ 0x108 ≤ offset →
      p.update.regs.word offset = p.regs.word offset := by
    intro offset hoffset
    refine word_update p ?_
    simp only [vectorOffset, argumentOffset]
    omega
  refine ⟨?_, ?_, (p.byte_update (by omega)).trans h.priority_eq,
    (hword _ (by omega)).trans h.vector_eq, (hword _ (by omega)).trans h.argument_eq⟩
  · rw [isPending, lines_update]
    exact h.line_eq
  · rw [hword _ (.inl rfl), h.enabled_eq]

/-- A write of a word from the bus. -/
lemma Holds.writeWord (h : p.Holds s a) (offset : ℕ) (value : UInt32) :
    (p.writeWord offset value).2.Holds s (a.next s.number (.writeWord offset value)) := by
  have hnumber := s.number_lt
  rw [SourceSettings.next]
  rcases p.writeWord_cases offset value with ⟨hlatched, hwrite⟩ | ⟨rfl, hwrite⟩
    | ⟨⟨halign, hmapped, htable⟩, hwrite⟩ | ⟨hrefused, e, hwrite⟩
  · rw [hwrite, if_neg (by omega), if_neg (by omega), if_neg (by omega), if_neg (by omega)]
    exact h
  · -- the mask of the enable word has one bit for each source
    have hmask : (value &&& 0x7FF).toNat.testBit s.number = value.toNat.testBit s.number := by
      rw [UInt32.toNat_and, Nat.testBit_and, show (0x7FF : UInt32).toNat = 2 ^ 11 - 1 from rfl,
        Nat.testBit_two_pow_sub_one, decide_eq_true hnumber, Bool.and_true]
    rw [hwrite, if_pos rfl, ← hmask]
    exact h.setEnable _
  · have hsize : offset + 4 ≤ size := by
      have hplace := isMapped_iff.mp hmapped
      simp only [size]
      omega
    rw [hwrite, if_neg (by omega)]
    exact h.setTable offset halign htable hsize value
  · simp only [isMapped_iff, true_and] at hrefused
    rw [hwrite, if_neg (by omega), if_neg (by omega), if_neg (by omega), if_neg (by omega)]
    exact h

/-- A call leaves in the controller what it says about a source. -/
lemma Holds.perform (h : p.Holds s a) (call : PlicCall) :
    (p.perform call).2.Holds s (a.next s.number call) := by
  have hnumber := s.number_lt
  cases call with
  | setLine t level =>
    have hline := p.isPending_setLine t s level
    rw [SourceSettings.next]
    by_cases hsame : s = t
    · rw [if_pos hsame] at hline
      rw [if_pos (by rw [hsame])]
      exact ⟨hline, h.enabled_eq, h.priority_eq, h.vector_eq, h.argument_eq⟩
    · rw [if_neg hsame] at hline
      rw [if_neg fun hnumbers => hsame (Source.number_injective hnumbers).symm]
      exact ⟨hline.trans h.line_eq, h.enabled_eq, h.priority_eq, h.vector_eq, h.argument_eq⟩
  | enable t =>
    have henable := h.updateEnable 0 (sourceBit t)
    rw [toNat_sourceBit, Nat.testBit_two_pow] at henable
    rw [SourceSettings.next, Plic.perform, enable]
    split_ifs with hsame <;> simpa [hsame] using henable
  | disable t =>
    have hdisable := h.updateEnable (sourceBit t) 0
    rw [toNat_sourceBit, Nat.testBit_two_pow] at hdisable
    rw [SourceSettings.next, Plic.perform, disable]
    split_ifs with hsame <;> simpa [hsame] using hdisable
  | setPriority t value =>
    have hnumber := t.number_lt
    have hset := h.setPriorityByte (0x1000 + t.number) (by omega) value
    simp only [Nat.add_left_cancel_iff] at hset
    rw [SourceSettings.next, Plic.perform, setPriority, t.id_eq_number]
    exact hset
  | setHandler t vector argument =>
    have hset := (h.setVector t vector).setArgument t argument
    rw [SourceSettings.next, Plic.perform, setHandler, t.id_eq_number]
    split_ifs at hset ⊢ <;> exact hset
  | read width offset => exact h
  | writeByte offset value =>
    rw [SourceSettings.next, Plic.perform]
    rcases p.writeByte_cases offset value with ⟨hplace, hwrite⟩ | ⟨hplace, hwrite⟩
    · rw [hwrite]
      exact h.setPriorityByte offset hplace value
    · rw [hwrite, if_neg (by omega)]
      exact h
  | writeWord offset value => exact h.writeWord offset value
  | update => exact h.update
  | reset => exact holds_initial s

/-- After any calls to a new controller it holds what they said about each source. -/
lemma holds_after (calls : List PlicCall) (s : Source) :
    (Calls.after perform initial calls).Holds s (SourceSettings.after s.number calls) := by
  have hpast : (Calls.after perform initial calls).Holds s
      (SourceSettings.after s.number calls.reverse.reverse) := by
    refine Calls.after_follows
      (P := fun past (p : Plic) => p.Holds s (SourceSettings.after s.number past.reverse))
      (holds_initial s) ?_ calls
    intro past p call h
    rw [SourceSettings.after, List.reverse_cons, List.foldl_append]
    exact h.perform call
  rwa [List.reverse_reverse] at hpast

end Plic

end SocBench
