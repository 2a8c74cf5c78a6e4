import SocBench.Proofs.SourceSettings

/-!
# Which bytes of the interrupt controller are reached

The block of the interrupt controller is larger than its registers.  Whether an access may be made
is decided by its first byte, and the priorities, which are bytes, may also be accessed as words.
There are eleven of them, so the last word that starts at a priority has a byte that is none.

That byte is the only one outside the registers that is ever reached: every other access stays
inside them, and all other bytes between them are zero at any time.  The main result is
`Plic.reaches_registers`.
-/

namespace SocBench

namespace Plic

/-! ## The registers -/

/-- A byte is a priority. -/
def IsPriority (i : ℕ) : Prop :=
  priorityTable ≤ i ∧ i < priorityTable + sources

/-- A byte belongs to a register. -/
def IsRegister (i : ℕ) : Prop :=
  (enableOffset ≤ i ∧ i < enableOffset + 4)
    ∨ (vectorOffset ≤ i ∧ i < vectorOffset + 4)
    ∨ (argumentOffset ≤ i ∧ i < argumentOffset + 4)
    ∨ IsPriority i
    ∨ (vectorTable ≤ i ∧ i < vectorTable + 4 * sources)
    ∨ (argumentTable ≤ i ∧ i < argumentTable + 4 * sources)

/-- Where the last word starts that holds a priority. -/
def lastPriorities : ℕ :=
  priorityTable + 8

/-- The byte after the last priority. -/
def strayByte : ℕ :=
  priorityTable + sources

lemma isPriority_iff {i : ℕ} : IsPriority i ↔ 0x1000 ≤ i ∧ i < 0x100B := by
  simp only [IsPriority, priorityTable, sources, Nat.reduceAdd]

lemma isRegister_iff {i : ℕ} :
    IsRegister i ↔ i < 4 ∨ (0x100 ≤ i ∧ i < 0x108) ∨ (0x1000 ≤ i ∧ i < 0x100B)
      ∨ (0x2000 ≤ i ∧ i < 0x202C) ∨ (0x3000 ≤ i ∧ i < 0x302C) := by
  simp only [IsRegister, isPriority_iff, enableOffset, vectorOffset, argumentOffset, vectorTable,
    argumentTable, sources, Nat.reduceAdd, Nat.reduceMul]
  omega

lemma isRegister_of_isPriority {i : ℕ} (h : IsPriority i) : IsRegister i :=
  .inr (.inr (.inr (.inl h)))

lemma le_size_of_isRegister {i : ℕ} (h : IsRegister i) : i + 4 ≤ size := by
  rw [isRegister_iff] at h
  simp only [size]
  omega

/-- A word that starts in a register stays in the registers, unless it holds the last priorities. -/
lemma stays_in_registers_iff {offset : ℕ} (halign : 4 ∣ offset) (hreg : IsRegister offset) :
    (∀ i < 4, IsRegister (offset + i)) ↔ offset ≠ lastPriorities := by
  simp only [isRegister_iff, lastPriorities, priorityTable] at *
  constructor
  · rintro hall rfl
    have hlast := hall 3 (by norm_num)
    omega
  · intro hne i hi
    omega

/-! ## Where accesses succeed -/

lemma isMapped_byte_iff {offset : ℕ} : isMapped .byte offset = true ↔ IsPriority offset := by
  rw [isMapped_iff, isPriority_iff]
  simp

/-- Of a word only the first byte counts. -/
lemma isMapped_word_iff {offset : ℕ} (halign : 4 ∣ offset) :
    isMapped .word offset = true ↔ IsRegister offset := by
  rw [isMapped_iff, isRegister_iff]
  simp only [true_and]
  omega

variable (p : Plic)

lemma exists_read_byte_iff (offset : ℕ) :
    (∃ n, p.read .byte offset = .ok n) ↔ IsPriority offset := by
  rw [read, ← isMapped_byte_iff]
  split_ifs with hmapped
  · have hreg := isRegister_of_isPriority (isMapped_byte_iff.1 hmapped)
    have hinside : offset + 1 ≤ size := le_trans (by omega) (le_size_of_isRegister hreg)
    exact iff_of_true ((p.regs.exists_read_iff .byte offset).2 ⟨one_dvd _, hinside⟩) hmapped
  · exact iff_of_false (by simp) hmapped

lemma writeByte_ok_iff (offset : ℕ) (value : UInt8) :
    (p.writeByte offset value).1 = .ok () ↔ IsPriority offset := by
  rw [isPriority_iff]
  rcases p.writeByte_cases offset value with ⟨hplace, hwrite⟩ | ⟨hplace, hwrite⟩
  · exact iff_of_true (by rw [hwrite]; rfl) hplace
  · exact iff_of_false (by rw [hwrite]; simp [Access.refused]) hplace

lemma exists_read_word_iff (offset : ℕ) :
    (∃ n, p.read .word offset = .ok n) ↔ 4 ∣ offset ∧ IsRegister offset := by
  rw [read]
  split_ifs with hmapped
  · rw [RegisterBlock.exists_read_iff]
    constructor
    · rintro ⟨halign, -⟩
      exact ⟨halign, (isMapped_word_iff halign).1 hmapped⟩
    · rintro ⟨halign, hreg⟩
      exact ⟨halign, le_size_of_isRegister hreg⟩
  · refine iff_of_false (by simp) ?_
    rintro ⟨halign, hreg⟩
    exact hmapped ((isMapped_word_iff halign).2 hreg)

lemma writeWord_ok_iff (offset : ℕ) (value : UInt32) :
    (p.writeWord offset value).1 = .ok () ↔ 4 ∣ offset ∧ IsRegister offset := by
  rcases p.writeWord_cases offset value with ⟨hlatched, hwrite⟩ | ⟨henable, hwrite⟩
    | ⟨⟨halign, hmapped, -⟩, hwrite⟩ | ⟨hrefused, e, hwrite⟩
  · refine iff_of_true (by rw [hwrite]; rfl) ?_
    rw [isRegister_iff]
    omega
  · refine iff_of_true (by rw [hwrite]; rfl) ?_
    rw [isRegister_iff]
    omega
  · exact iff_of_true (by rw [hwrite]; rfl) ⟨halign, (isMapped_word_iff halign).1 hmapped⟩
  · refine iff_of_false (by rw [hwrite]; simp [Access.refused]) ?_
    rintro ⟨halign, hreg⟩
    exact hrefused ⟨halign, (isMapped_word_iff halign).2 hreg⟩

/-! ## What a call reaches -/

/-- A call may change a byte: it belongs to a register, or it is the stray one and the call writes
the word it is in. -/
def Reaches (call : PlicCall) (i : ℕ) : Prop :=
  IsRegister i ∨ (i = strayByte ∧ ∃ value, call = .writeWord lastPriorities value)

lemma Source.id_lt (s : Source) : s.id < sources := by
  cases s <;> decide

/-- A byte that a call does not reach stays zero. -/
lemma byte_perform {call : PlicCall} {i : ℕ} (h : ¬ Reaches call i) (hzero : p.regs.byte i = 0) :
    (p.perform call).2.regs.byte i = 0 := by
  have hreg : ¬ IsRegister i := fun hreg => h (.inl hreg)
  have hnot := hreg
  rw [isRegister_iff] at hnot
  cases call with
  | setLine s level => exact hzero
  | enable s =>
    refine (RegisterBlock.byte_poke_outside _ ?_ _).trans hzero
    simp only [enableOffset]
    omega
  | disable s =>
    refine (RegisterBlock.byte_poke_outside _ ?_ _).trans hzero
    simp only [enableOffset]
    omega
  | setPriority s value =>
    have hid := s.id_lt
    refine (RegisterBlock.byte_setByte_ne _ ?_ _).trans hzero
    simp only [priorityTable, sources] at *
    omega
  | setHandler s vector argument =>
    have hid := s.id_lt
    simp only [perform, setHandler, RegisterBlock.setWord, sources] at *
    rw [RegisterBlock.byte_poke_outside _ (by simp only [argumentTable]; omega),
      RegisterBlock.byte_poke_outside _ (by simp only [vectorTable]; omega), hzero]
  | read width offset => exact hzero
  | writeByte offset value =>
    rw [perform]
    rcases p.writeByte_cases offset value with ⟨hplace, hwrite⟩ | ⟨-, hwrite⟩
    · rw [hwrite]
      exact (RegisterBlock.byte_setByte_ne _ (by omega) _).trans hzero
    · rw [hwrite]
      exact hzero
  | writeWord offset value =>
    rw [perform]
    rcases p.writeWord_cases offset value with ⟨-, hwrite⟩ | ⟨rfl, hwrite⟩
      | ⟨⟨halign, hmapped, -⟩, hwrite⟩ | ⟨-, e, hwrite⟩
    · rw [hwrite]
      exact hzero
    · rw [hwrite]
      exact (RegisterBlock.byte_poke_outside _ (by omega) _).trans hzero
    · have hfirst := (isMapped_word_iff halign).1 hmapped
      rw [hwrite]
      refine (RegisterBlock.byte_poke_outside _ ?_ _).trans hzero
      by_contra hin
      -- a word with a byte outside the registers holds the last priorities
      have hlast : offset = lastPriorities := by
        by_contra hne
        have hall := (stays_in_registers_iff halign hfirst).2 hne (i - offset) (by omega)
        rw [Nat.add_sub_cancel' (by omega)] at hall
        exact hreg hall
      refine h (.inr ⟨?_, value, by rw [hlast]⟩)
      simp only [hlast, lastPriorities, strayByte, priorityTable, sources] at *
      omega
    · rw [hwrite]
      exact hzero
  | update => exact (p.byte_update (by omega)).trans hzero
  | reset => exact RegisterBlock.byte_zero i

/-- A write that is refused changes nothing. -/
lemma perform_refused {call : PlicCall} {e : BusError}
    (h : (p.perform call).1 = .written (.error e)) : (p.perform call).2 = p := by
  cases call with
  | writeByte offset value =>
    rw [perform] at h ⊢
    rcases p.writeByte_cases offset value with ⟨-, hwrite⟩ | ⟨-, hwrite⟩
    · rw [hwrite] at h
      cases h
    · rw [hwrite, Access.snd_refused]
  | writeWord offset value =>
    rw [perform] at h ⊢
    rcases p.writeWord_cases offset value with ⟨-, hwrite⟩ | ⟨-, hwrite⟩ | ⟨-, hwrite⟩
      | ⟨-, e, hwrite⟩
    · rw [hwrite, Access.snd_done]
    · rw [hwrite] at h
      cases h
    · rw [hwrite] at h
      cases h
    · rw [hwrite, Access.snd_refused]
  | _ => cases h

/-- **What the bus reaches.**  After any calls to a new controller, a byte can be accessed exactly
if it is a priority, and a word exactly if it is aligned and its first byte belongs to a register.
All bytes of such a word belong to registers exactly if it is not the word with the last priorities.
A byte outside the registers is zero, but for the one after the priorities, and that one too as long
as the word with the last priorities is not written.  A write that is refused changes nothing. -/
theorem reaches_registers (calls : List PlicCall) :
    let p := Calls.after perform initial calls
    (∀ offset, ((∃ n, p.read .byte offset = .ok n) ↔ IsPriority offset)
        ∧ ∀ value, (p.writeByte offset value).1 = .ok () ↔ IsPriority offset)
      ∧ (∀ offset, ((∃ n, p.read .word offset = .ok n) ↔ 4 ∣ offset ∧ IsRegister offset)
        ∧ ∀ value, (p.writeWord offset value).1 = .ok () ↔ 4 ∣ offset ∧ IsRegister offset)
      ∧ (∀ offset, 4 ∣ offset → IsRegister offset →
        ((∀ i < 4, IsRegister (offset + i)) ↔ offset ≠ 0x1008))
      ∧ (∀ i, ¬ IsRegister i → p.regs.byte i ≠ 0 →
        i = 0x100B ∧ ∃ value, .writeWord 0x1008 value ∈ calls)
      ∧ ∀ call e, (p.perform call).1 = .written (.error e) → (p.perform call).2 = p := by
  intro p
  refine ⟨fun offset => ⟨p.exists_read_byte_iff offset, p.writeByte_ok_iff offset⟩,
    fun offset => ⟨p.exists_read_word_iff offset, p.writeWord_ok_iff offset⟩,
    fun offset halign hreg => stays_in_registers_iff halign hreg, fun i hreg hne => ?_,
    fun call e h => p.perform_refused h⟩
  -- if no call reached the byte, it would still be zero
  by_contra hnone
  refine hne (Calls.after_keeps_of_mem (P := fun q : Plic => q.regs.byte i = 0) ?_ ?_)
  · intro call hmem q hzero
    refine q.byte_perform ?_ hzero
    rintro (hreached | ⟨rfl, value, rfl⟩)
    · exact hreg hreached
    · exact hnone ⟨rfl, value, hmem⟩
  · exact RegisterBlock.byte_zero i

/-- The word with the last priorities can be written, and then the byte after them is not zero,
although it belongs to no register. -/
theorem last_priorities_overhang :
    (initial.writeWord 0x1008 0xFF000000).1 = .ok () ∧ ¬ IsRegister (0x1008 + 3)
      ∧ (Calls.after perform initial [.writeWord 0x1008 0xFF000000]).regs.byte (0x1008 + 3)
        = 0xFF := by
  have hwrite := initial.writeWord_eq 0x1008 (by decide) (by decide) (by decide) (by decide)
    0xFF000000
  refine ⟨congrArg Prod.fst hwrite, ?_, ?_⟩
  · rw [isRegister_iff]
    norm_num
  · have hafter : Calls.after perform initial [.writeWord 0x1008 0xFF000000]
        = (initial.writeWord 0x1008 0xFF000000).2 := rfl
    rw [hafter, hwrite]
    show RegisterBlock.byte (RegisterBlock.setWord _ _ _) _ = _
    rw [RegisterBlock.setWord, RegisterBlock.byte_poke _ (by decide)]
    decide

end Plic

end SocBench
