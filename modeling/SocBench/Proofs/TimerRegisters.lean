import SocBench.Clint
import SocBench.Proofs.CallHistory
import SocBench.Proofs.WordMap

/-!
# The core timer as three registers

The core timer keeps its registers in one block of bytes.  The bus sees the counter and the number
to compare it with as two words each, the clock adds one to all eight bytes of the counter, and
which offsets the bus may access is decided before their alignment is.

To its user the timer is nothing but three registers, `TimerRegisters`: two numbers of 64 bits and a
bit.  The main result, `Clint.behaves_as_registers`, says that a new timer answers any calls as the
three registers do, and that its two interrupts are those of the registers at any time.
-/

namespace SocBench

/-! ## Numbers in two halves -/

/-- A half of a number of 64 bits. -/
inductive Half where
  | low
  | high
  deriving DecidableEq

namespace Half

/-- The half of a number. -/
def of (x : UInt64) : Half → UInt32
  | .low => .ofNat (x.toNat % 2 ^ 32)
  | .high => .ofNat (x.toNat / 2 ^ 32)

/-- The number with one half replaced. -/
def replace (x : UInt64) (value : UInt32) : Half → UInt64
  | .low => .ofNat (x.toNat / 2 ^ 32 * 2 ^ 32 + value.toNat)
  | .high => .ofNat (value.toNat * 2 ^ 32 + x.toNat % 2 ^ 32)

lemma toNat_of_low (x : UInt64) : (of x .low).toNat = x.toNat % 2 ^ 32 := by
  rw [of, UInt32.toNat_ofNat', Nat.mod_mod]

lemma toNat_of_high (x : UInt64) : (of x .high).toNat = x.toNat / 2 ^ 32 := by
  have hlt : x.toNat < 2 ^ 64 := x.toNat_lt
  rw [of, UInt32.toNat_ofNat', Nat.mod_eq_of_lt (by omega)]

/-- A number is put together from its halves. -/
lemma ofNat_halves (x : UInt64) :
    UInt64.ofNat ((of x .low).toNat + 2 ^ 32 * (of x .high).toNat) = x := by
  rw [toNat_of_low, toNat_of_high, Nat.mod_add_div, UInt64.ofNat_toNat]

/-- Replacing a half changes that half and not the other. -/
lemma of_replace (x : UInt64) (value : UInt32) (half other : Half) :
    of (replace x value half) other = if other = half then value else of x other := by
  have hx : x.toNat < 2 ^ 64 := x.toNat_lt
  have hvalue : value.toNat < 2 ^ 32 := value.toNat_lt
  apply UInt32.toNat_inj.1
  cases half <;> cases other <;>
    simp only [toNat_of_low, toNat_of_high, replace, UInt64.toNat_ofNat', reduceCtorEq, if_true,
      if_false] <;>
    omega

end Half

/-! ## Calls -/

/-- A call to a core timer. -/
inductive ClintCall where
  | read (offset : ℕ)
  | write (offset : ℕ) (value : UInt32)
  | tick
  | reset

/-- What a call returns. -/
inductive ClintAnswer where
  | word (result : Except BusError UInt32)
  | written (result : Except BusError Unit)
  | nothing

namespace Clint

/-- Makes a call. -/
def perform (c : Clint) : ClintCall → ClintAnswer × Clint
  | .read offset => (.word (c.read offset), c)
  | .write offset value => (.written (c.write offset value).1, (c.write offset value).2)
  | .tick => (.nothing, c.tick)
  | .reset => (.nothing, initial)

/-- The five words that a timer shows. -/
inductive Register where
  | msip
  | mtimecmp (half : Half)
  | mtime (half : Half)
  deriving DecidableEq

namespace Register

/-- All words, in their order. -/
def all : List Register :=
  [.msip, .mtimecmp .low, .mtimecmp .high, .mtime .low, .mtime .high]

/-- Where a word stands. -/
def offset : Register → ℕ
  | .msip => 0x0000
  | .mtimecmp .low => 0x4000
  | .mtimecmp .high => 0x4004
  | .mtime .low => 0xBFF8
  | .mtime .high => 0xBFFC

lemma mem_all (reg : Register) : reg ∈ all := by
  rcases reg with _ | (_ | _) | (_ | _) <;> simp [all]

lemma offset_injective : Function.Injective offset := by
  intro reg reg' h
  rcases reg with _ | (_ | _) | (_ | _) <;> rcases reg' with _ | (_ | _) | (_ | _) <;>
    first | rfl | cases h

lemma offset_mod (reg : Register) : reg.offset % 4 = 0 := by
  rcases reg with _ | (_ | _) | (_ | _) <;> rfl

lemma offset_le (reg : Register) : reg.offset + 4 ≤ size := by
  rcases reg with _ | (_ | _) | (_ | _) <;> simp [offset, size]

end Register

/-- The words of a timer. -/
def registers : WordMap size Register where
  offset := Register.offset
  all := Register.all
  mem_all := Register.mem_all
  injective := Register.offset_injective
  aligned := Register.offset_mod
  fits := Register.offset_le

namespace Register

/-- The word that starts at an offset. -/
def at? (offset : ℕ) : Option Register :=
  registers.find? offset

lemma offset_of_at? {offset : ℕ} {reg : Register} (h : at? offset = some reg) :
    reg.offset = offset :=
  WordMap.offset_of_find? h

lemma at?_eq_none_iff {offset : ℕ} :
    at? offset = none ↔ offset ∉ [0x0000, 0x4000, 0x4004, 0xBFF8, 0xBFFC] :=
  WordMap.find?_eq_none_iff

/-- Whether a byte belongs to one of the words. -/
def covers (offset : ℕ) : Bool :=
  all.any fun reg => reg.offset ≤ offset && offset < reg.offset + 4

end Register

end Clint

/-! ## The three registers -/

/-- The counter, the number to compare it with, and the bit that software sets. -/
structure TimerRegisters where
  mtime : UInt64 := 0
  mtimecmp : UInt64 := .ofNat (2 ^ 64 - 1)
  msip : Bool := false

namespace TimerRegisters

open Clint (Register)

/-- Reads a word. -/
def get (t : TimerRegisters) : Register → UInt32
  | .msip => if t.msip then 1 else 0
  | .mtimecmp half => half.of t.mtimecmp
  | .mtime half => half.of t.mtime

/-- Writes a word. -/
def set (t : TimerRegisters) (value : UInt32) : Register → TimerRegisters
  | .msip => { t with msip := value.toNat.testBit 0 }
  | .mtimecmp half => { t with mtimecmp := half.replace t.mtimecmp value }
  | .mtime half => { t with mtime := half.replace t.mtime value }

/-- Why no word can be accessed at an offset: none stands there, or one does but starts
elsewhere. -/
def refusal (offset : ℕ) : BusError :=
  if Register.covers offset then .misaligned offset 4 else .unmapped offset

/-- Makes a call. -/
def perform (t : TimerRegisters) : ClintCall → ClintAnswer × TimerRegisters
  | .read offset =>
    match Register.at? offset with
    | some reg => (.word (.ok (t.get reg)), t)
    | none => (.word (.error (refusal offset)), t)
  | .write offset value =>
    match Register.at? offset with
    | some reg => (.written (.ok ()), t.set value reg)
    | none => (.written (.error (refusal offset)), t)
  | .tick => (.nothing, { t with mtime := t.mtime + 1 })
  | .reset => (.nothing, {})

end TimerRegisters

/-! ## Where the words stand -/

namespace Clint

namespace Register

/-- The bus may access what belongs to a word. -/
lemma isMapped_eq (offset : ℕ) : isMapped offset = covers offset := by
  rw [Bool.eq_iff_iff]
  simp only [isMapped, covers, all, List.any_cons, List.any_nil, Bool.or_eq_true,
    Bool.and_eq_true, decide_eq_true_eq, beq_iff_eq, Bool.false_eq_true, or_false]
  simp only [Register.offset, msipOffset, mtimecmpOffset, mtimeOffset]
  -- rounded down to a multiple of four, an offset is the start of the word it belongs to
  omega

lemma covers_offset (reg : Register) : covers reg.offset = true := by
  rw [covers, List.any_eq_true]
  exact ⟨reg, reg.mem_all, by simp⟩

/-- An aligned access to a word is one to its start. -/
lemma misaligned_of_covers {offset : ℕ} (hcovers : covers offset = true)
    (hnone : at? offset = none) : offset % 4 ≠ 0 := by
  intro haligned
  obtain ⟨reg, -, hreg⟩ := List.any_eq_true.1 hcovers
  simp only [Bool.and_eq_true, decide_eq_true_eq] at hreg
  have hmod := reg.offset_mod
  exact WordMap.ne_offset_of_find? hnone reg (show offset = reg.offset by omega)

end Register

lemma word_setWord (regs : RegisterBlock size) (reg other : Register) (value : UInt32) :
    (regs.setWord reg.offset value).word other.offset
      = if other = reg then value else regs.word other.offset :=
  registers.word_setWord regs reg other value

/-! ## What the bus can do -/

variable (c : Clint)

lemma read_word (reg : Register) : c.read reg.offset = .ok (c.regs.word reg.offset) := by
  rw [read, Register.isMapped_eq, if_pos reg.covers_offset,
    RegisterBlock.read_word _ reg.offset_mod reg.offset_le]
  simp [Except.map]

/-- The bit of software is the only one of its word. -/
def masked (value : UInt32) : Register → UInt32
  | .msip => value &&& 1
  | _ => value

lemma write_word (reg : Register) (value : UInt32) :
    c.write reg.offset value = .done () ⟨c.regs.setWord reg.offset (masked value reg)⟩ := by
  have hmasked : (if reg.offset = msipOffset then value &&& 1 else value) = masked value reg := by
    rcases reg with _ | (_ | _) | (_ | _) <;> rfl
  rw [write, Register.isMapped_eq, if_pos reg.covers_offset]
  simp only [hmasked, RegisterBlock.write_word _ reg.offset_mod reg.offset_le, Access.map_done]

/-- Nothing is read or written where no word starts. -/
lemma access_refused {offset : ℕ} (h : Register.at? offset = none) :
    c.read offset = .error (TimerRegisters.refusal offset)
      ∧ ∀ value, c.write offset value = .refused (TimerRegisters.refusal offset) c := by
  rw [TimerRegisters.refusal, read]
  simp only [write, Register.isMapped_eq]
  by_cases hcovers : Register.covers offset = true
  · have hcheck : RegisterBlock.check size .word offset = .error (.misaligned offset 4) :=
      if_pos (Register.misaligned_of_covers hcovers h)
    simp only [if_pos hcovers, RegisterBlock.read, RegisterBlock.write,
      RegisterBlock.change_of_error _ hcheck, hcheck]
    exact ⟨rfl, fun _ => rfl⟩
  · simp only [if_neg hcovers]
    exact ⟨trivial, fun _ => trivial⟩

/-! ## What a timer shows -/

/-- The words of a timer are those of the three registers. -/
def Presents (c : Clint) (t : TimerRegisters) : Prop :=
  ∀ reg : Register, c.regs.word reg.offset = t.get reg

variable {c : Clint} {t : TimerRegisters}

lemma Presents.mtime_eq (h : c.Presents t) : c.mtime = t.mtime := by
  have hlow : c.regs.word mtimeOffset = Half.of t.mtime .low := h (.mtime .low)
  have hhigh : c.regs.word (mtimeOffset + 4) = Half.of t.mtime .high := h (.mtime .high)
  rw [mtime, RegisterBlock.peek_double, hlow, hhigh, Half.ofNat_halves]

lemma Presents.mtimecmp_eq (h : c.Presents t) : c.mtimecmp = t.mtimecmp := by
  have hlow : c.regs.word mtimecmpOffset = Half.of t.mtimecmp .low := h (.mtimecmp .low)
  have hhigh : c.regs.word (mtimecmpOffset + 4) = Half.of t.mtimecmp .high := h (.mtimecmp .high)
  rw [mtimecmp, RegisterBlock.peek_double, hlow, hhigh, Half.ofNat_halves]

lemma Presents.timerPending_iff (h : c.Presents t) :
    c.timerPending = true ↔ t.mtimecmp ≤ t.mtime := by
  rw [timerPending, h.mtime_eq, h.mtimecmp_eq, decide_eq_true_iff]

lemma Presents.softwarePending_eq (h : c.Presents t) : c.softwarePending = t.msip := by
  have hword : c.regs.word msipOffset = if t.msip then 1 else 0 := h .msip
  rw [softwarePending, hword]
  cases t.msip <;> rfl

/-! ## Each call -/

/-- A number of 64 bits is stored in both words of a register, and no other word sees it. -/
lemma word_poke_halves (regs : RegisterBlock size) (field : Half → Register)
    (hfield : (field .high).offset = (field .low).offset + 4) (x : UInt64) (reg : Register) :
    (regs.poke 8 (field .low).offset x.toNat).word reg.offset
      = if reg = field .high then Half.of x .high
        else if reg = field .low then Half.of x .low
        else regs.word reg.offset := by
  have hlow : UInt32.ofNat x.toNat = Half.of x .low := by
    apply UInt32.toNat_inj.1
    rw [UInt32.toNat_ofNat', Half.toNat_of_low]
  rw [RegisterBlock.poke_double, ← hfield, word_setWord, word_setWord, hlow]
  rfl

lemma presents_initial : initial.Presents {} := by
  intro reg
  have hstored := word_poke_halves (RegisterBlock.zero size) .mtimecmp rfl (.ofNat (2 ^ 64 - 1)) reg
  rw [RegisterBlock.word_zero] at hstored
  -- all bits of the number to compare with are set, and everything else is zero
  refine Eq.trans hstored ?_
  rcases reg with _ | (_ | _) | (_ | _) <;> rfl

lemma Presents.tick (h : c.Presents t) : c.tick.Presents { t with mtime := t.mtime + 1 } := by
  intro reg
  have hstored := word_poke_halves c.regs .mtime rfl (t.mtime + 1) reg
  rw [h reg] at hstored
  rw [Clint.tick, h.mtime_eq]
  refine Eq.trans hstored ?_
  rcases reg with _ | (_ | _) | (_ | _) <;> rfl

end Clint

namespace TimerRegisters

open Clint (Register)

/-- A word that is written keeps what it has bits for, and no other word changes. -/
lemma get_set (t : TimerRegisters) (value : UInt32) (reg other : Register) :
    (t.set value reg).get other = if other = reg then Clint.masked value reg else t.get other := by
  have hbit : (if value.toNat.testBit 0 then 1 else 0) = value &&& 1 := by
    apply UInt32.toNat_inj.1
    rw [UInt32.toNat_and, Nat.testBit_zero]
    have hlow : value.toNat &&& 1 = value.toNat % 2 := Nat.and_one_is_mod _
    rcases Nat.mod_two_eq_zero_or_one value.toNat with hmod | hmod <;> simp [hlow, hmod]
  cases reg with
  | msip =>
    cases other with
    | msip => simpa [set, get, Clint.masked] using hbit
    | _ => rfl
  | mtimecmp half =>
    cases other with
    | mtimecmp other => simp [set, get, Clint.masked, Half.of_replace]
    | _ => rfl
  | mtime half =>
    cases other with
    | mtime other => simp [set, get, Clint.masked, Half.of_replace]
    | _ => rfl

end TimerRegisters

namespace Clint

variable {c : Clint} {t : TimerRegisters}

lemma Presents.write (h : c.Presents t) (reg : Register) (value : UInt32) :
    (⟨c.regs.setWord reg.offset (masked value reg)⟩ : Clint).Presents (t.set value reg) := by
  intro other
  rw [word_setWord, t.get_set, h other]

/-- A timer answers every call as the three registers do. -/
lemma alike_registers : Calls.Alike perform TimerRegisters.perform Presents := by
  intro c t call h
  cases call with
  | read offset =>
    cases hreg : Register.at? offset with
    | none =>
      simp only [perform, TimerRegisters.perform, hreg, (c.access_refused hreg).1]
      exact ⟨trivial, h⟩
    | some reg =>
      have hread := c.read_word reg
      rw [h reg, Register.offset_of_at? hreg] at hread
      simp only [perform, TimerRegisters.perform, hreg, hread]
      exact ⟨trivial, h⟩
  | write offset value =>
    cases hreg : Register.at? offset with
    | none =>
      simp only [perform, TimerRegisters.perform, hreg, (c.access_refused hreg).2 value]
      exact ⟨rfl, h⟩
    | some reg =>
      have hwrite := c.write_word reg value
      rw [Register.offset_of_at? hreg] at hwrite
      simp only [perform, TimerRegisters.perform, hreg, hwrite]
      exact ⟨rfl, Register.offset_of_at? hreg ▸ h.write reg value⟩
  | tick => exact ⟨rfl, h.tick⟩
  | reset => exact ⟨rfl, presents_initial⟩

/-- **The core timer is three registers.**  A new timer answers any calls as the counter, the number
to compare with and the bit of software do, which start as zero, the largest number and false.  At
any time the timer interrupts exactly if the counter has reached the other number, and software does
exactly if its bit is set.  One more edge adds one to the counter, modulo the numbers of 64 bits,
and nothing else changes.  Where none of the five words starts an access is refused and changes
nothing. -/
theorem behaves_as_registers (calls : List ClintCall) :
    let c := Calls.after perform initial calls
    let t := Calls.after TimerRegisters.perform {} calls
    Calls.answers perform initial calls = Calls.answers TimerRegisters.perform {} calls
      ∧ c.mtime = t.mtime
      ∧ c.mtimecmp = t.mtimecmp
      ∧ (c.timerPending = true ↔ t.mtimecmp ≤ t.mtime)
      ∧ c.softwarePending = t.msip
      ∧ (∀ reg : Register, c.read reg.offset = .ok (t.get reg))
      ∧ (c.tick.mtime.toNat = (c.mtime.toNat + 1) % 2 ^ 64 ∧ c.tick.mtimecmp = c.mtimecmp
          ∧ c.tick.softwarePending = c.softwarePending)
      ∧ (∀ offset, offset ∉ [0x0000, 0x4000, 0x4004, 0xBFF8, 0xBFFC] →
          c.perform (.read offset) = (.word (.error (TimerRegisters.refusal offset)), c)
            ∧ ∀ value, c.perform (.write offset value)
                = (.written (.error (TimerRegisters.refusal offset)), c)) := by
  intro c t
  obtain ⟨hanswers, h⟩ := alike_registers.calls presents_initial calls
  have htick := h.tick
  refine ⟨hanswers, h.mtime_eq, h.mtimecmp_eq, h.timerPending_iff, h.softwarePending_eq, ?_,
    ⟨?_, ?_, ?_⟩, ?_⟩
  · intro reg
    rw [c.read_word reg, h reg]
  · rw [htick.mtime_eq, h.mtime_eq]
    exact UInt64.toNat_add _ _
  · rw [htick.mtimecmp_eq, h.mtimecmp_eq]
  · rw [htick.softwarePending_eq, h.softwarePending_eq]
  · intro offset hoffset
    obtain ⟨hread, hwrite⟩ := c.access_refused (Register.at?_eq_none_iff.mpr hoffset)
    constructor
    · rw [perform, hread]
    · intro value
      rw [perform, hwrite value]
      rfl

end Clint

end SocBench
