import SocBench.Proofs.BitFieldLaws
import SocBench.Proofs.ReceiverBounds

/-!
# The UART on machine words

The counts of the receiver are natural numbers, and the registers of the UART are looked up and
written without asking whether they lie in their block.  A device made of machine words has no such
freedom.  `WordUart` is that device: its counts are words of 8 and 32 bits, and every access to its
block goes over the bus.  It stops with a `Trap` where an addition overflows, where a word is
shifted by its width or more, and where one of its own accesses is refused.

The main result, `Uart.runs_on_words`, says that it never stops and does what the UART does, that
the receiver stays in its bounds, and when it is idle again.  The counts of bytes sent and received
are not part of the device: a word for them overflows only after as many calls as it can count.
-/

namespace SocBench

/-! ## Machine words -/

/-- Why a device on machine words stops. -/
inductive Trap where
  | addOverflow
  | shiftOverflow
  | refused (error : BusError)

/-- Going on after a step that succeeded. -/
lemma ok_bind {ε α β : Type} (a : α) (f : α → Except ε β) : (Except.ok a >>= f) = f a :=
  rfl

namespace Trap

/-- Adds one to a word. -/
def increment {w : ℕ} (x : BitVec w) : Except Trap (BitVec w) :=
  if x.uaddOverflow 1 then .error .addOverflow else .ok (x + 1)

/-- Shifts a word to the left. -/
def shiftLeft {w v : ℕ} (x : BitVec w) (amount : BitVec v) : Except Trap (BitVec w) :=
  if w ≤ amount.toNat then .error .shiftOverflow else .ok (x <<< amount)

/-- An answer of the device's own registers. -/
def access {α : Type} (result : Except BusError α) : Except Trap α :=
  result.mapError .refused

lemma increment_ofNat {w n : ℕ} (h : n + 1 < 2 ^ w) :
    increment (BitVec.ofNat w n) = .ok (BitVec.ofNat w (n + 1)) := by
  have hone : (1 : BitVec w).toNat = 1 := by
    show (BitVec.ofNat w 1).toNat = 1
    rw [BitVec.toNat_ofNat, Nat.mod_eq_of_lt (by omega)]
  have hfits : (BitVec.ofNat w n).uaddOverflow 1 = false := by
    rw [BitVec.uaddOverflow, hone, BitVec.toNat_ofNat, Nat.mod_eq_of_lt (by omega)]
    simpa using h
  rw [increment, hfits, if_neg Bool.false_ne_true, BitVec.ofNat_add]
  rfl

lemma shiftLeft_ofNat {w v n amount : ℕ} (h : amount < w) (hv : amount < 2 ^ v) :
    shiftLeft (BitVec.ofNat w n) (BitVec.ofNat v amount) = .ok (BitVec.ofNat w (n <<< amount)) := by
  have hamount : (BitVec.ofNat v amount).toNat = amount := by
    rw [BitVec.toNat_ofNat, Nat.mod_eq_of_lt hv]
  rw [shiftLeft, BitVec.shiftLeft_eq', hamount, if_neg (by omega)]
  congr 1
  apply BitVec.eq_of_toNat_eq
  rw [BitVec.toNat_shiftLeft, BitVec.toNat_ofNat, BitVec.toNat_ofNat, Nat.shiftLeft_eq,
    Nat.shiftLeft_eq, Nat.mod_mul_mod]

lemma ofNat_le_iff {n count : ℕ} (hn : n ≤ 65536) (hcount : count ≤ 65536) :
    BitVec.ofNat 32 n ≤ BitVec.ofNat 32 count ↔ n ≤ count := by
  rw [BitVec.le_def, BitVec.toNat_ofNat, BitVec.toNat_ofNat, Nat.mod_eq_of_lt (by omega),
    Nat.mod_eq_of_lt (by omega)]

lemma ofNat_half {n : ℕ} (hn : n ≤ 65536) : BitVec.ofNat 32 n / 2 = BitVec.ofNat 32 (n / 2) := by
  apply BitVec.eq_of_toNat_eq
  rw [BitVec.toNat_udiv, BitVec.toNat_ofNat, BitVec.toNat_ofNat, Nat.mod_eq_of_lt (by omega),
    Nat.mod_eq_of_lt (by omega)]
  rfl

end Trap

/-! ## The receiver -/

/-- What the receiver is waiting for, in machine words. -/
inductive WordReceiver where
  | idle
  | start (count : BitVec 32)
  | data (bit shift : BitVec 8) (count : BitVec 32)
  | stop (shift : BitVec 8) (count : BitVec 32)

/-- One clock edge with a bit of `n` edges. -/
def WordReceiver.step (n : BitVec 32) (r : WordReceiver) (rx : Bool) :
    Except Trap (WordReceiver × Option (UInt8 × Bool)) :=
  match r with
  | .idle => .ok (if rx then .idle else .start 1, none)
  | .start count =>
    if n / 2 ≤ count then .ok (if rx then .idle else .data 0 0 1, none)
    else do
      let count ← Trap.increment count
      return (.start count, none)
  | .data bit shift count =>
    if n ≤ count then do
      let level ← Trap.shiftLeft (BitVec.ofNat 8 rx.toNat) bit
      if bit = 7 then return (.stop (shift ||| level) 1, none)
      else
        let bit ← Trap.increment bit
        return (.data bit (shift ||| level) 1, none)
    else do
      let count ← Trap.increment count
      return (.data bit shift count, none)
  | .stop shift count =>
    if n ≤ count then .ok (.idle, some (.ofBitVec shift, rx))
    else do
      let count ← Trap.increment count
      return (.stop shift count, none)

namespace Receiver

/-- The receiver in machine words. -/
def words : Receiver → WordReceiver
  | .idle => .idle
  | .start count => .start (.ofNat 32 count)
  | .data bit shift count => .data (.ofNat 8 bit) (.ofNat 8 shift) (.ofNat 32 count)
  | .stop shift count => .stop (.ofNat 8 shift) (.ofNat 32 count)

/-- Within the bounds an edge never traps, and it does the same on machine words. -/
lemma Bounded.step_words {r : Receiver} {n : ℕ} (h : r.Bounded) (hn : n ≤ 65536) (rx : Bool) :
    r.words.step (.ofNat 32 n) rx = .ok ((r.step n rx).1.words, (r.step n rx).2) := by
  cases r with
  | idle => cases rx <;> rfl
  | start count =>
    obtain ⟨-, hmost⟩ := h
    rw [words, WordReceiver.step, Trap.ofNat_half hn, Receiver.step]
    simp only [Trap.ofNat_le_iff (by omega : n / 2 ≤ 65536) hmost]
    split_ifs with hlimit hhigh
    · rfl
    · rfl
    · rw [Trap.increment_ofNat (by omega)]
      rfl
  | data bit shift count =>
    obtain ⟨⟨-, hmost⟩, hbit, -⟩ := h
    rw [words, WordReceiver.step, Receiver.step]
    have hseven : BitVec.ofNat 8 bit = 7 ↔ bit = 7 := by
      rw [← BitVec.toNat_inj, BitVec.toNat_ofNat, Nat.mod_eq_of_lt (by omega)]
      rfl
    have hor : ∀ level, BitVec.ofNat 8 shift ||| BitVec.ofNat 8 level
        = BitVec.ofNat 8 (shift ||| level) := by
      intro level
      exact BitVec.ofNat_or.symm
    rw [Trap.shiftLeft_ofNat (by omega) (by omega), Trap.increment_ofNat (n := bit) (by omega),
      Trap.increment_ofNat (n := count) (by omega)]
    simp only [Trap.ofNat_le_iff hn hmost, hseven, ok_bind, hor]
    split_ifs with hlimit hlast
    · rfl
    · rfl
    · rfl
  | stop shift count =>
    obtain ⟨⟨-, hmost⟩, -⟩ := h
    rw [words, WordReceiver.step, Receiver.step]
    simp only [Trap.ofNat_le_iff hn hmost]
    split_ifs with hlimit
    · rfl
    · rw [Trap.increment_ofNat (by omega)]
      rfl

end Receiver

/-! ## The device -/

/-- A UART of machine words. -/
structure WordUart where
  regs : RegisterBlock Uart.size
  dll : UInt8
  dlm : UInt8
  trigger : Uart.Trigger
  fifo : List UInt8
  rx : WordReceiver

namespace WordUart

open Uart (Register)

variable (w : WordUart)

lemma bit_fits (bit : Fin 32) : bit.val + 1 ≤ 32 :=
  bit.isLt

/-- One bit of a register. -/
def bitOf (reg : Register) (bit : Fin 32) : BitField where
  offset := reg.offset
  shift := bit
  width := 1
  width_pos := Nat.one_pos
  fits := bit_fits bit

/-- Reads a register of the block. -/
def word (reg : Register) : Except Trap UInt32 := do
  let value ← Trap.access (w.regs.read .word reg.offset)
  return .ofNat value

/-- Asks whether a bit of a register is set. -/
def isSet (reg : Register) (bit : Fin 32) : Except Trap Bool :=
  Trap.access (w.regs.isSet (bitOf reg bit))

/-- Writes a register of the block. -/
def setWord (reg : Register) (value : UInt32) : Except Trap WordUart := do
  let (answer, regs) := w.regs.write .word reg.offset value.toNat
  Trap.access answer
  return { w with regs }

/-- Clears and sets bits of a register of the block. -/
def modify (reg : Register) (clear set : UInt32) : Except Trap WordUart := do
  let (answer, regs) := w.regs.modify reg.offset clear set
  Trap.access answer
  return { w with regs }

/-- Brings the line status up to date with the queue. -/
def refreshStatus : Except Trap WordUart := do
  let status ← w.word .status
  w.setWord .status (status &&& 0x0A ||| 0x60 ||| if w.fifo.isEmpty then 0 else 0x01)

/-- Clears everything. -/
def cleared : Except Trap WordUart :=
  refreshStatus
    { regs := .zero Uart.size, dll := 0, dlm := 0, trigger := .one, fifo := [], rx := .idle }

/-- The interrupt cause word. -/
def cause : Except Trap UInt32 := do
  let errors ← w.isSet .enable 2
  let status ← w.word .status
  let bytes ← w.isSet .enable 0
  if errors && status &&& 0x0A != 0 then return 0xC6
  else if bytes && w.trigger.level ≤ w.fifo.length then return 0xC4
  else return 0xC1

/-- A register that is read as it stands in the block. -/
def stored (reg : Register) : Except Trap (UInt32 × WordUart) := do
  let value ← w.word reg
  return (value, w)

/-- Reads a register from the bus. -/
def get : Register → Except Trap (UInt32 × WordUart)
  | .data => do
    let latch ← w.isSet .control 7
    if latch then return (w.dll.toUInt32, w)
    else
      let next ← refreshStatus { w with fifo := w.fifo.tail }
      return ((w.fifo.headD 0).toUInt32, next)
  | .enable => do
    let latch ← w.isSet .control 7
    if latch then return (w.dlm.toUInt32, w) else w.stored .enable
  | .queue => do
    let value ← w.cause
    return (value, w)
  | .status => do
    let value ← w.word .status
    let next ← w.modify .status 0x0A 0
    return (value, next)
  | .control => w.stored .control
  | .modem => w.stored .modem
  | .modemStatus => w.stored .modemStatus
  | .scratch => w.stored .scratch

/-- Writes a register from the bus. -/
def set (value : UInt32) : Register → Except Trap WordUart
  | .data => do
    let latch ← w.isSet .control 7
    if latch then return { w with dll := value.toUInt8 } else return w
  | .enable => do
    let latch ← w.isSet .control 7
    if latch then return { w with dlm := value.toUInt8 } else w.setWord .enable (value &&& 0x0F)
  | .queue =>
    refreshStatus
      { w with
        fifo := if value &&& 0x02 != 0 then [] else w.fifo
        trigger := .ofControl value }
  | .control => w.setWord .control (value &&& 0xFF)
  | .modem => w.setWord .modem (value &&& 0xFF)
  | .scratch => w.setWord .scratch (value &&& 0xFF)
  | .status | .modemStatus => .ok w

/-- The divisor, from its two bytes. -/
def divisor : BitVec 16 :=
  w.dlm.toBitVec ++ w.dll.toBitVec

/-- A frame has ended. -/
def accept (byte : UInt8) (stop : Bool) : Except Trap (WordUart × Option UInt8) :=
  if !stop then do
    let next ← w.modify .status 0 0x08
    return (next, none)
  else if 16 ≤ w.fifo.length then do
    let next ← w.modify .status 0 0x02
    return (next, none)
  else do
    let next ← refreshStatus { w with fifo := w.fifo ++ [byte] }
    return (next, some byte)

/-- One clock edge. -/
def clock (level : Bool) : Except Trap (WordUart × Option UInt8) :=
  if w.divisor = 0 then .ok (w, none)
  else do
    let n ← Trap.increment (w.divisor.setWidth 32)
    let (rx, done) ← w.rx.step n level
    match done with
    | none => return ({ w with rx }, none)
    | some (byte, stop) => accept { w with rx } byte stop

/-- Makes a call. -/
def perform : UartCall → Except Trap (UartAnswer × WordUart)
  | .read offset =>
    match Register.at? offset with
    | none => .ok (.word (.error (.unmapped offset)), w)
    | some reg => do
      let (value, next) ← w.get reg
      return (.word (.ok value), next)
  | .write offset value =>
    match Register.at? offset with
    | none => .ok (.written (.error (.unmapped offset)), w)
    | some reg => do
      let next ← w.set value reg
      return (.written (.ok ()), next)
  | .clock level => do
    let (next, byte) ← w.clock level
    return (.received byte, next)
  | .reset => do
    let next ← cleared
    return (.nothing, next)

/-- Makes some calls, with their answers in order. -/
def run (w : WordUart) : List UartCall → Except Trap (List UartAnswer × WordUart)
  | [] => .ok ([], w)
  | call :: calls => do
    let (answer, next) ← w.perform call
    let (answers, last) ← run next calls
    return (answer :: answers, last)

end WordUart

/-- A bit of a field is set exactly if the word and the mask of the field have one in common. -/
lemma RegisterBlock.isSet_eq {size : ℕ} (b : RegisterBlock size) {f : BitField}
    (halign : f.offset % 4 = 0) (hinside : f.offset + 4 ≤ size) :
    b.isSet f = .ok (b.word f.offset &&& f.mask != 0) := by
  have hcommon : f.extract (b.word f.offset) ≠ 0 ↔ b.word f.offset &&& f.mask ≠ 0 := by
    rw [f.extract_ne_zero_iff]
    constructor
    · rintro ⟨k, hmask, hword⟩ hzero
      have hbit : (b.word f.offset &&& f.mask).toNat.testBit k = true := by
        rw [UInt32.toNat_and, Nat.testBit_and, hword, hmask]
        rfl
      rw [hzero, UInt32.toNat_zero, Nat.zero_testBit] at hbit
      exact Bool.false_ne_true hbit
    · intro hne
      by_contra hnone
      refine hne (WordBits.eq_of_testBit fun k _ => ?_)
      rw [UInt32.toNat_and, Nat.testBit_and, UInt32.toNat_zero, Nat.zero_testBit,
        ← Bool.not_eq_true, Bool.and_eq_true]
      rintro ⟨hword, hmask⟩
      exact hnone ⟨k, hmask, hword⟩
  rw [isSet, readField_eq b halign hinside]
  refine congrArg Except.ok ?_
  rw [Bool.eq_iff_iff, bne_iff_ne, bne_iff_ne]
  exact hcommon

namespace Uart

variable (u : Uart)

/-- The UART in machine words. -/
def words : WordUart :=
  { regs := u.regs, dll := u.divisorLow, dlm := u.divisorHigh, trigger := u.trigger, fifo := u.queue
    rx := u.receiver.words }

lemma word_words (reg : Register) : u.words.word reg = .ok (u.regs.word reg.offset) := by
  have hread := u.regs.read_word reg.offset_mod reg.offset_le
  have hregs : u.words.regs = u.regs := rfl
  rw [WordUart.word, hregs, hread]
  show Except.ok (UInt32.ofNat (u.regs.word reg.offset).toNat) = _
  rw [UInt32.ofNat_toNat]

lemma setWord_words (reg : Register) (value : UInt32) :
    u.words.setWord reg value
      = .ok ({ u with regs := u.regs.setWord reg.offset value } : Uart).words := by
  have hwrite := u.regs.write_word reg.offset_mod reg.offset_le value
  have hregs : u.words.regs = u.regs := rfl
  rw [WordUart.setWord, hregs, hwrite]
  rfl

lemma modify_words (reg : Register) (clear set : UInt32) :
    u.words.modify reg clear set
      = .ok ({ u with regs := u.regs.updateWord reg.offset clear set } : Uart).words := by
  have hregs : u.words.regs = u.regs := rfl
  have hmodify : u.regs.modify reg.offset clear set = .done () _ :=
    u.regs.change_of_ok (RegisterBlock.check_word reg.offset_mod reg.offset_le) _
  rw [WordUart.modify, hregs, hmodify]
  rfl

lemma isSet_words (reg : Register) (bit : Fin 32) :
    u.words.isSet reg bit
      = .ok (u.regs.word reg.offset &&& (WordUart.bitOf reg bit).mask != 0) := by
  have hset := u.regs.isSet_eq (f := WordUart.bitOf reg bit) reg.offset_mod reg.offset_le
  have hregs : u.words.regs = u.regs := rfl
  rw [WordUart.isSet, hregs, hset]
  rfl

lemma latch_words : u.words.isSet .control 7 = .ok u.divisorShown :=
  u.isSet_words .control 7

variable {u} in
lemma refreshStatus_words {w : WordUart} (h : u.words = w) :
    w.refreshStatus = .ok u.refreshStatus.words := by
  subst h
  rw [WordUart.refreshStatus, word_words, ok_bind, setWord_words]
  rfl

lemma stored_words (reg : Register) :
    u.words.stored reg = .ok (u.regs.word reg.offset, u.words) := by
  rw [WordUart.stored, word_words]
  rfl

lemma cause_words : u.words.cause = .ok u.cause := by
  have herrors : u.words.isSet .enable 2 = .ok (u.regs.word enableOffset &&& 0x04 != 0) :=
    u.isSet_words .enable 2
  have hbytes : u.words.isSet .enable 0 = .ok (u.regs.word enableOffset &&& 0x01 != 0) :=
    u.isSet_words .enable 0
  have hstatus : u.words.word .status = .ok u.status := u.word_words .status
  rw [WordUart.cause, herrors, hbytes, hstatus]
  simp only [ok_bind]
  show (if u.errorInterrupt then Except.ok 0xC6
    else if u.dataInterrupt then Except.ok 0xC4 else Except.ok 0xC1) = _
  rw [cause]
  split_ifs <;> rfl

/-- A register is read on machine words as it is read by the UART. -/
lemma get_words (reg : Register) :
    ∃ value v, u.read reg.offset = .done value v ∧ u.words.get reg = .ok (value, v.words) := by
  cases reg with
  | data =>
    rw [WordUart.get, latch_words, ok_bind]
    cases hlatch : u.divisorShown with
    | true => exact ⟨_, u, read_divisorLow hlatch, rfl⟩
    | false =>
      refine ⟨_, _, read_data hlatch, ?_⟩
      have hrefresh := refreshStatus_words (u := { u with queue := u.queue.tail })
        (w := { u.words with fifo := u.words.fifo.tail }) rfl
      rw [if_neg Bool.false_ne_true, hrefresh]
      rfl
  | enable =>
    rw [WordUart.get, latch_words, ok_bind, stored_words]
    cases hlatch : u.divisorShown with
    | true => exact ⟨_, u, read_divisorHigh hlatch, rfl⟩
    | false => exact ⟨_, u, read_enable hlatch, rfl⟩
  | queue =>
    rw [WordUart.get, cause_words]
    exact ⟨_, u, u.read_cause, rfl⟩
  | status =>
    refine ⟨_, _, u.read_status, ?_⟩
    rw [WordUart.get, word_words, ok_bind, modify_words]
    rfl
  | control | modem | modemStatus | scratch =>
    exact ⟨_, u, read_stored u (by simp), u.stored_words _⟩

/-- A register is written on machine words as it is written by the UART. -/
lemma set_words (value : UInt32) (reg : Register) :
    ∃ v, u.write reg.offset value = .done () v ∧ u.words.set value reg = .ok v.words := by
  cases reg with
  | data =>
    rw [WordUart.set, latch_words, ok_bind]
    cases hlatch : u.divisorShown with
    | true => exact ⟨_, write_divisorLow hlatch value, rfl⟩
    | false => exact ⟨_, write_data hlatch value, rfl⟩
  | enable =>
    rw [WordUart.set, latch_words, ok_bind, setWord_words]
    cases hlatch : u.divisorShown with
    | true => exact ⟨_, write_divisorHigh hlatch value, rfl⟩
    | false => exact ⟨_, write_enable hlatch value, rfl⟩
  | queue => exact ⟨_, write_queueControl u value, refreshStatus_words rfl⟩
  | control | modem | scratch =>
    refine ⟨_, write_stored u (by simp) value, ?_⟩
    rw [WordUart.set, setWord_words]
  | status | modemStatus => exact ⟨u, write_ignored u (by simp) value, rfl⟩

lemma accept_words (byte : UInt8) (stop : Bool) :
    u.words.accept byte stop
      = .ok ((u.accept byte stop).1.words, (u.accept byte stop).2) := by
  have hfifo : u.words.fifo = u.queue := rfl
  have hflag : ∀ error, u.words.modify .status 0 error = .ok (u.flag error).words :=
    fun error => u.modify_words .status 0 error
  have hstop : ¬ (!true) = true := Bool.false_ne_true
  rw [WordUart.accept, hfifo, hflag, hflag]
  cases stop with
  | false => rfl
  | true =>
    rw [accept, if_neg hstop, if_neg hstop]
    by_cases hfull : 16 ≤ u.queue.length
    · rw [if_pos hfull, if_pos (show queueDepth ≤ u.queue.length from hfull)]
      rfl
    · rw [if_neg hfull, if_neg (show ¬ queueDepth ≤ u.queue.length from hfull)]
      have hqueued := refreshStatus_words
        (u := { u with queue := u.queue ++ [byte], received := u.received + 1 })
        (w := { u.words with fifo := u.queue ++ [byte] }) rfl
      rw [hqueued]
      rfl

lemma cleared_words (sent received : ℕ) : WordUart.cleared = .ok (cleared sent received).words :=
  refreshStatus_words rfl

lemma divisor_words : u.words.divisor.toNat = u.divisor := by
  have hlow : u.divisorLow.toNat < 2 ^ 8 := u.divisorLow.toNat_lt
  show (u.divisorHigh.toBitVec ++ u.divisorLow.toBitVec).toNat = _
  rw [BitVec.toNat_append, UInt8.toNat_toBitVec, UInt8.toNat_toBitVec,
    ← Nat.shiftLeft_add_eq_or_of_lt hlow, Nat.shiftLeft_eq, divisor]
  ring

/-- A clock edge does the same on machine words. -/
lemma clock_words (h : u.receiver.Bounded) (level : Bool) :
    u.words.clock level = .ok ((u.clock level).1.words, (u.clock level).2) := by
  have hzero : u.words.divisor = 0 ↔ u.divisor = 0 := by
    rw [← divisor_words, ← BitVec.toNat_inj]
    rfl
  rw [WordUart.clock, clock]
  by_cases hdivisor : u.divisor = 0
  · rw [if_pos (hzero.mpr hdivisor), if_neg (by simpa [isConfigured] using hdivisor)]
  · have hcycles : u.words.divisor.setWidth 32 = BitVec.ofNat 32 u.divisor := by
      rw [← divisor_words, BitVec.ofNat_toNat]
    have hlt := u.divisor_lt
    have hstep := h.step_words u.bitCycles_le level
    rw [if_neg (mt hzero.mp hdivisor), if_pos (by simpa [isConfigured] using hdivisor), hcycles,
      Trap.increment_ofNat (by omega), ok_bind]
    show (u.receiver.words.step (.ofNat 32 u.bitCycles) level >>= _) = _
    rw [hstep, ok_bind]
    rcases u.receiver.step u.bitCycles level with ⟨receiver, _ | ⟨byte, stop⟩⟩
    · rfl
    · exact accept_words { u with receiver } byte stop

/-- A call does the same on machine words, with the same answer. -/
lemma perform_words (h : u.receiver.Bounded) (call : UartCall) :
    u.words.perform call = .ok ((port.perform u call).1, (port.perform u call).2.words) := by
  cases call with
  | read offset =>
    cases hreg : Register.at? offset with
    | none =>
      simp only [WordUart.perform, UartPort.perform, port, hreg, read_unmapped u hreg,
        Access.refused]
    | some reg =>
      obtain ⟨value, v, hread, hwords⟩ := u.get_words reg
      rw [Register.offset_of_at? hreg] at hread
      simp only [WordUart.perform, UartPort.perform, port, hreg, hread, hwords, ok_bind]
      rfl
  | write offset value =>
    cases hreg : Register.at? offset with
    | none =>
      simp only [WordUart.perform, UartPort.perform, port, hreg, write_unmapped u hreg,
        Access.refused]
    | some reg =>
      obtain ⟨v, hwrite, hwords⟩ := u.set_words value reg
      rw [Register.offset_of_at? hreg] at hwrite
      simp only [WordUart.perform, UartPort.perform, port, hreg, hwrite, hwords, ok_bind]
      rfl
  | clock level =>
    rw [WordUart.perform, clock_words u h, ok_bind]
    rfl
  | reset =>
    rw [WordUart.perform, cleared_words u.sent u.received]
    rfl

/-- Any calls. -/
lemma run_words (h : u.receiver.Bounded) (calls : List UartCall) :
    u.words.run calls = .ok (Calls.answers port.perform u calls, (port.after u calls).words) := by
  induction calls generalizing u with
  | nil => rfl
  | cons call calls ih =>
    rw [WordUart.run, perform_words u h, ok_bind]
    simp only [ih _ (bounded_perform u call h), ok_bind]
    rfl

/-- **The receiver under arbitrary reprogramming.**  After any calls to a new UART, among them
writes of the divisor in the middle of a frame, the counts, the number of the bit and the bits
gathered are in their ranges.  A device of machine words, which stops if an addition overflows, if a
word is shifted too far or if one of its own accesses is refused, never stops on these calls, gives
the same answers and is left in the same state.  From then on, whatever calls are made, the receiver
is idle after half a bit and nine bits of clock edges at the latest, if the divisor is not zero and
stays as it is.  The bytes counted as sent and received are not more than the calls. -/
theorem runs_on_words (calls : List UartCall) :
    let u := port.after initial calls
    u.receiver.Bounded
      ∧ (WordUart.cleared >>= fun w => w.run calls)
          = .ok (Calls.answers port.perform initial calls, u.words)
      ∧ (∀ stretch : List UartCall, u.divisor ≠ 0 →
          (∀ p, p <+: stretch → (port.after u p).divisor = u.divisor) →
          u.bitCycles / 2 + 9 * u.bitCycles ≤ clockEdges stretch →
          ∃ p, p <+: stretch ∧ clockEdges p ≤ u.bitCycles / 2 + 9 * u.bitCycles
            ∧ (port.after u p).receiver = .idle)
      ∧ u.sent + u.received ≤ calls.length := by
  intro u
  have hbounded : u.receiver.Bounded := bounded_after calls
  have hinitial : initial.receiver.Bounded := bounded_after []
  refine ⟨hbounded, ?_, ?_, counts_after calls⟩
  · rw [cleared_words 0 0, ok_bind]
    exact run_words initial hinitial calls
  · intro stretch hdivisor hsame hedges
    have hmost := hbounded.edgesLeft_le (n := u.divisor + 1) (by omega)
    obtain ⟨p, hp, hcount, hidle⟩ := exists_idle hdivisor hbounded hsame (hmost.trans hedges)
    exact ⟨p, hp, hcount.trans hmost, hidle⟩

/-- The divisor is lowered from 64 to 1 while the receiver counts the edges of a start bit. -/
def loweredDivisor : List UartCall :=
  [.write 0x0C 0x80, .write 0x00 0x40] ++ List.replicate 6 (.clock false) ++ [.write 0x00 0x01]

/-- A low line for half a bit and nine bits, with the line status read after every edge. -/
def watchedLowLine : List UartCall :=
  (List.replicate 19 [.clock false, .read 0x14]).flatten

/-- A count far above its new limit does not keep the receiver from coming to an end. -/
theorem runs_on_words_lowered_divisor :
    let u := port.after initial loweredDivisor
    (u.receiver = .start 6 ∧ u.bitCycles = 2)
      ∧ ∃ p, p <+: watchedLowLine ∧ clockEdges p ≤ 19 ∧ (port.after u p).receiver = .idle := by
  intro u
  have hreceiver : u.receiver = .start 6 := by decide +kernel
  have hdivisor : u.divisor = 1 := by decide +kernel
  have hcycles : u.bitCycles = 2 := congrArg (· + 1) hdivisor
  have hsame : ∀ p ∈ watchedLowLine.inits, (port.after u p).divisor = 1 := by decide +kernel
  have hedges : clockEdges watchedLowLine = 19 := by decide
  obtain ⟨p, hp, hcount, hidle⟩ := (runs_on_words loweredDivisor).2.2.1 watchedLowLine
    (by rw [hdivisor]; decide)
    (fun p hp => (hsame p ((List.mem_inits p _).mpr hp)).trans hdivisor.symm)
    (by rw [hcycles, hedges])
  rw [hcycles] at hcount
  exact ⟨⟨hreceiver, hcycles⟩, p, hp, hcount, hidle⟩

end Uart

end SocBench
