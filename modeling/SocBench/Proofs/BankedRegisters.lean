import SocBench.Proofs.CallHistory
import SocBench.Proofs.FrameWaveform
import SocBench.Proofs.UartRegisters

/-!
# The registers of the UART as its user sees them

The UART keeps most of its registers in one block of bytes.  One of them, the line status, is put
together from other parts of the state and has to be brought up to date whenever these change.  The
first two words of the block stand for different registers, depending on a bit of a third one.

Its user sees none of that.  `Banked` is the device of the manual: a record with one entry for each
register, the receive queue and the two line errors, and every answer is worked out when it is asked
for.  The main result, `Uart.behaves_as_banked`, says that after any calls the two devices answer
every call alike, and what the entries of the record are in terms of those calls.
-/

namespace SocBench

/-! ## Calls -/

/-- A call to a UART. -/
inductive UartCall where
  | read (offset : ℕ)
  | write (offset : ℕ) (value : UInt32)
  | clock (rx : Bool)
  | reset

/-- What a call returns. -/
inductive UartAnswer where
  | word (result : Except BusError UInt32)
  | written (result : Except BusError Unit)
  | received (byte : Option UInt8)
  | nothing

/-- The calls as functions of a state. -/
structure UartPort (α : Type) where
  read : α → ℕ → Access α UInt32
  write : α → ℕ → UInt32 → Access α Unit
  clock : α → Bool → α × Option UInt8
  reset : α → α

namespace UartPort

variable {α : Type} (port : UartPort α)

/-- Makes a call. -/
def perform (x : α) : UartCall → UartAnswer × α
  | .read offset => (.word (port.read x offset).1, (port.read x offset).2)
  | .write offset value => (.written (port.write x offset value).1, (port.write x offset value).2)
  | .clock rx => (.received (port.clock x rx).2, (port.clock x rx).1)
  | .reset => (.nothing, port.reset x)

/-- The state after some calls. -/
abbrev after (x : α) (calls : List UartCall) : α :=
  Calls.after port.perform x calls

end UartPort

namespace Uart

/-- The calls to a UART. -/
def port : UartPort Uart :=
  ⟨read, write, clock, reset⟩

end Uart

/-! ## The device of the manual -/

/-- A UART as its manual describes it: its registers, the receive queue and how many bytes in it
raise an interrupt, the two line errors, and where the receiver is in a frame. -/
structure Banked where
  ier : BitVec 4 := 0
  lcr : UInt8 := 0
  mcr : UInt8 := 0
  scr : UInt8 := 0
  dll : UInt8 := 0
  dlm : UInt8 := 0
  trigger : ℕ := 1
  fifo : List UInt8 := []
  fe : Bool := false
  oe : Bool := false
  receiver : Receiver := .idle

namespace Banked

open Uart (Register)

/-- The divisor latch is open while bit 7 of the line control register is set. -/
def latch (a : Banked) : Bool :=
  a.lcr.toNat.testBit 7

/-- The divisor. -/
def divisor (a : Banked) : ℕ :=
  a.dll.toNat + 256 * a.dlm.toNat

/-- What the interrupt enable register reads. -/
def ierWord (a : Banked) : UInt32 :=
  .ofBitVec (a.ier.setWidth 32)

/-- The line status word of a UART with or without a byte that waits and the two line errors. -/
def statusWord (ready oe fe : Bool) : UInt32 :=
  0x60 ||| (if ready then 1 else 0) ||| (if oe then 2 else 0) ||| (if fe then 8 else 0)

/-- What the line status register reads. -/
def lsr (a : Banked) : UInt32 :=
  statusWord (!a.fifo.isEmpty) a.oe a.fe

/-- Whether received bytes interrupt. -/
def dataInterrupt (a : Banked) : Bool :=
  a.ier.getLsbD 0 && a.trigger ≤ a.fifo.length

/-- Whether a line error interrupts. -/
def errorInterrupt (a : Banked) : Bool :=
  a.ier.getLsbD 2 && (a.fe || a.oe)

/-- What the interrupt identification register reads. -/
def iir (a : Banked) : UInt32 :=
  if a.errorInterrupt then 0xC6 else if a.dataInterrupt then 0xC4 else 0xC1

/-- How many bytes raise an interrupt, by bits 7 and 6 of what is written to the queue control. -/
def triggerOf (value : UInt32) : ℕ :=
  if value.toNat.testBit 7 then (if value.toNat.testBit 6 then 14 else 8)
  else if value.toNat.testBit 6 then 4 else 1

/-- Reads a register. -/
def get (a : Banked) : Register → UInt32 × Banked
  | .data =>
    if a.latch then (a.dll.toUInt32, a)
    else ((a.fifo.headD 0).toUInt32, { a with fifo := a.fifo.tail })
  | .enable => (if a.latch then a.dlm.toUInt32 else a.ierWord, a)
  | .queue => (a.iir, a)
  | .control => (a.lcr.toUInt32, a)
  | .modem => (a.mcr.toUInt32, a)
  | .status => (a.lsr, { a with fe := false, oe := false })
  | .modemStatus => (0, a)
  | .scratch => (a.scr.toUInt32, a)

/-- Writes a register. -/
def set (a : Banked) (value : UInt32) : Register → Banked
  | .data => if a.latch then { a with dll := value.toUInt8 } else a
  | .enable =>
    if a.latch then { a with dlm := value.toUInt8 }
    else { a with ier := value.toBitVec.setWidth 4 }
  | .queue =>
    { a with fifo := if value.toNat.testBit 1 then [] else a.fifo, trigger := triggerOf value }
  | .control => { a with lcr := value.toUInt8 }
  | .modem => { a with mcr := value.toUInt8 }
  | .scratch => { a with scr := value.toUInt8 }
  | .status | .modemStatus => a

/-- A frame has ended. -/
def accept (a : Banked) (byte : UInt8) (stop : Bool) : Banked × Option UInt8 :=
  if stop then
    if a.fifo.length < 16 then ({ a with fifo := a.fifo ++ [byte] }, some byte)
    else ({ a with oe := true }, none)
  else ({ a with fe := true }, none)

/-- One clock edge. -/
def clock (a : Banked) (rx : Bool) : Banked × Option UInt8 :=
  if a.divisor = 0 then (a, none)
  else
    match a.receiver.step (a.divisor + 1) rx with
    | (receiver, none) => ({ a with receiver }, none)
    | (receiver, some (byte, stop)) => accept { a with receiver } byte stop

/-- The calls to the device of the manual. -/
def port : UartPort Banked where
  read a offset :=
    match Register.at? offset with
    | some reg => .done (a.get reg).1 (a.get reg).2
    | none => .refused (.unmapped offset) a
  write a offset value :=
    match Register.at? offset with
    | some reg => .done () (a.set value reg)
    | none => .refused (.unmapped offset) a
  clock := clock
  reset _ := {}

/-- What stands in the block of a UART that shows this record. -/
def stored (a : Banked) : Register → UInt32
  | .enable => a.ierWord
  | .control => a.lcr.toUInt32
  | .modem => a.mcr.toUInt32
  | .status => a.lsr
  | .scratch => a.scr.toUInt32
  | .data | .queue | .modemStatus => 0

/-- The queue, the trigger and the line errors are seen in the line status only. -/
lemma stored_of_ne_status (a : Banked) (fifo : List UInt8) (trigger : ℕ) (fe oe : Bool)
    (reg : Register) (h : reg ≠ .status) :
    a.stored reg = { a with fifo, trigger, fe, oe }.stored reg := by
  cases reg with
  | status => exact absurd rfl h
  | _ => rfl

end Banked

/-! ## Words and bits -/

lemma toUInt32_and_low (value : UInt32) : value &&& 0xFF = value.toUInt8.toUInt32 := by
  apply UInt32.toNat_inj.1
  simp only [UInt32.toNat_and, UInt8.toNat_toUInt32, UInt32.toNat_toUInt8]
  exact Nat.and_two_pow_sub_one_eq_mod value.toNat 8

lemma ofBitVec_low (value : UInt32) :
    value &&& 0x0F = .ofBitVec ((value.toBitVec.setWidth 4).setWidth 32) := by
  apply UInt32.toNat_inj.1
  have hlow : value.toNat &&& 15 = value.toNat % 16 := Nat.and_two_pow_sub_one_eq_mod value.toNat 4
  simp [hlow]
  omega

/-- The two bits of the queue control select one of four numbers of bytes. -/
lemma level_ofControl (value : UInt32) :
    (Uart.Trigger.ofControl value).level = Banked.triggerOf value := by
  have hbits : (value >>> 6 &&& 3).toNat
      = 2 * (value.toNat.testBit 7).toNat + (value.toNat.testBit 6).toNat := by
    have hand : value.toNat >>> 6 &&& 3 = (value.toNat >>> 6) % 4 :=
      Nat.and_two_pow_sub_one_eq_mod _ 2
    rw [UInt32.toNat_and, UInt32.toNat_shiftRight]
    simp only [Nat.toNat_testBit]
    show value.toNat >>> 6 &&& 3 = _
    rw [hand, Nat.shiftRight_eq_div_pow]
    omega
  rw [Uart.Trigger.ofControl, hbits, Banked.triggerOf]
  cases value.toNat.testBit 7 <;> cases value.toNat.testBit 6 <;> rfl

namespace Uart

/-- The registers, the queue and the receiver of a UART are those of a record. -/
structure Presents (u : Uart) (a : Banked) : Prop where
  word_eq : ∀ reg : Register, u.regs.word reg.offset = a.stored reg
  divisorLow_eq : u.divisorLow = a.dll
  divisorHigh_eq : u.divisorHigh = a.dlm
  trigger_eq : u.trigger.level = a.trigger
  queue_eq : u.queue = a.fifo
  receiver_eq : u.receiver = a.receiver

variable {u : Uart} {a : Banked}

lemma word_setWord (regs : RegisterBlock size) (reg other : Register) (value : UInt32) :
    (regs.setWord reg.offset value).word other.offset
      = if other = reg then value else regs.word other.offset :=
  registers.word_setWord regs reg other value

/-! ## What a UART shows -/

lemma Presents.divisorShown_eq (h : u.Presents a) : u.divisorShown = a.latch := by
  rw [divisorShown, show u.regs.word controlOffset = _ from h.word_eq .control, Banked.stored,
    and_two_pow_bne_zero (k := 7) rfl, UInt8.toNat_toUInt32, Banked.latch]

lemma Presents.status_eq (h : u.Presents a) : u.status = a.lsr :=
  h.word_eq .status

lemma Presents.divisor_eq (h : u.Presents a) : u.divisor = a.divisor := by
  rw [divisor, h.divisorLow_eq, h.divisorHigh_eq, Banked.divisor]

lemma Presents.dataInterrupt_eq (h : u.Presents a) : u.dataInterrupt = a.dataInterrupt := by
  have hbit : ∀ ier : BitVec 4,
      (UInt32.ofBitVec (ier.setWidth 32) &&& 0x01 != 0) = ier.getLsbD 0 := by decide
  rw [dataInterrupt, show u.regs.word enableOffset = _ from h.word_eq .enable, Banked.stored,
    Banked.ierWord, hbit, h.trigger_eq, h.queue_eq, Banked.dataInterrupt]

lemma Presents.errorInterrupt_eq (h : u.Presents a) : u.errorInterrupt = a.errorInterrupt := by
  have hbit : ∀ ier : BitVec 4,
      (UInt32.ofBitVec (ier.setWidth 32) &&& 0x04 != 0) = ier.getLsbD 2 := by decide
  have herrors : ∀ ready oe fe : Bool,
      (Banked.statusWord ready oe fe &&& lineErrors != 0) = (fe || oe) := by decide
  rw [errorInterrupt, show u.regs.word enableOffset = _ from h.word_eq .enable, Banked.stored,
    Banked.ierWord, hbit, h.status_eq, Banked.lsr, herrors, Banked.errorInterrupt]

lemma Presents.cause_eq (h : u.Presents a) : u.cause = a.iir := by
  rw [cause, h.errorInterrupt_eq, h.dataInterrupt_eq, Banked.iir]

/-! ## Changes that a record goes along with -/

/-- One word of the block changes, and so does the register it belongs to. -/
lemma Presents.word_setWord (h : u.Presents a) (reg : Register) {value : UInt32} {a' : Banked}
    (hvalue : value = a'.stored reg) (hrest : ∀ other ≠ reg, a.stored other = a'.stored other)
    (other : Register) : (u.regs.setWord reg.offset value).word other.offset = a'.stored other := by
  rw [Uart.word_setWord]
  split_ifs with hsame
  · rw [hsame, hvalue]
  · rw [h.word_eq, hrest other hsame]

/-- The queue and what raises an interrupt change, and the status is brought up to date. -/
lemma Presents.withQueue (h : u.Presents a) (queue : List UInt8) (trigger : Trigger)
    (received : ℕ) :
    (refreshStatus { u with queue, trigger, received }).Presents
      { a with fifo := queue, trigger := trigger.level } := by
  have hstatus : ∀ ready empty oe fe : Bool,
      Banked.statusWord ready oe fe &&& lineErrors ||| transmitterEmpty
        ||| (if empty then 0 else dataReady) = Banked.statusWord (!empty) oe fe := by decide
  simp only [refreshStatus, show u.regs.word statusOffset = a.lsr from h.word_eq .status,
    Banked.lsr, hstatus]
  exact ⟨h.word_setWord .status rfl (a.stored_of_ne_status queue trigger.level a.fe a.oe),
    h.divisorLow_eq, h.divisorHigh_eq, rfl, rfl, h.receiver_eq⟩

/-- Some bits of the status change. -/
lemma Presents.withStatus (h : u.Presents a) {clear set : UInt32} {fe oe : Bool}
    (hlsr : RegisterBlock.maskWord a.lsr clear set = { a with fe, oe }.lsr) :
    ({ u with regs := u.regs.updateWord statusOffset clear set } : Uart).Presents
      { a with fe, oe } := by
  refine ⟨?_, h.divisorLow_eq, h.divisorHigh_eq, h.trigger_eq, h.queue_eq, h.receiver_eq⟩
  refine h.word_setWord .status ?_ (a.stored_of_ne_status a.fifo a.trigger fe oe)
  rw [show u.regs.word statusOffset = a.lsr from h.word_eq .status]
  exact hlsr

lemma Presents.withReceiver (h : u.Presents a) (receiver : Receiver) :
    ({ u with receiver } : Uart).Presents { a with receiver } :=
  ⟨h.word_eq, h.divisorLow_eq, h.divisorHigh_eq, h.trigger_eq, h.queue_eq, rfl⟩

/-- After a reset, whatever was counted before. -/
lemma presents_cleared (sent received : ℕ) : (cleared sent received).Presents {} := by
  refine ⟨fun reg => ?_, rfl, rfl, rfl, rfl, rfl⟩
  rw [cleared, refreshStatus, show statusOffset = Register.status.offset from rfl, word_setWord]
  simp only [RegisterBlock.word_zero]
  cases reg <;> rfl

/-! ## Each call -/

/-- A register is read as the record says. -/
lemma Presents.read (h : u.Presents a) (reg : Register) :
    ∃ u', u.read reg.offset = .done (a.get reg).1 u' ∧ u'.Presents (a.get reg).2 := by
  have hshown := h.divisorShown_eq
  cases reg with
  | data =>
    rw [Banked.get, ← hshown]
    split_ifs with hlatch
    · refine ⟨u, ?_, h⟩
      rw [← h.divisorLow_eq]
      exact read_divisorLow hlatch
    · refine ⟨u.dataRead, ?_, ?_⟩
      · rw [← h.queue_eq]
        exact read_data (Bool.eq_false_iff.mpr hlatch)
      · have hread := h.withQueue u.queue.tail u.trigger u.received
        rw [h.trigger_eq] at hread
        rw [← h.queue_eq]
        exact hread
  | enable =>
    refine ⟨u, ?_, h⟩
    rw [Banked.get, ← hshown]
    split_ifs with hlatch
    · rw [← h.divisorHigh_eq]
      exact read_divisorHigh hlatch
    · rw [show a.ierWord = _ from (h.word_eq .enable).symm]
      exact read_enable (Bool.eq_false_iff.mpr hlatch)
  | queue =>
    refine ⟨u, ?_, h⟩
    rw [Banked.get, ← h.cause_eq]
    exact u.read_cause
  | status =>
    have hcleared : ∀ ready oe fe : Bool,
        RegisterBlock.maskWord (Banked.statusWord ready oe fe) lineErrors 0
          = Banked.statusWord ready false false := by decide
    refine ⟨u.statusRead, ?_, h.withStatus (hcleared _ _ _)⟩
    rw [Banked.get, ← h.status_eq]
    exact u.read_status
  | control | modem | modemStatus | scratch =>
    refine ⟨u, ?_, h⟩
    rw [read_stored u (by simp), h.word_eq]
    rfl

/-- A register is written as the record says. -/
lemma Presents.write (h : u.Presents a) (value : UInt32) (reg : Register) :
    ∃ u', u.write reg.offset value = .done () u' ∧ u'.Presents (a.set value reg) := by
  cases reg with
  | data =>
    rw [Banked.set, ← h.divisorShown_eq]
    split_ifs with hlatch
    · refine ⟨_, write_divisorLow hlatch value, ?_, rfl, h.divisorHigh_eq, h.trigger_eq, h.queue_eq,
        h.receiver_eq⟩
      intro reg
      rw [h.word_eq]
      cases reg <;> rfl
    · exact ⟨_, write_data (Bool.eq_false_iff.mpr hlatch) value, h.word_eq, h.divisorLow_eq,
        h.divisorHigh_eq, h.trigger_eq, h.queue_eq, h.receiver_eq⟩
  | enable =>
    rw [Banked.set, ← h.divisorShown_eq]
    split_ifs with hlatch
    · refine ⟨_, write_divisorHigh hlatch value, ?_, h.divisorLow_eq, rfl, h.trigger_eq, h.queue_eq,
        h.receiver_eq⟩
      intro reg
      rw [h.word_eq]
      cases reg <;> rfl
    · refine ⟨_, write_enable (Bool.eq_false_iff.mpr hlatch) value, ?_, h.divisorLow_eq,
        h.divisorHigh_eq, h.trigger_eq, h.queue_eq, h.receiver_eq⟩
      refine h.word_setWord .enable (ofBitVec_low value) ?_
      intro other hother
      cases other with
      | enable => exact absurd rfl hother
      | _ => rfl
  | queue =>
    refine ⟨_, write_queueControl u value, ?_⟩
    rw [Banked.set, ← h.queue_eq, ← @and_two_pow_bne_zero _ 0x02 1 rfl,
      ← level_ofControl]
    exact h.withQueue _ _ u.received
  | status | modemStatus => exact ⟨u, write_ignored u (by simp) value, h⟩
  | control | modem | scratch =>
    refine ⟨_, write_stored u (by simp) value, h.word_setWord _ (toUInt32_and_low value) ?_,
      h.divisorLow_eq,
      h.divisorHigh_eq, h.trigger_eq, h.queue_eq, h.receiver_eq⟩
    intro other hother
    cases other <;> simp_all [Banked.set, Banked.stored, Banked.ierWord, Banked.lsr]

/-- A frame ends as the record says. -/
lemma Presents.accept (h : u.Presents a) (byte : UInt8) (stop : Bool) :
    (u.accept byte stop).2 = (a.accept byte stop).2
      ∧ (u.accept byte stop).1.Presents (a.accept byte stop).1 := by
  have hframing : ∀ ready oe fe : Bool,
      RegisterBlock.maskWord (Banked.statusWord ready oe fe) 0 framingError
        = Banked.statusWord ready oe true := by decide
  have hoverrun : ∀ ready oe fe : Bool,
      RegisterBlock.maskWord (Banked.statusWord ready oe fe) 0 overrunError
        = Banked.statusWord ready true fe := by decide
  cases stop with
  | false => exact ⟨rfl, h.withStatus (hframing _ _ _)⟩
  | true =>
    rw [Uart.accept, Banked.accept, h.queue_eq]
    by_cases hroom : a.fifo.length < 16
    · rw [if_neg (by simp), if_neg (by simpa [queueDepth] using hroom), if_pos rfl, if_pos hroom]
      refine ⟨rfl, ?_⟩
      have hqueued := h.withQueue (a.fifo ++ [byte]) u.trigger (u.received + 1)
      simpa only [h.trigger_eq] using hqueued
    · rw [if_neg (by simp), if_pos (by simpa [queueDepth] using hroom), if_pos rfl, if_neg hroom]
      exact ⟨rfl, h.withStatus (hoverrun _ _ _)⟩

/-- A clock edge does what the record says. -/
lemma Presents.clock (h : u.Presents a) (rx : Bool) :
    (u.clock rx).2 = (a.clock rx).2 ∧ (u.clock rx).1.Presents (a.clock rx).1 := by
  rw [Uart.clock, Banked.clock, isConfigured, bitCycles, h.divisor_eq, h.receiver_eq]
  by_cases hzero : a.divisor = 0
  · rw [if_neg (by simpa using hzero), if_pos hzero]
    exact ⟨rfl, h⟩
  · rw [if_pos (by simpa using hzero), if_neg hzero]
    rcases a.receiver.step (a.divisor + 1) rx with ⟨receiver, _ | ⟨byte, stop⟩⟩
    · exact ⟨rfl, h.withReceiver receiver⟩
    · exact (h.withReceiver receiver).accept byte stop

/-- Every call has the same answer, and the record goes along with it. -/
lemma alike_banked : Calls.Alike port.perform Banked.port.perform Presents := by
  intro u a call h
  cases call with
  | read offset =>
    cases hreg : Register.at? offset with
    | none =>
      simp only [UartPort.perform, port, Banked.port, hreg, read_unmapped u hreg]
      exact ⟨rfl, h⟩
    | some reg =>
      obtain ⟨u', hread, hpresents⟩ := h.read reg
      rw [Register.offset_of_at? hreg] at hread
      simp only [UartPort.perform, port, Banked.port, hreg, hread]
      exact ⟨rfl, hpresents⟩
  | write offset value =>
    cases hreg : Register.at? offset with
    | none =>
      simp only [UartPort.perform, port, Banked.port, hreg, write_unmapped u hreg]
      exact ⟨rfl, h⟩
    | some reg =>
      obtain ⟨u', hwrite, hpresents⟩ := h.write value reg
      rw [Register.offset_of_at? hreg] at hwrite
      simp only [UartPort.perform, port, Banked.port, hreg, hwrite]
      exact ⟨rfl, hpresents⟩
  | clock rx =>
    obtain ⟨hbyte, hpresents⟩ := h.clock rx
    exact ⟨congrArg UartAnswer.received hbyte, hpresents⟩
  | reset => exact ⟨rfl, presents_cleared u.sent u.received⟩

/-- Only a read of received data and one of the line status change anything. -/
lemma eq_of_read {offset : ℕ} (hdata : offset = dataOffset → u.divisorShown = true)
    (hstatus : offset ≠ statusOffset) : (u.read offset).2 = u := by
  rcases u.read_inv offset with ⟨hoffset, hshown, -⟩ | ⟨hoffset, -⟩ | hsame
  · rw [hdata hoffset] at hshown
    cases hshown
  · exact absurd hoffset hstatus
  · exact hsame

end Uart

/-! ## The record in terms of the calls -/

namespace Banked

open Uart (Register)

/-- The registers that keep what is written to them. -/
inductive Setting where
  | ier
  | lcr
  | mcr
  | scr
  | dll
  | dlm

/-- The register that a setting is written through. -/
def Setting.register : Setting → Register
  | .ier | .dlm => .enable
  | .lcr => .control
  | .mcr => .modem
  | .scr => .scratch
  | .dll => .data

/-- Whether a setting is there while the latch is open or closed. -/
def Setting.isThere (latch : Bool) : Setting → Bool
  | .dll | .dlm => latch
  | .ier => !latch
  | .lcr | .mcr | .scr => true

/-- How many bits are kept. -/
def Setting.width : Setting → ℕ
  | .ier => 4
  | .lcr | .mcr | .scr | .dll | .dlm => 8

/-- What is kept. -/
def kept (a : Banked) : Setting → ℕ
  | .ier => a.ier.toNat
  | .lcr => a.lcr.toNat
  | .mcr => a.mcr.toNat
  | .scr => a.scr.toNat
  | .dll => a.dll.toNat
  | .dlm => a.dlm.toNat

/-- The value that was last written to a setting while it was there, or zero if there is none since
the last reset.  The calls stand newest first.  The latch is open if bit 7 of what was last written
to the line control register is set. -/
def lastWritten : List UartCall → Setting → UInt32
  | [], _ | .reset :: _, _ => 0
  | .write offset value :: past, s =>
    if offset = s.register.offset ∧ s.isThere ((lastWritten past .lcr).toNat.testBit 7) then value
    else lastWritten past s
  | .read _ :: past, s | .clock _ :: past, s => lastWritten past s

/-- The value that was last written to the queue control, in the same way. -/
def lastControl : List UartCall → UInt32
  | [] | .reset :: _ => 0
  | .write offset value :: past => if offset = 0x08 then value else lastControl past
  | .read _ :: past | .clock _ :: past => lastControl past

variable (a : Banked)

lemma kept_get (reg : Register) (s : Setting) : (a.get reg).2.kept s = a.kept s := by
  cases reg with
  | data =>
    rw [get]
    split_ifs
    · rfl
    · cases s <;> rfl
  | status => cases s <;> rfl
  | _ => rfl

lemma kept_clock (rx : Bool) (s : Setting) : (a.clock rx).1.kept s = a.kept s := by
  rw [clock]
  split_ifs
  · rfl
  · rcases a.receiver.step (a.divisor + 1) rx with ⟨receiver, _ | ⟨byte, stop⟩⟩
    · cases s <;> rfl
    · simp only [accept]
      split_ifs <;> cases s <;> rfl

lemma kept_set (value : UInt32) (reg : Register) (s : Setting) :
    (a.set value reg).kept s
      = if reg = s.register ∧ s.isThere a.latch then value.toNat % 2 ^ s.width else a.kept s := by
  cases hlatch : a.latch <;> cases reg <;> cases s <;>
    simp [set, kept, Setting.register, Setting.isThere, Setting.width, hlatch]

/-- The latch, from what was last written to the line control register. -/
lemma latch_eq {value : UInt32} (h : a.kept .lcr = value.toNat % 2 ^ 8) :
    a.latch = value.toNat.testBit 7 := by
  have hlcr : a.lcr.toNat = value.toNat % 2 ^ 8 := h
  rw [latch, hlcr, Nat.testBit_mod_two_pow]
  rfl

/-- A setting keeps the low bits of what was last written to it, call after call. -/
lemma kept_perform {a : Banked} {past : List UartCall} (call : UartCall)
    (h : ∀ s, a.kept s = (lastWritten past s).toNat % 2 ^ s.width) (s : Setting) :
    (port.perform a call).2.kept s = (lastWritten (call :: past) s).toNat % 2 ^ s.width := by
  cases call with
  | read offset =>
    rw [lastWritten, ← h]
    cases hreg : Register.at? offset with
    | none => simp only [UartPort.perform, port, hreg, Access.refused]
    | some reg =>
      simp only [UartPort.perform, port, hreg]
      exact a.kept_get reg s
  | write offset value =>
    rw [lastWritten, ← latch_eq a (h .lcr)]
    cases hreg : Register.at? offset with
    | none =>
      rw [if_neg fun hthere => WordMap.ne_offset_of_find? hreg s.register hthere.1, ← h]
      simp only [UartPort.perform, port, hreg, Access.refused]
    | some reg =>
      have hsame : offset = s.register.offset ↔ reg = s.register := by
        rw [← Register.offset_of_at? hreg]
        exact ⟨fun hoffset => Register.offset_injective hoffset, congrArg Register.offset⟩
      simp only [UartPort.perform, port, hreg, Access.done, a.kept_set, hsame]
      split_ifs
      · rfl
      · exact h s
  | clock rx =>
    rw [lastWritten, ← h]
    exact a.kept_clock rx s
  | reset => cases s <;> rfl

lemma trigger_clock (rx : Bool) : (a.clock rx).1.trigger = a.trigger := by
  rw [clock]
  split_ifs
  · rfl
  · rcases a.receiver.step (a.divisor + 1) rx with ⟨receiver, _ | ⟨byte, stop⟩⟩
    · rfl
    · simp only [accept]
      split_ifs <;> rfl

lemma trigger_get (reg : Register) : (a.get reg).2.trigger = a.trigger := by
  cases reg with
  | data =>
    rw [get]
    split_ifs <;> rfl
  | _ => rfl

lemma trigger_set (value : UInt32) (reg : Register) :
    (a.set value reg).trigger = if reg = .queue then triggerOf value else a.trigger := by
  cases reg with
  | data | enable =>
    rw [if_neg (by simp), set]
    split_ifs <;> rfl
  | _ => rfl

/-- What raises an interrupt is what was last written to the queue control, call after call. -/
lemma trigger_perform {a : Banked} {past : List UartCall} (call : UartCall)
    (h : a.trigger = triggerOf (lastControl past)) :
    (port.perform a call).2.trigger = triggerOf (lastControl (call :: past)) := by
  cases call with
  | read offset =>
    rw [lastControl, ← h]
    cases hreg : Register.at? offset with
    | none => simp only [UartPort.perform, port, hreg, Access.refused]
    | some reg =>
      simp only [UartPort.perform, port, hreg]
      exact a.trigger_get reg
  | write offset value =>
    rw [lastControl]
    cases hreg : Register.at? offset with
    | none =>
      rw [if_neg (show offset ≠ 0x08 from WordMap.ne_offset_of_find? hreg .queue), ← h]
      simp only [UartPort.perform, port, hreg, Access.refused]
    | some reg =>
      have hsame : offset = 0x08 ↔ reg = .queue := by
        rw [← Register.offset_of_at? hreg]
        exact ⟨fun hoffset => Register.offset_injective hoffset, congrArg Register.offset⟩
      simp only [UartPort.perform, port, hreg, Access.done, a.trigger_set, hsame, h]
      split_ifs <;> rfl
  | clock rx => exact (a.trigger_clock rx).trans h
  | reset => exact (by decide : 1 = triggerOf 0)

/-- A call leaves the line errors alone; or it is a clock edge and clears none; or it is a read of
the line status or a reset and clears both. -/
lemma errors_perform (call : UartCall) :
    ((port.perform a call).2.fe = a.fe ∧ (port.perform a call).2.oe = a.oe)
      ∨ ((∃ rx, call = .clock rx) ∧ (a.fe = true → (port.perform a call).2.fe = true)
          ∧ (a.oe = true → (port.perform a call).2.oe = true))
      ∨ ((call = .read 0x14 ∨ call = .reset) ∧ (port.perform a call).2.fe = false
          ∧ (port.perform a call).2.oe = false) := by
  cases call with
  | read offset =>
    cases hreg : Register.at? offset with
    | none =>
      simp only [UartPort.perform, port, hreg]
      exact .inl ⟨rfl, rfl⟩
    | some reg =>
      have hoffset := Register.offset_of_at? hreg
      simp only [UartPort.perform, port, hreg]
      cases reg with
      | status => exact .inr (.inr ⟨.inl (congrArg _ hoffset.symm), rfl, rfl⟩)
      | data =>
        rw [get]
        split_ifs <;> exact .inl ⟨rfl, rfl⟩
      | _ => exact .inl ⟨rfl, rfl⟩
  | write offset value =>
    refine .inl ?_
    cases hreg : Register.at? offset with
    | none =>
      simp only [UartPort.perform, port, hreg]
      exact ⟨rfl, rfl⟩
    | some reg =>
      simp only [UartPort.perform, port, hreg]
      cases reg with
      | data | enable =>
        rw [set]
        split_ifs <;> exact ⟨rfl, rfl⟩
      | _ => exact ⟨rfl, rfl⟩
  | clock rx =>
    refine .inr (.inl ⟨⟨rx, rfl⟩, ?_⟩)
    show (a.fe = true → (a.clock rx).1.fe = true) ∧ (a.oe = true → (a.clock rx).1.oe = true)
    rw [clock]
    split_ifs
    · exact ⟨id, id⟩
    · rcases a.receiver.step (a.divisor + 1) rx with ⟨receiver, _ | ⟨byte, stop⟩⟩
      · exact ⟨id, id⟩
      · simp only [accept]
        split_ifs <;> simp
  | reset => exact .inr (.inr ⟨.inr rfl, rfl, rfl⟩)

lemma iir_eq_iff : a.iir = 0xC1 ↔ (a.dataInterrupt || a.errorInterrupt) = false := by
  rw [iir]
  cases a.errorInterrupt <;> cases a.dataInterrupt <;> decide

end Banked

namespace Uart

/-- **The UART is the device of its manual.**  After any calls to a new UART it answers every call
like the record that went through the same calls, and interrupts when the record does.  The record
keeps the low bits of what was last written to each setting since the last reset, in its own bank,
and the bytes that raise an interrupt are 1, 4, 8 or 14 by bits 7 and 6 of what was last written to
the queue control.  Line errors come from clock edges only, and only a read of the line status and a
reset clear them.  The modem status is zero, the line status is worked out from the queue and the
errors, and the interrupt identification says that there is none exactly when the UART does not
interrupt.  At any other offset a read or a write is refused and changes nothing, and only reads of
received data and of the line status change anything. -/
theorem behaves_as_banked (calls : List UartCall) :
    let u := port.after initial calls
    let a := Banked.port.after {} calls
    (∀ call, (port.perform u call).1 = (Banked.port.perform a call).1)
      ∧ u.interrupting = (a.dataInterrupt || a.errorInterrupt)
      ∧ (∀ s : Banked.Setting,
          a.kept s = (Banked.lastWritten calls.reverse s).toNat % 2 ^ s.width)
      ∧ a.latch = (Banked.lastWritten calls.reverse .lcr).toNat.testBit 7
      ∧ a.trigger = Banked.triggerOf (Banked.lastControl calls.reverse)
      ∧ (∀ call, let a' := (Banked.port.perform a call).2
          (a'.fe = a.fe ∧ a'.oe = a.oe)
            ∨ ((∃ rx, call = .clock rx) ∧ (a.fe = true → a'.fe = true)
                ∧ (a.oe = true → a'.oe = true))
            ∨ ((call = .read 0x14 ∨ call = .reset) ∧ a'.fe = false ∧ a'.oe = false))
      ∧ u.read 0x18 = (.ok 0, u)
      ∧ (u.read 0x14).1 = .ok a.lsr
      ∧ u.read 0x08 = (.ok a.iir, u)
      ∧ (a.iir = 0xC1 ↔ u.interrupting = false)
      ∧ (∀ offset, offset ∉ [0x00, 0x04, 0x08, 0x0C, 0x10, 0x14, 0x18, 0x1C] →
          u.read offset = (.error (.unmapped offset), u)
            ∧ ∀ value, u.write offset value = (.error (.unmapped offset), u))
      ∧ (∀ offset, (offset = 0x00 → a.latch = true) → offset ≠ 0x14 → (u.read offset).2 = u) := by
  intro u a
  have h : u.Presents a := (alike_banked.calls (presents_cleared 0 0) calls).2
  have hinterrupting : u.interrupting = (a.dataInterrupt || a.errorInterrupt) := by
    rw [interrupting, h.dataInterrupt_eq, h.errorInterrupt_eq]
  have hkept : ∀ s, a.kept s = (Banked.lastWritten calls.reverse s).toNat % 2 ^ s.width :=
    Calls.after_follows
      (P := fun past (a : Banked) =>
        ∀ s, a.kept s = (Banked.lastWritten past s).toNat % 2 ^ s.width)
      (fun s => by cases s <;> rfl) (fun _ _ call => Banked.kept_perform call) calls
  have htrigger : a.trigger = Banked.triggerOf (Banked.lastControl calls.reverse) :=
    Calls.after_follows
      (P := fun past (a : Banked) => a.trigger = Banked.triggerOf (Banked.lastControl past))
      (by decide) (fun _ _ call => Banked.trigger_perform call) calls
  refine ⟨fun call => (alike_banked u a call h).1, hinterrupting, hkept, a.latch_eq (hkept .lcr),
    htrigger, a.errors_perform, ?_, ?_, ?_, ?_, ?_, ?_⟩
  · have hread : u.read Register.modemStatus.offset = _ := read_stored u (by simp)
    rw [h.word_eq] at hread
    exact hread
  · obtain ⟨u', hread, -⟩ := h.read .status
    exact congrArg Prod.fst hread
  · rw [← h.cause_eq]
    exact u.read_cause
  · rw [hinterrupting]
    exact a.iir_eq_iff
  · intro offset hoffset
    have hunmapped := Register.at?_eq_none_iff.mpr hoffset
    exact ⟨read_unmapped u hunmapped, write_unmapped u hunmapped⟩
  · intro offset hdata hstatus
    refine eq_of_read (fun hoffset => ?_) hstatus
    rw [h.divisorShown_eq]
    exact hdata hoffset

/-- Bits are of two clock edges, and four bytes are to interrupt; then some frames arrive. -/
def fourByteTrigger (frames : ℕ) : List UartCall :=
  [.write 0x0C 0x80, .write 0x00 0x01, .write 0x0C 0x03, .write 0x08 0x40, .write 0x04 0x01]
    ++ (List.replicate frames ((frameWave 2 0xA5).map UartCall.clock)).flatten

/-- The fourth byte is the one that interrupts. -/
theorem behaves_as_banked_fourByteTrigger :
    let u := fun frames => port.after initial (fourByteTrigger frames)
    (u 3).read 0x08 = (.ok 0xC1, u 3) ∧ (u 3).interrupting = false
      ∧ (u 4).read 0x08 = (.ok 0xC4, u 4) ∧ (u 4).interrupting = true
      ∧ ((u 4).read 0x14).1 = .ok 0x61 := by
  obtain ⟨-, hthree, -, -, -, -, -, -, hiir, -⟩ := behaves_as_banked (fourByteTrigger 3)
  obtain ⟨-, hfour, -, -, -, -, -, hlsr, hiir', -⟩ := behaves_as_banked (fourByteTrigger 4)
  refine ⟨hiir.trans ?_, hthree.trans ?_, hiir'.trans ?_, hfour.trans ?_, hlsr.trans ?_⟩
  · rw [show (Banked.port.after {} (fourByteTrigger 3)).iir = 0xC1 by decide +kernel]
  · decide +kernel
  · rw [show (Banked.port.after {} (fourByteTrigger 4)).iir = 0xC4 by decide +kernel]
  · decide +kernel
  · rw [show (Banked.port.after {} (fourByteTrigger 4)).lsr = 0x61 by decide +kernel]

end Uart

end SocBench
