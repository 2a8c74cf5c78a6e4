import SocBench.Proofs.UartReception
import SocBench.Soc.Basic

/-!
# What the boot code leaves behind

The firmware programs two devices before it does anything else.  The UART ends up with the divisor
of the line rate, its data in view and an interrupt for every byte and every error
(`Uart.Programmed`), and nothing to serve yet (`Uart.Quiet`); the interrupt controller has the UART
as its only source (`Plic.Wired`).

The divisor goes in through registers that are switched out of view again afterwards, so the proofs
follow the writes one by one.  Main results: the boot code never meets a bus error, and it makes any
UART without line errors quiet (`Soc.bootUart_quiet`) and any controller wired
(`Soc.bootPlic_wired`).
-/

namespace SocBench

/-! ## The UART as the firmware programs it -/

namespace Uart

/-- The registers are as the firmware has set them: bits of `divisor + 1` edges, the receive data
in view, and interrupts for every byte and every error. -/
structure Programmed (divisor : ℕ) (u : Uart) : Prop where
  divisor_eq : u.divisor = divisor
  enable_eq : u.regs.word enableOffset = 5
  control_eq : u.regs.word controlOffset = 3
  trigger_eq : u.trigger = .one

/-- Programmed, with nothing that waits to be served. -/
structure Quiet (divisor : ℕ) (u : Uart) : Prop extends u.Programmed divisor where
  queue_eq : u.queue = []
  status_eq : u.status = transmitterEmpty

variable {d : ℕ} {u : Uart}

lemma Programmed.divisorShown (h : u.Programmed d) : u.divisorShown = false := by
  rw [Uart.divisorShown, h.control_eq]
  decide

/-- Of the registers only two count. -/
lemma Programmed.withRegs (h : u.Programmed d) {regs : RegisterBlock size}
    (henable : regs.word enableOffset = u.regs.word enableOffset)
    (hcontrol : regs.word controlOffset = u.regs.word controlOffset) :
    ({ u with regs } : Uart).Programmed d :=
  ⟨h.divisor_eq, henable.trans h.enable_eq, hcontrol.trans h.control_eq, h.trigger_eq⟩

lemma divisor_withRegs (u : Uart) (regs : RegisterBlock size) :
    ({ u with regs } : Uart).divisor = u.divisor := by
  simp only [divisor]

lemma Programmed.refreshStatus (h : u.Programmed d) : u.refreshStatus.Programmed d := by
  unfold Uart.refreshStatus
  exact h.withRegs (RegisterBlock.word_setWord_ne _ (by decide) _)
    (RegisterBlock.word_setWord_ne _ (by decide) _)

lemma Programmed.flag (h : u.Programmed d) (error : UInt32) : (u.flag error).Programmed d := by
  unfold Uart.flag
  exact h.withRegs (RegisterBlock.word_updateWord_ne _ (by decide) _ _)
    (RegisterBlock.word_updateWord_ne _ (by decide) _ _)

lemma Programmed.withReceiver (h : u.Programmed d) (r : Receiver) :
    ({ u with receiver := r } : Uart).Programmed d :=
  ⟨h.divisor_eq, h.enable_eq, h.control_eq, h.trigger_eq⟩

lemma Programmed.withQueue (h : u.Programmed d) (queue : List UInt8) :
    ({ u with queue } : Uart).Programmed d :=
  ⟨h.divisor_eq, h.enable_eq, h.control_eq, h.trigger_eq⟩

lemma status_statusRead (u : Uart) :
    u.statusRead.status = RegisterBlock.maskWord u.status lineErrors 0 :=
  RegisterBlock.word_updateWord_same _ (by decide) _ _

lemma Programmed.statusRead (h : u.Programmed d) : u.statusRead.Programmed d := by
  unfold Uart.statusRead
  exact h.withRegs (RegisterBlock.word_updateWord_ne _ (by decide) _ _)
    (RegisterBlock.word_updateWord_ne _ (by decide) _ _)

/-! ### Its interrupt -/

lemma Programmed.interrupting_eq (h : u.Programmed d) :
    u.interrupting = (!u.queue.isEmpty || u.status &&& lineErrors != 0) := by
  have hdata : u.dataInterrupt = !u.queue.isEmpty := by
    have hbit : ((5 : UInt32) &&& 0x01 != 0) = true := by decide
    rw [dataInterrupt, h.enable_eq, h.trigger_eq, hbit]
    cases u.queue <;> simp [Trigger.level]
  have herror : u.errorInterrupt = (u.status &&& lineErrors != 0) := by
    have hbit : ((5 : UInt32) &&& 0x04 != 0) = true := by decide
    rw [errorInterrupt, h.enable_eq, hbit, Bool.true_and]
  rw [interrupting, hdata, herror]

lemma Quiet.withReceiver (h : u.Quiet d) (r : Receiver) :
    ({ u with receiver := r } : Uart).Quiet d :=
  ⟨h.toProgrammed.withReceiver r, h.queue_eq, h.status_eq⟩

/-- A programmed UART with a real divisor understands the line. -/
lemma Quiet.listening (h : u.Quiet d) (hd : 1 ≤ d) : u.Listening (d + 1) := by
  refine ⟨by omega, by rw [h.divisor_eq]; rfl, h.toProgrammed.divisorShown, ?_, ?_⟩
  · rw [h.queue_eq]
    decide
  · rw [h.status_eq]
    decide

/-! ### Programming it -/

lemma status_refreshStatus_nil (hqueue : u.queue = []) (hclean : u.status &&& lineErrors = 0) :
    u.refreshStatus.status = transmitterEmpty := by
  rw [status_refreshStatus, hclean, hqueue]
  decide

/-- Clearing the queue through its control word. -/
lemma write_queue (hclean : u.status &&& lineErrors = 0) (value : UInt32)
    (hclear : (value &&& 0x02 != 0) = true) :
    ∃ v : Uart, u.write queueOffset value = .done () v ∧ v.divisor = u.divisor
      ∧ v.receiver = u.receiver ∧ v.queue = [] ∧ v.trigger = .ofControl value
      ∧ v.status = transmitterEmpty
      ∧ v.regs.word controlOffset = u.regs.word controlOffset := by
  let w : Uart := { u with queue := [], trigger := .ofControl value }
  refine ⟨w.refreshStatus, ?_, ?_, by simp [w], by simp [w], by simp [w],
    status_refreshStatus_nil rfl hclean, word_refreshStatus w (by decide)⟩
  · rw [write_queueControl, hclear]
    rfl
  · rw [divisor_refreshStatus]
    simp only [divisor, w]

/-- A number of 16 bits goes into the divisor in two bytes. -/
lemma divisor_bytes (hd : d ≤ 65535) :
    (UInt32.ofNat (d % 256)).toUInt8.toNat + 256 * (UInt32.ofNat (d / 256)).toUInt8.toNat = d := by
  have hlow : d % 256 < 256 := Nat.mod_lt d (by norm_num)
  have hhigh : d / 256 < 256 := by omega
  rw [UInt32.toNat_toUInt8, UInt32.toNat_toUInt8, UInt32.toNat_ofNat', UInt32.toNat_ofNat']
  omega

end Uart

/-- The second half of the boot code, once the divisor is set: the queue is cleared, the divisor
goes out of view, and the interrupts are enabled. -/
lemma Soc.arm_quiet {d : ℕ} {u : Uart} (hdivisor : u.divisor = d)
    (hclean : u.status &&& Uart.lineErrors = 0) :
    ∃ v : Uart, ((u.write Uart.queueOffset 0xC6).andThen fun _ u =>
        (u.write Uart.controlOffset 0x03).andThen fun _ u =>
        (u.write Uart.queueOffset 0x06).andThen fun _ u =>
        u.write Uart.enableOffset 0x05) = .done () v ∧ v.Quiet d ∧ v.receiver = u.receiver := by
  obtain ⟨cleared, hwrite, hdiv, hreceiver, hqueue, -, hstatus, -⟩ :=
    Uart.write_queue hclean 0xC6 (by decide)
  -- the control word between the two writes to the queue takes the divisor out of view
  let hidden : Uart := { cleared with regs := cleared.regs.setWord Uart.controlOffset 3 }
  have hhidden : hidden.status = Uart.transmitterEmpty :=
    (RegisterBlock.word_setWord_ne _ (by decide) _).trans hstatus
  obtain ⟨served, hwrite', hdiv', hreceiver', hqueue', htrigger', hstatus', hcontrol'⟩ :=
    Uart.write_queue (u := hidden) (by rw [hhidden]; decide) 0x06 (by decide)
  have hcontrol : served.regs.word Uart.controlOffset = 3 :=
    hcontrol'.trans (RegisterBlock.word_setWord_same _ (by decide) _)
  have hshown : served.divisorShown = false := by
    rw [Uart.divisorShown, hcontrol]
    decide
  refine ⟨{ served with regs := served.regs.setWord Uart.enableOffset 5 }, ?_,
    ⟨⟨?_, ?_, ?_, htrigger'⟩, hqueue', ?_⟩, hreceiver'.trans hreceiver⟩
  · have hcontrol : cleared.write Uart.controlOffset 0x03 = .done () hidden :=
      Uart.write_stored cleared (.inl rfl) 0x03
    rw [hwrite, Access.done_andThen, hcontrol, Access.done_andThen, hwrite', Access.done_andThen]
    exact Uart.write_enable hshown 5
  · rw [Uart.divisor_withRegs, hdiv', Uart.divisor_withRegs, hdiv, hdivisor]
  · exact RegisterBlock.word_setWord_same _ (by decide) _
  · exact (RegisterBlock.word_setWord_ne _ (by decide) _).trans hcontrol
  · exact (RegisterBlock.word_setWord_ne _ (by decide) _).trans hstatus'

/-- The boot code programs any UART that shows no line error, and does not touch its receiver. -/
lemma Soc.bootUart_quiet {d : ℕ} {u : Uart} (hd : d ≤ 65535)
    (hclean : u.status &&& Uart.lineErrors = 0) :
    ∃ v : Uart, Soc.bootUart d u = .done () v ∧ v.Quiet d ∧ v.receiver = u.receiver := by
  -- the divisor is brought into view and written in two bytes, the high one first
  let shown : Uart := { u with regs := u.regs.setWord Uart.controlOffset 0x80 }
  let half : Uart := { shown with divisorHigh := (UInt32.ofNat (d / 256)).toUInt8 }
  let full : Uart := { half with divisorLow := (UInt32.ofNat (d % 256)).toUInt8 }
  have hcontrol : u.write Uart.controlOffset 0x80 = .done () shown :=
    Uart.write_stored u (.inl rfl) 0x80
  have hshown : shown.divisorShown = true := by
    rw [Uart.divisorShown, RegisterBlock.word_setWord_same _ (by decide)]
    decide
  have hstatus : full.status &&& Uart.lineErrors = 0 := by
    rw [Uart.status, RegisterBlock.word_setWord_ne _ (by decide)]
    exact hclean
  obtain ⟨v, hv, hquiet, hreceiver⟩ :=
    Soc.arm_quiet (u := full) (d := d) (Uart.divisor_bytes hd) hstatus
  refine ⟨v, ?_, hquiet, hreceiver⟩
  rw [Soc.bootUart, hcontrol, Access.done_andThen, Uart.write_divisorHigh hshown,
    Access.done_andThen, Uart.write_divisorLow (u := half) hshown, Access.done_andThen]
  exact hv

/-! ## The interrupt controller as the firmware programs it -/

namespace Plic

/-- The UART is the only enabled source, and its vector is set. -/
structure Wired (p : Plic) : Prop where
  vector_eq : p.vector .uart0 = Soc.uartVector
  enable_eq : p.regs.word enableOffset = sourceBit .uart0

variable {p : Plic}

lemma Wired.isEnabled (h : p.Wired) (s : Source) : p.isEnabled s = decide (s = .uart0) := by
  rw [Plic.isEnabled, h.enable_eq]
  cases s <;> decide

/-- So it is selected whenever its line is high, and nothing else ever is. -/
lemma Wired.choose (h : p.Wired) :
    p.choose = if p.isPending .uart0 then some .uart0 else none := by
  cases hpending : p.isPending .uart0 <;>
    simp [Plic.choose, Source.all, better, h.isEnabled, hpending]

lemma Wired.setLine (h : p.Wired) (s : Source) (level : Bool) : (p.setLine s level).Wired :=
  ⟨h.vector_eq, h.enable_eq⟩

lemma isPending_setLine (p : Plic) (s t : Source) (level : Bool) :
    (p.setLine s level).isPending t = if t = s then level else p.isPending t := by
  have hlt : s.id < sources := by cases s <;> decide
  have hid : s.id = t.id ↔ t = s := by cases s <;> cases t <;> decide
  rw [isPending, Plic.setLine, Vector.getElem?_setIfInBounds, isPending]
  by_cases hsame : t = s
  · rw [if_pos hsame, if_pos (hid.mpr hsame), if_pos hlt, Option.getD_some]
  · rw [if_neg hsame, if_neg (mt hid.mp hsame)]

/-- What is latched does not get in the way of the tables. -/
lemma word_update (p : Plic) {offset : ℕ}
    (h : offset + 4 ≤ vectorOffset ∨ argumentOffset + 4 ≤ offset) :
    p.update.regs.word offset = p.regs.word offset := by
  have hfar : (offset + 4 ≤ argumentOffset ∨ argumentOffset + 4 ≤ offset)
      ∧ (offset + 4 ≤ vectorOffset ∨ vectorOffset + 4 ≤ offset) := by
    simp only [vectorOffset, argumentOffset] at h ⊢
    omega
  simp only [update]
  rw [RegisterBlock.word_setWord_ne _ hfar.1, RegisterBlock.word_setWord_ne _ hfar.2]

lemma Wired.update (h : p.Wired) : p.update.Wired :=
  ⟨(word_update p (by decide)).trans h.vector_eq, (word_update p (by decide)).trans h.enable_eq⟩

lemma Wired.read_vector (h : p.Wired) (hchoose : p.choose = some .uart0) :
    p.update.read .word vectorOffset = .ok Soc.uartVector.toNat := by
  have hword : p.update.regs.word vectorOffset = Soc.uartVector := by
    simp only [Plic.update, hchoose, Option.elim_some, h.vector_eq]
    rw [RegisterBlock.word_setWord_ne _ (by decide), RegisterBlock.word_setWord_same _ (by decide)]
  rw [Plic.read, if_pos (by decide), RegisterBlock.read_word _ (by decide) (by decide), hword]

lemma writeWord_eq (p : Plic) (offset : ℕ) (hmapped : isMapped .word offset = true)
    (hlatch : ¬ (offset = vectorOffset ∨ offset = argumentOffset)) (halign : offset % 4 = 0)
    (hsize : offset + 4 ≤ size) (value : UInt32) :
    p.writeWord offset value
      = .done () { p with
          regs := p.regs.setWord offset
            (if offset = enableOffset then value &&& 0x7FF else value) } := by
  rw [writeWord, if_pos hmapped, if_neg hlatch]
  simp only [RegisterBlock.write_word _ halign hsize]
  rfl

lemma writeByte_eq (p : Plic) (offset : ℕ) (hmapped : isMapped .byte offset = true)
    (hsize : offset + 1 ≤ size) (value : UInt8) :
    p.writeByte offset value = .done () { p with regs := p.regs.setByte offset value } := by
  rw [writeByte, if_pos hmapped, RegisterBlock.write_byte _ hsize]
  rfl

end Plic

/-- The boot code sets the vector of the UART and enables it. -/
lemma Soc.bootPlic_wired (p : Plic) : ∃ q : Plic, Soc.bootPlic p = .done () q ∧ q.Wired := by
  let vectored := p.regs.setWord (Plic.vectorTable + 4 * Plic.Source.uart0.id) Soc.uartVector
  let argued := vectored.setWord (Plic.argumentTable + 4 * Plic.Source.uart0.id) 0
  let ranked := argued.setByte (Plic.priorityTable + Plic.Source.uart0.id) 1
  let enabled := ranked.setWord Plic.enableOffset (Plic.sourceBit .uart0)
  refine ⟨{ p with regs := enabled }, ?_, ⟨?_, ?_⟩⟩
  · unfold Soc.bootPlic
    simp only [Plic.writeWord_eq _ (Plic.vectorTable + 4 * Plic.Source.uart0.id)
        (by decide) (by decide) (by decide) (by decide),
      Plic.writeWord_eq _ (Plic.argumentTable + 4 * Plic.Source.uart0.id)
        (by decide) (by decide) (by decide) (by decide),
      Plic.writeByte_eq _ (Plic.priorityTable + Plic.Source.uart0.id) (by decide) (by decide),
      Plic.writeWord_eq _ Plic.enableOffset (by decide) (by decide) (by decide) (by decide),
      Access.done_andThen]
    rfl
  · show enabled.word (Plic.vectorTable + 4 * Plic.Source.uart0.id) = Soc.uartVector
    rw [RegisterBlock.word_setWord_ne _ (by decide), RegisterBlock.word_setByte_ne _ (by decide),
      RegisterBlock.word_setWord_ne _ (by decide), RegisterBlock.word_setWord_same _ (by decide)]
  · exact RegisterBlock.word_setWord_same _ (by decide) _

end SocBench
