import SocBench.Proofs.WordMap
import SocBench.Uart.Basic

/-!
# The registers of the UART, one by one

The bus finds eight words in a UART.  For each of them there is a lemma that says what a read gives
and leaves, and one for a write; the first two words have a second one for the divisor, which takes
their place while bit 7 of the line control word is set.  At any other offset an access is refused
and changes nothing (`Uart.read_unmapped`, `Uart.write_unmapped`).

Everything else about the bus goes through these lemmas.  Which reads change the UART at all is
`Uart.read_inv`.
-/

namespace SocBench

namespace Uart

/-- The eight words that a UART shows. -/
inductive Register where
  | data
  | enable
  | queue
  | control
  | modem
  | status
  | modemStatus
  | scratch
  deriving DecidableEq

/-- Where a register stands. -/
def Register.offset : Register → ℕ
  | .data => 0x00
  | .enable => 0x04
  | .queue => 0x08
  | .control => 0x0C
  | .modem => 0x10
  | .status => 0x14
  | .modemStatus => 0x18
  | .scratch => 0x1C

/-- All registers, in their order. -/
def Register.all : List Register :=
  [.data, .enable, .queue, .control, .modem, .status, .modemStatus, .scratch]

lemma Register.mem_all (reg : Register) : reg ∈ all := by
  cases reg <;> simp [all]

lemma Register.offset_injective : Function.Injective Register.offset := by
  intro reg reg' h
  cases reg <;> cases reg' <;> first | rfl | cases h

lemma Register.offset_mod (reg : Register) : reg.offset % 4 = 0 := by
  cases reg <;> rfl

lemma Register.offset_le (reg : Register) : reg.offset + 4 ≤ size := by
  cases reg <;> decide

/-- The words of a UART. -/
def registers : WordMap size Register where
  offset := Register.offset
  all := Register.all
  mem_all := Register.mem_all
  injective := Register.offset_injective
  aligned := Register.offset_mod
  fits := Register.offset_le

/-- The register that stands at an offset. -/
def Register.at? (offset : ℕ) : Option Register :=
  registers.find? offset

lemma Register.offset_of_at? {offset : ℕ} {reg : Register} (h : at? offset = some reg) :
    reg.offset = offset :=
  WordMap.offset_of_find? h

lemma Register.at?_eq_none_iff {offset : ℕ} :
    at? offset = none ↔ offset ∉ [0x00, 0x04, 0x08, 0x0C, 0x10, 0x14, 0x18, 0x1C] :=
  WordMap.find?_eq_none_iff

/-! ## What the status does not touch -/

@[simp] lemma queue_refreshStatus (u : Uart) : u.refreshStatus.queue = u.queue := by
  simp only [refreshStatus]

@[simp] lemma trigger_refreshStatus (u : Uart) : u.refreshStatus.trigger = u.trigger := by
  simp only [refreshStatus]

@[simp] lemma receiver_refreshStatus (u : Uart) : u.refreshStatus.receiver = u.receiver := by
  simp only [refreshStatus]

@[simp] lemma sent_refreshStatus (u : Uart) : u.refreshStatus.sent = u.sent := by
  simp only [refreshStatus]

@[simp] lemma received_refreshStatus (u : Uart) : u.refreshStatus.received = u.received := by
  simp only [refreshStatus]

@[simp] lemma queue_flag (u : Uart) (error : UInt32) : (u.flag error).queue = u.queue := by
  simp only [flag]

@[simp] lemma receiver_flag (u : Uart) (error : UInt32) : (u.flag error).receiver = u.receiver := by
  simp only [flag]

@[simp] lemma sent_flag (u : Uart) (error : UInt32) : (u.flag error).sent = u.sent := by
  simp only [flag]

@[simp] lemma received_flag (u : Uart) (error : UInt32) : (u.flag error).received = u.received := by
  simp only [flag]

variable {u : Uart}

/-! ## Reads -/

/-- The UART after its receive data was read: the first byte is off the queue. -/
def dataRead (u : Uart) : Uart :=
  refreshStatus { u with queue := u.queue.tail }

/-- The UART after its line status was read: the errors are cleared. -/
def statusRead (u : Uart) : Uart :=
  { u with regs := u.regs.updateWord statusOffset lineErrors 0 }

@[simp] lemma queue_statusRead (u : Uart) : u.statusRead.queue = u.queue := by
  simp only [statusRead]

@[simp] lemma receiver_statusRead (u : Uart) : u.statusRead.receiver = u.receiver := by
  simp only [statusRead]

@[simp] lemma sent_statusRead (u : Uart) : u.statusRead.sent = u.sent := by
  simp only [statusRead]

@[simp] lemma received_statusRead (u : Uart) : u.statusRead.received = u.received := by
  simp only [statusRead]

lemma read_data (h : u.divisorShown = false) :
    u.read dataOffset = .done (u.queue.headD 0).toUInt32 u.dataRead := by
  simp [read, h, dataRead]

lemma read_divisorLow (h : u.divisorShown = true) :
    u.read dataOffset = .done u.divisorLow.toUInt32 u := by
  simp [read, h]

lemma read_enable (h : u.divisorShown = false) :
    u.read enableOffset = .done (u.regs.word enableOffset) u := by
  simp [read, h, dataOffset, enableOffset, queueOffset, statusOffset]

lemma read_divisorHigh (h : u.divisorShown = true) :
    u.read enableOffset = .done u.divisorHigh.toUInt32 u := by
  simp [read, h, dataOffset, enableOffset]

lemma read_cause (u : Uart) : u.read queueOffset = .done u.cause u := by
  simp [read, dataOffset, enableOffset, queueOffset]

lemma read_status (u : Uart) : u.read statusOffset = .done u.status u.statusRead := by
  simp [read, statusOffset, dataOffset, enableOffset, queueOffset, statusRead]

/-- Four registers are read as they stand in the block. -/
lemma read_stored (u : Uart) {reg : Register}
    (hreg : reg = .control ∨ reg = .modem ∨ reg = .modemStatus ∨ reg = .scratch) :
    u.read reg.offset = .done (u.regs.word reg.offset) u := by
  rcases hreg with rfl | rfl | rfl | rfl <;>
    simp [read, Register.offset, dataOffset, enableOffset, queueOffset, statusOffset,
      controlOffset, modemOffset, modemStatusOffset, scratchOffset]

lemma ne_of_unmapped {offset : ℕ} (h : Register.at? offset = none) :
    offset ≠ dataOffset ∧ offset ≠ enableOffset ∧ offset ≠ queueOffset ∧ offset ≠ controlOffset
      ∧ offset ≠ modemOffset ∧ offset ≠ statusOffset ∧ offset ≠ modemStatusOffset
      ∧ offset ≠ scratchOffset :=
  have hne := WordMap.ne_offset_of_find? h
  ⟨hne .data, hne .enable, hne .queue, hne .control, hne .modem, hne .status, hne .modemStatus,
    hne .scratch⟩

/-- There is nothing to read at other offsets. -/
lemma read_unmapped (u : Uart) {offset : ℕ} (h : Register.at? offset = none) :
    u.read offset = .refused (.unmapped offset) u := by
  obtain ⟨hdata, henable, hqueue, hcontrol, hmodem, hstatus, hmodemStatus, hscratch⟩ :=
    ne_of_unmapped h
  simp [read, hdata, henable, hqueue, hcontrol, hmodem, hstatus, hmodemStatus, hscratch]

/-- A read leaves the UART as it was, unless it takes the first byte off its queue or clears its
line errors. -/
lemma read_inv (u : Uart) (offset : ℕ) :
    (offset = dataOffset ∧ u.divisorShown = false ∧ (u.read offset).2 = u.dataRead)
      ∨ (offset = statusOffset ∧ (u.read offset).2 = u.statusRead)
      ∨ (u.read offset).2 = u := by
  cases hreg : Register.at? offset with
  | none => exact .inr (.inr (by rw [read_unmapped u hreg]; rfl))
  | some reg =>
    obtain rfl := Register.offset_of_at? hreg
    cases reg with
    | data =>
      cases hshown : u.divisorShown with
      | false => exact .inl ⟨rfl, rfl, congrArg Prod.snd (read_data hshown)⟩
      | true => exact .inr (.inr (congrArg Prod.snd (read_divisorLow hshown)))
    | enable =>
      refine .inr (.inr ?_)
      cases hshown : u.divisorShown with
      | false => exact congrArg Prod.snd (read_enable hshown)
      | true => exact congrArg Prod.snd (read_divisorHigh hshown)
    | queue => exact .inr (.inr (congrArg Prod.snd u.read_cause))
    | status => exact .inr (.inl ⟨rfl, congrArg Prod.snd u.read_status⟩)
    | control | modem | modemStatus | scratch =>
      exact .inr (.inr (congrArg Prod.snd (read_stored u (by simp))))

/-! ## Writes -/

lemma write_data (h : u.divisorShown = false) (value : UInt32) :
    u.write dataOffset value = .done () { u with sent := u.sent + 1 } := by
  simp [write, h]

lemma write_divisorLow (h : u.divisorShown = true) (value : UInt32) :
    u.write dataOffset value = .done () { u with divisorLow := value.toUInt8 } := by
  simp [write, h]

lemma write_enable (h : u.divisorShown = false) (value : UInt32) :
    u.write enableOffset value
      = .done () { u with regs := u.regs.setWord enableOffset (value &&& 0x0F) } := by
  simp [write, enableOffset, dataOffset, h]

lemma write_divisorHigh (h : u.divisorShown = true) (value : UInt32) :
    u.write enableOffset value = .done () { u with divisorHigh := value.toUInt8 } := by
  simp [write, enableOffset, dataOffset, h]

lemma write_queueControl (u : Uart) (value : UInt32) :
    u.write queueOffset value = .done () (refreshStatus
      { u with
        queue := if value &&& 0x02 != 0 then [] else u.queue
        trigger := .ofControl value }) := by
  simp [write, queueOffset, dataOffset, enableOffset]

/-- Three registers are written to the block. -/
lemma write_stored (u : Uart) {reg : Register}
    (hreg : reg = .control ∨ reg = .modem ∨ reg = .scratch) (value : UInt32) :
    u.write reg.offset value
      = .done () { u with regs := u.regs.setWord reg.offset (value &&& 0xFF) } := by
  rcases hreg with rfl | rfl | rfl <;>
    simp [write, Register.offset, dataOffset, enableOffset, queueOffset, controlOffset,
      modemOffset, scratchOffset]

lemma write_ignored (u : Uart) {reg : Register} (hreg : reg = .status ∨ reg = .modemStatus)
    (value : UInt32) : u.write reg.offset value = .done () u := by
  rcases hreg with rfl | rfl <;>
    simp [write, Register.offset, dataOffset, enableOffset, queueOffset, controlOffset,
      modemOffset, scratchOffset, statusOffset, modemStatusOffset]

/-- There is nothing to write at other offsets. -/
lemma write_unmapped (u : Uart) {offset : ℕ} (h : Register.at? offset = none) (value : UInt32) :
    u.write offset value = .refused (.unmapped offset) u := by
  obtain ⟨hdata, henable, hqueue, hcontrol, hmodem, hstatus, hmodemStatus, hscratch⟩ :=
    ne_of_unmapped h
  simp [write, hdata, henable, hqueue, hcontrol, hmodem, hstatus, hmodemStatus, hscratch]

/-- A write leaves the receiver and the count of received bytes alone and sends one byte at most.
Only bit 1 of the queue control clears the queue. -/
lemma write_keeps (u : Uart) (offset : ℕ) (value : UInt32) :
    (u.write offset value).2.receiver = u.receiver
      ∧ (u.write offset value).2.received = u.received
      ∧ (u.write offset value).2.sent ≤ u.sent + 1
      ∧ (u.write offset value).2.queue
          = if offset = queueOffset ∧ value &&& 0x02 != 0 then [] else u.queue := by
  by_cases hqueue : offset = queueOffset
  · subst hqueue
    simp [write_queueControl]
  · -- no other write touches the queue
    simp only [write, hqueue, false_and, if_false]
    split_ifs <;> simp

end Uart

end SocBench
