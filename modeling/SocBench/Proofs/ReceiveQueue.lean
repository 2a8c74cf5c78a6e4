import SocBench.Proofs.BankedRegisters
import SocBench.Proofs.CallHistory
import SocBench.Proofs.FrameWaveform

/-!
# Accounts of the receive queue

Bytes come into the queue of a UART on clock edges and leave it when they are read, in any order of
the two and with any other calls between them.  Some calls that look like a read of a byte are none:
the same offset shows the divisor while it is in view, and an empty queue reads as zero.  A queue
that is full or a frame without its stop bit leaves an error in the line status instead of a byte.

`Uart.QueueStep` says once what a call can do to the queue and to the count of received bytes.  From
it follows what any calls come to: no byte that arrived is lost, repeated or reordered on its way to
the reader, unless the queue is cleared on purpose (`Uart.accounts_for_queue`).
-/

namespace SocBench

/-- The byte that a clock edge has returned. -/
def UartAnswer.byte? : UartAnswer → Option UInt8
  | .received byte => byte
  | _ => none

/-- The word that a read has returned. -/
def UartAnswer.word? : UartAnswer → Option UInt32
  | .word (.ok value) => some value
  | _ => none

namespace Uart

/-! ## What is counted -/

/-- A call that clears the queue on purpose: a reset, or a write of the queue control word with
bit 1 set. -/
def clears : UartCall → Bool
  | .reset => true
  | .write offset value => offset == 0x08 && value &&& 0x02 != 0
  | _ => false

/-- A call that takes a byte off the queue: a read of received data, with the divisor out of view,
while there is some. -/
def takes (u : Uart) : UartCall → Bool
  | .read offset => offset == 0x00 && !u.divisorShown && !u.queue.isEmpty
  | _ => false

/-- The frame that a clock edge completes: its byte and the level of its stop bit. -/
def completes (u : Uart) (rx : Bool) : Option (UInt8 × Bool) :=
  if u.isConfigured then (u.receiver.step u.bitCycles rx).2 else none

/-- The bytes that clock edges return in the course of some calls. -/
def arrivals (u : Uart) (calls : List UartCall) : List UInt8 :=
  (Calls.answers port.perform u calls).filterMap UartAnswer.byte?

/-- The words that are returned in the course of some calls by those that take a byte. -/
def takings : Uart → List UartCall → List UInt32
  | _, [] => []
  | u, call :: calls =>
    (if u.takes call then (port.perform u call).1.word?.toList else [])
      ++ takings (port.perform u call).2 calls

lemma arrivals_cons (u : Uart) (call : UartCall) (calls : List UartCall) :
    u.arrivals (call :: calls)
      = (port.perform u call).1.byte?.toList ++ (port.perform u call).2.arrivals calls := by
  rw [arrivals, Calls.answers, List.filterMap_cons]
  cases (port.perform u call).1.byte? <;> rfl

/-! ## One call -/

/-- What a call does to the queue and to the count of received bytes. -/
inductive QueueStep (u : Uart) (call : UartCall) (answer : UartAnswer) (v : Uart) : Prop
  | kept (htakes : u.takes call = false) (hbyte : answer.byte? = none)
      (hqueue : v.queue = u.queue) (hcount : v.received = u.received)
  | cleared (hclears : clears call = true) (hbyte : answer.byte? = none)
      (hqueue : v.queue = []) (hcount : v.received = u.received)
  | taken (byte : UInt8) (htakes : u.takes call = true)
      (hanswer : answer = .word (.ok byte.toUInt32)) (hqueue : u.queue = byte :: v.queue)
      (hcount : v.received = u.received)
  | arrived (byte : UInt8) (htakes : u.takes call = false)
      (hanswer : answer = .received (some byte)) (hroom : u.queue.length < 16)
      (hqueue : v.queue = u.queue ++ [byte]) (hcount : v.received = u.received + 1)

/-- A clock edge that completes no frame. -/
lemma clock_of_completes_none {u : Uart} {rx : Bool} (h : u.completes rx = none) :
    (u.clock rx).2 = none ∧ (u.clock rx).1.queue = u.queue
      ∧ (u.clock rx).1.received = u.received := by
  rw [completes] at h
  rw [clock]
  split_ifs at h ⊢ with hconfigured
  · rcases hstep : u.receiver.step u.bitCycles rx with ⟨receiver, done⟩
    rw [hstep] at h
    obtain rfl : done = none := h
    exact ⟨rfl, rfl, rfl⟩
  · exact ⟨rfl, rfl, rfl⟩

/-- A clock edge that completes a frame hands it to the queue. -/
lemma clock_of_completes_some {u : Uart} {rx stop : Bool} {byte : UInt8}
    (h : u.completes rx = some (byte, stop)) :
    ∃ w : Uart, w.queue = u.queue ∧ w.received = u.received ∧ u.clock rx = w.accept byte stop := by
  rw [completes] at h
  rw [clock]
  split_ifs at h ⊢ with hconfigured
  rcases hstep : u.receiver.step u.bitCycles rx with ⟨receiver, done⟩
  rw [hstep] at h
  obtain rfl : done = some (byte, stop) := h
  exact ⟨{ u with receiver }, rfl, rfl, rfl⟩

lemma status_flag_and (u : Uart) (error : UInt32) : (u.flag error).status &&& error = error := by
  have hmask : (u.flag error).status = (u.status &&& ~~~0) ||| error :=
    RegisterBlock.word_updateWord_same _ (by decide) _ _
  rw [hmask]
  apply UInt32.toNat_inj.1
  apply Nat.eq_of_testBit_eq
  intro i
  simp only [UInt32.toNat_and, UInt32.toNat_or, Nat.testBit_and, Nat.testBit_or]
  cases error.toNat.testBit i <;> simp

/-- A frame without its stop bit. -/
lemma clock_framing {u : Uart} {rx : Bool} {byte : UInt8}
    (h : u.completes rx = some (byte, false)) :
    (u.clock rx).2 = none ∧ (u.clock rx).1.status &&& framingError = framingError
      ∧ (u.clock rx).1.queue = u.queue ∧ (u.clock rx).1.received = u.received := by
  obtain ⟨w, hqueue, hcount, hclock⟩ := clock_of_completes_some h
  rw [hclock, accept, if_pos (by simp), queue_flag, received_flag]
  exact ⟨rfl, w.status_flag_and _, hqueue, hcount⟩

/-- A frame that finds the queue full. -/
lemma clock_overrun {u : Uart} {rx : Bool} {byte : UInt8} (h : u.completes rx = some (byte, true))
    (hfull : 16 ≤ u.queue.length) :
    (u.clock rx).2 = none ∧ (u.clock rx).1.status &&& overrunError = overrunError
      ∧ (u.clock rx).1.queue = u.queue ∧ (u.clock rx).1.received = u.received := by
  obtain ⟨w, hqueue, hcount, hclock⟩ := clock_of_completes_some h
  have hdepth : queueDepth ≤ w.queue.length := hqueue ▸ hfull
  rw [hclock, accept, if_neg (by simp), if_pos hdepth, queue_flag, received_flag]
  exact ⟨rfl, w.status_flag_and _, hqueue, hcount⟩

/-- A frame that finds room in the queue. -/
lemma clock_arrival {u : Uart} {rx : Bool} {byte : UInt8} (h : u.completes rx = some (byte, true))
    (hroom : u.queue.length < 16) :
    (u.clock rx).2 = some byte ∧ (u.clock rx).1.queue = u.queue ++ [byte]
      ∧ (u.clock rx).1.received = u.received + 1 := by
  obtain ⟨w, hqueue, hcount, hclock⟩ := clock_of_completes_some h
  have hdepth : ¬ queueDepth ≤ w.queue.length := by
    rw [hqueue]
    exact Nat.not_le.2 hroom
  rw [hclock, accept, if_neg (by simp), if_neg hdepth, queue_refreshStatus, received_refreshStatus,
    hqueue, hcount]
  exact ⟨rfl, rfl, rfl⟩

/-- What a clock edge does to the queue. -/
lemma queueStep_clock (u : Uart) (rx : Bool) :
    u.QueueStep (.clock rx) (.received (u.clock rx).2) (u.clock rx).1 := by
  cases hdone : u.completes rx with
  | none =>
    obtain ⟨hbyte, hqueue, hcount⟩ := clock_of_completes_none hdone
    exact .kept rfl hbyte hqueue hcount
  | some frame =>
    obtain ⟨byte, stop⟩ := frame
    cases stop with
    | false =>
      obtain ⟨hbyte, -, hqueue, hcount⟩ := clock_framing hdone
      exact .kept rfl hbyte hqueue hcount
    | true =>
      by_cases hroom : u.queue.length < 16
      · obtain ⟨hbyte, hqueue, hcount⟩ := clock_arrival hdone hroom
        exact .arrived byte rfl (by rw [hbyte]) hroom hqueue hcount
      · obtain ⟨hbyte, -, hqueue, hcount⟩ := clock_overrun hdone (Nat.not_lt.1 hroom)
        exact .kept rfl hbyte hqueue hcount

lemma takes_iff (u : Uart) (offset : ℕ) :
    u.takes (.read offset) = true ↔
      (offset = dataOffset ∧ u.divisorShown = false) ∧ u.queue ≠ [] := by
  simp [takes, dataOffset]

/-- What a read does to the queue. -/
lemma queueStep_read (u : Uart) (offset : ℕ) :
    u.QueueStep (.read offset) (.word (u.read offset).1) (u.read offset).2 := by
  by_cases hdata : offset = dataOffset ∧ u.divisorShown = false
  · obtain ⟨rfl, hshown⟩ := hdata
    rw [read_data hshown, Access.snd_done]
    cases hqueue : u.queue with
    | nil =>
      -- there is nothing to take, and zero is read
      refine .kept ?_ rfl ?_ ?_
      · simp [takes, hqueue]
      · simp [dataRead, hqueue]
      · simp [dataRead]
    | cons byte rest =>
      refine .taken byte ?_ ?_ ?_ ?_
      · exact (u.takes_iff _).2 ⟨⟨rfl, hshown⟩, by simp [hqueue]⟩
      · rfl
      · simp [dataRead, hqueue]
      · simp [dataRead]
  · have htakes : u.takes (.read offset) = false := by
      by_contra hne
      exact hdata ((u.takes_iff offset).1 (Bool.not_eq_false _ ▸ hne)).1
    rcases u.read_inv offset with ⟨hoffset, hshown, -⟩ | ⟨-, hread⟩ | hread
    · exact absurd ⟨hoffset, hshown⟩ hdata
    · exact .kept htakes rfl (by simp [hread]) (by simp [hread])
    · exact .kept htakes rfl (by rw [hread]) (by rw [hread])

/-- What a write does to the queue. -/
lemma queueStep_write (u : Uart) (offset : ℕ) (value : UInt32) :
    u.QueueStep (.write offset value) (.written (u.write offset value).1)
      (u.write offset value).2 := by
  obtain ⟨-, hcount, -, hqueue⟩ := u.write_keeps offset value
  by_cases hclear : offset = queueOffset ∧ (value &&& 0x02 != 0) = true
  · rw [if_pos hclear] at hqueue
    refine .cleared ?_ rfl hqueue hcount
    simpa [clears, queueOffset] using hclear
  · rw [if_neg hclear] at hqueue
    exact .kept rfl rfl hqueue hcount

/-- What any call does to the queue. -/
lemma queueStep_perform (u : Uart) (call : UartCall) :
    u.QueueStep call (port.perform u call).1 (port.perform u call).2 := by
  cases call with
  | read offset => exact u.queueStep_read offset
  | write offset value => exact u.queueStep_write offset value
  | clock rx => exact u.queueStep_clock rx
  | reset => exact .cleared rfl rfl rfl rfl

variable {u v : Uart} {call : UartCall} {answer : UartAnswer}

/-! ## What each call keeps -/

lemma QueueStep.length_le (hstep : u.QueueStep call answer v) (h : u.queue.length ≤ 16) :
    v.queue.length ≤ 16 := by
  cases hstep with
  | kept _ _ hqueue => exact hqueue ▸ h
  | cleared _ _ hqueue => simp [hqueue]
  | taken byte _ _ hqueue =>
    rw [hqueue, List.length_cons] at h
    omega
  | arrived byte _ _ hroom hqueue =>
    rw [hqueue, List.length_append, List.length_singleton]
    omega

lemma QueueStep.received_eq (hstep : u.QueueStep call answer v) :
    v.received = u.received + answer.byte?.toList.length := by
  cases hstep with
  | kept _ hbyte _ hcount | cleared _ hbyte _ hcount =>
    rw [hbyte, hcount]
    rfl
  | taken byte _ hanswer _ hcount | arrived byte _ hanswer _ _ hcount =>
    rw [hanswer, hcount]
    rfl

/-- What was in the queue and what comes in is what is taken and what stays. -/
lemma QueueStep.balance (hstep : u.QueueStep call answer v) (hclears : clears call = false) :
    (u.queue ++ answer.byte?.toList).map UInt8.toUInt32
      = (if u.takes call then answer.word?.toList else []) ++ v.queue.map UInt8.toUInt32 := by
  cases hstep with
  | kept htakes hbyte hqueue => simp [htakes, hbyte, hqueue]
  | cleared hclears' =>
    rw [hclears] at hclears'
    cases hclears'
  | taken byte htakes hanswer hqueue =>
    simp [htakes, hanswer, hqueue, UartAnswer.byte?, UartAnswer.word?]
  | arrived byte htakes hanswer _ hqueue => simp [htakes, hanswer, hqueue, UartAnswer.byte?]

/-! ## Any calls -/

lemma length_queue_after (calls : List UartCall) :
    (port.after initial calls).queue.length ≤ 16 := by
  have hstep : ∀ (u : Uart) (call : UartCall), u.queue.length ≤ 16 →
      (port.perform u call).2.queue.length ≤ 16 :=
    fun u call h => (u.queueStep_perform call).length_le h
  have hinitial : initial.queue.length ≤ 16 := by simp [initial, cleared]
  exact Calls.after_keeps hstep hinitial calls

lemma received_after (u : Uart) (calls : List UartCall) :
    (port.after u calls).received = u.received + (u.arrivals calls).length := by
  induction calls generalizing u with
  | nil => rfl
  | cons call calls ih =>
    have hstep := (u.queueStep_perform call).received_eq
    rw [arrivals_cons, List.length_append, ← Nat.add_assoc, ← hstep]
    exact ih _

/-- Over a stretch that does not clear the queue. -/
lemma balance_after (u : Uart) (calls : List UartCall)
    (hclears : ∀ call ∈ calls, clears call = false) :
    (u.queue ++ u.arrivals calls).map UInt8.toUInt32
      = u.takings calls ++ (port.after u calls).queue.map UInt8.toUInt32 := by
  induction calls generalizing u with
  | nil => simp [arrivals, Calls.answers, takings, Calls.after]
  | cons call calls ih =>
    have hstep := (u.queueStep_perform call).balance (hclears call (by simp))
    have hrest := ih (port.perform u call).2 fun c hc => hclears c (by simp [hc])
    rw [arrivals_cons, takings, ← List.append_assoc, List.map_append, hstep, List.append_assoc,
      ← List.map_append, hrest, ← List.append_assoc]
    rfl

/-- **Accounts of the receive queue.**  After any calls to a new UART its queue holds sixteen bytes
at most, and as many bytes were received as clock edges have returned, resets or not.  Over any
further calls that do not clear the queue, what was in it and what clock edges return, in this
order, is what reads of received data return and what is left.  A frame that ends well is returned,
queued and counted if there is room; if there is none, or if it has no stop bit, it leaves its error
in the line status, and neither the queue nor the count changes. -/
theorem accounts_for_queue (calls : List UartCall) :
    let u := port.after initial calls
    u.queue.length ≤ 16
      ∧ u.received = (initial.arrivals calls).length
      ∧ (∀ stretch : List UartCall, (∀ call ∈ stretch, clears call = false) →
          (u.queue ++ u.arrivals stretch).map UInt8.toUInt32
            = u.takings stretch ++ (port.after u stretch).queue.map UInt8.toUInt32)
      ∧ (∀ rx byte, u.completes rx = some (byte, true) → u.queue.length < 16 →
          (u.clock rx).2 = some byte ∧ (u.clock rx).1.queue = u.queue ++ [byte]
            ∧ (u.clock rx).1.received = u.received + 1)
      ∧ (∀ rx byte, u.completes rx = some (byte, true) → u.queue.length = 16 →
          (u.clock rx).2 = none ∧ (u.clock rx).1.status &&& 0x02 = 0x02
            ∧ (u.clock rx).1.queue = u.queue ∧ (u.clock rx).1.received = u.received)
      ∧ (∀ rx byte, u.completes rx = some (byte, false) →
          (u.clock rx).2 = none ∧ (u.clock rx).1.status &&& 0x08 = 0x08
            ∧ (u.clock rx).1.queue = u.queue ∧ (u.clock rx).1.received = u.received) := by
  intro u
  refine ⟨length_queue_after calls, ?_, u.balance_after, ?_, ?_, ?_⟩
  · rw [received_after, show initial.received = 0 from rfl, Nat.zero_add]
  · intro rx byte hdone hroom
    exact clock_arrival hdone hroom
  · intro rx byte hdone hfull
    exact clock_overrun hdone hfull.ge
  · intro rx byte hdone
    exact clock_framing hdone

/-- A divisor of one is programmed, and seventeen frames follow, up to the edge that completes the
last of them.  Nothing is read. -/
def seventeenFrames : List UartCall :=
  [.write 0x0C 0x80, .write 0x00 0x01, .write 0x0C 0x03]
    ++ (List.replicate 17 (frameWave 2 0x41)).flatten.dropLast.map .clock

/-- The seventeenth byte is lost. -/
theorem seventeenth_frame_overruns :
    let u := port.after initial seventeenFrames
    u.completes true = some (0x41, true) ∧ u.queue.length = 16
      ∧ (u.clock true).2 = none ∧ (u.clock true).1.status &&& 0x02 = 0x02
      ∧ (u.clock true).1.queue = u.queue ∧ (u.clock true).1.received = u.received := by
  have hdone : (port.after initial seventeenFrames).completes true = some (0x41, true) := by
    decide +kernel
  have hfull : (port.after initial seventeenFrames).queue.length = 16 := by
    decide +kernel
  have hoverrun := (accounts_for_queue seventeenFrames).2.2.2.2.1 true 0x41 hdone hfull
  exact ⟨hdone, hfull, hoverrun⟩

end Uart

end SocBench
