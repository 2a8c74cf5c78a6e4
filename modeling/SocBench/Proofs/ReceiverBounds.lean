import SocBench.Proofs.BankedRegisters
import SocBench.Proofs.CallHistory

/-!
# The receiver while the divisor changes under it

The receiver compares its count of edges with a limit that is worked out anew on every edge.  The
divisor may be written at any time, so the limit of an edge need not be the one that the count began
under, and a count may stand far above the present limit.  What holds is a bound over all divisors:
a count grows only below a limit, and no limit is above 65536.  `Receiver.Bounded` says so, and it
is kept by every call (`Uart.bounded_after`).

`Receiver.edgesLeft` is the number of edges after which the receiver has come to the end of its
frame, if the length of a bit stays as it is.  Every edge lowers it by one or finds that there was
no frame (`Receiver.Bounded.edgesLeft_step`).  From this follows when a receiver is idle again
(`Uart.exists_idle`).

The counts of bytes have no bound of their own; there are at most as many bytes as calls
(`Uart.counts_after`).
-/

namespace SocBench

namespace Receiver

/-- The counts, the number of a bit and the bits gathered so far are in their ranges. -/
def Bounded : Receiver → Prop
  | .idle => True
  | .start count => 1 ≤ count ∧ count ≤ 65536
  | .data bit shift count => (1 ≤ count ∧ count ≤ 65536) ∧ bit ≤ 7 ∧ shift < 2 ^ bit
  | .stop shift count => (1 ≤ count ∧ count ≤ 65536) ∧ shift < 2 ^ 8

variable {n : ℕ} {r : Receiver}

/-! ## One edge -/

/-- A sample adds one bit above those gathered so far. -/
lemma gather_lt {bit shift : ℕ} (h : shift < 2 ^ bit) (rx : Bool) :
    shift ||| (rx.toNat <<< bit) < 2 ^ (bit + 1) := by
  have hlow : shift < 2 ^ (bit + 1) :=
    h.trans (Nat.pow_lt_pow_right Nat.one_lt_two bit.lt_succ_self)
  have hlevel : rx.toNat <<< bit < 2 ^ (bit + 1) := by
    have hbool : rx.toNat < 2 := rx.toNat_lt
    rw [Nat.shiftLeft_eq, pow_succ', Nat.mul_lt_mul_right (by positivity)]
    exact hbool
  exact Nat.or_lt_two_pow hlow hlevel

/-- An edge keeps the ranges, whatever the length of a bit was before. -/
lemma Bounded.step (h : r.Bounded) (hn : n ≤ 65536) (rx : Bool) : (r.step n rx).1.Bounded := by
  cases r with
  | idle => cases rx <;> simp [Receiver.step, Bounded]
  | start count =>
    obtain ⟨hone, hmost⟩ := h
    rw [Receiver.step]
    split_ifs with hlimit hhigh
    · trivial
    · simp [Bounded]
    · exact ⟨by omega, by omega⟩
  | data bit shift count =>
    obtain ⟨⟨hone, hmost⟩, hbit, hshift⟩ := h
    have hgather := gather_lt hshift rx
    rw [Receiver.step]
    split_ifs with hlimit hlast
    · subst hlast
      exact ⟨by omega, hgather⟩
    · exact ⟨by omega, by omega, hgather⟩
    · exact ⟨by omega, hbit, hshift⟩
  | stop shift count =>
    obtain ⟨⟨hone, hmost⟩, hshift⟩ := h
    rw [Receiver.step]
    split_ifs with hlimit
    · trivial
    · exact ⟨by omega, hshift⟩

/-- How many edges the end of the frame is away, with bits of `n` edges. -/
def edgesLeft (n : ℕ) : Receiver → ℕ
  | .idle => 0
  | .start count => n / 2 - count + 1 + 9 * n
  | .data bit _ count => n - count + 1 + (8 - bit) * n
  | .stop _ count => n - count + 1

lemma edgesLeft_pos (hbusy : r ≠ .idle) : 1 ≤ r.edgesLeft n := by
  cases r with
  | idle => exact absurd rfl hbusy
  | start | data | stop => rw [edgesLeft]; omega

lemma Bounded.edgesLeft_le (h : r.Bounded) (hn : 2 ≤ n) : r.edgesLeft n ≤ n / 2 + 9 * n := by
  cases r with
  | idle => exact Nat.zero_le _
  | start count =>
    have hone : 1 ≤ count := h.1
    rw [edgesLeft]
    omega
  | data bit shift count =>
    have hone : 1 ≤ count := h.1.1
    have hrest : (8 - bit) * n ≤ 8 * n := Nat.mul_le_mul_right n (by omega)
    rw [edgesLeft]
    omega
  | stop shift count =>
    have hone : 1 ≤ count := h.1.1
    rw [edgesLeft]
    omega

/-- An edge brings the end of the frame one edge closer, unless it finds that there was no frame. -/
lemma Bounded.edgesLeft_step (h : r.Bounded) (hn : 2 ≤ n) (hbusy : r ≠ .idle) (rx : Bool) :
    (r.step n rx).1 = .idle ∨ (r.step n rx).1.edgesLeft n + 1 = r.edgesLeft n := by
  cases r with
  | idle => exact absurd rfl hbusy
  | start count =>
    rw [Receiver.step]
    split_ifs with hlimit hhigh
    · exact Or.inl rfl
    · right
      simp only [edgesLeft]
      omega
    · right
      simp only [edgesLeft]
      omega
  | data bit shift count =>
    obtain ⟨-, hbit, -⟩ := h
    -- the bits that follow this one, and the stop bit
    have hrest : (8 - bit) * n = n + (7 - bit) * n := by
      rw [show 8 - bit = 7 - bit + 1 by omega, Nat.succ_mul, Nat.add_comm]
    right
    rw [Receiver.step]
    split_ifs with hlimit hlast
    · subst hlast
      simp only [edgesLeft]
      omega
    · have hnext : 8 - (bit + 1) = 7 - bit := by omega
      simp only [edgesLeft, hnext]
      omega
    · simp only [edgesLeft]
      omega
  | stop shift count =>
    rw [Receiver.step]
    split_ifs with hlimit
    · exact Or.inl rfl
    · right
      simp only [edgesLeft]
      omega

end Receiver

/-! ## Calls -/

/-- Whether a call is a clock edge. -/
def UartCall.isClock : UartCall → Bool
  | .clock _ => true
  | _ => false

/-- How many of some calls are clock edges. -/
def clockEdges (calls : List UartCall) : ℕ :=
  calls.countP UartCall.isClock

lemma clockEdges_cons (call : UartCall) (calls : List UartCall) :
    clockEdges (call :: calls) = call.isClock.toNat + clockEdges calls := by
  rw [clockEdges, List.countP_cons, Nat.add_comm, clockEdges]
  cases call.isClock <;> rfl

namespace Uart

lemma divisor_lt (u : Uart) : u.divisor < 65536 := by
  have hlow : u.divisorLow.toNat < 256 := u.divisorLow.toNat_lt
  have hhigh : u.divisorHigh.toNat < 256 := u.divisorHigh.toNat_lt
  rw [divisor]
  omega

lemma bitCycles_le (u : Uart) : u.bitCycles ≤ 65536 :=
  u.divisor_lt

/-- The receiver after a call: only clock edges move it, and a reset stops it. -/
def nextReceiver (u : Uart) : UartCall → Receiver
  | .clock rx => if u.isConfigured then (u.receiver.step u.bitCycles rx).1 else u.receiver
  | .reset => .idle
  | .read _ | .write _ _ => u.receiver

lemma receiver_accept (u : Uart) (byte : UInt8) (stop : Bool) :
    (u.accept byte stop).1.receiver = u.receiver := by
  rw [accept]
  split_ifs
  · exact receiver_flag u _
  · exact receiver_flag u _
  · exact receiver_refreshStatus _

lemma receiver_clock (u : Uart) (rx : Bool) :
    (u.clock rx).1.receiver = u.nextReceiver (.clock rx) := by
  rw [clock, nextReceiver]
  split_ifs with hconfigured
  · rcases u.receiver.step u.bitCycles rx with ⟨receiver, _ | ⟨byte, stop⟩⟩
    · rfl
    · exact receiver_accept _ byte stop
  · rfl

lemma receiver_perform (u : Uart) (call : UartCall) :
    (port.perform u call).2.receiver = u.nextReceiver call := by
  cases call with
  | read offset =>
    show (u.read offset).2.receiver = u.receiver
    rcases u.read_inv offset with ⟨-, -, hread⟩ | ⟨-, hread⟩ | hread <;> rw [hread]
    · exact receiver_refreshStatus _
    · exact receiver_statusRead u
  | write offset value => exact (u.write_keeps offset value).1
  | clock rx => exact u.receiver_clock rx
  | reset => exact receiver_refreshStatus _

/-- A call sends or receives one byte at most. -/
lemma counts_perform (u : Uart) (call : UartCall) :
    (port.perform u call).2.sent + (port.perform u call).2.received
      ≤ u.sent + u.received + 1 := by
  cases call with
  | read offset =>
    show (u.read offset).2.sent + (u.read offset).2.received ≤ _
    rcases u.read_inv offset with ⟨-, -, hread⟩ | ⟨-, hread⟩ | hread <;> rw [hread]
    · simp [dataRead]
    · simp
    · exact Nat.le_succ _
  | write offset value =>
    obtain ⟨-, hreceived, hsent, -⟩ := u.write_keeps offset value
    show (u.write offset value).2.sent + (u.write offset value).2.received ≤ _
    omega
  | clock rx =>
    have haccept : ∀ (v : Uart) (byte : UInt8) (stop : Bool),
        (v.accept byte stop).1.sent + (v.accept byte stop).1.received
          ≤ v.sent + v.received + 1 := by
      intro v byte stop
      rw [accept]
      split_ifs
      · simp
      · simp
      · simp only [sent_refreshStatus, received_refreshStatus]
        omega
    show (u.clock rx).1.sent + (u.clock rx).1.received ≤ _
    rw [clock]
    split_ifs
    · rcases u.receiver.step u.bitCycles rx with ⟨receiver, _ | ⟨byte, stop⟩⟩
      · exact Nat.le_succ _
      · exact haccept _ byte stop
    · exact Nat.le_succ _
  | reset =>
    show (cleared u.sent u.received).sent + (cleared u.sent u.received).received ≤ _
    simp [cleared]

/-! ## Any calls -/

lemma bounded_perform (u : Uart) (call : UartCall) (h : u.receiver.Bounded) :
    (port.perform u call).2.receiver.Bounded := by
  rw [receiver_perform]
  cases call with
  | read | write => exact h
  | reset => trivial
  | clock rx =>
    rw [nextReceiver]
    split_ifs
    · exact h.step u.bitCycles_le rx
    · exact h

/-- After any calls to a new UART the receiver is within its bounds. -/
lemma bounded_after (calls : List UartCall) : (port.after initial calls).receiver.Bounded := by
  have hinitial : initial.receiver.Bounded := by
    rw [initial, cleared, receiver_refreshStatus]
    trivial
  exact Calls.after_keeps bounded_perform hinitial calls

/-- Not more bytes are sent and received than there are calls. -/
lemma counts_after (calls : List UartCall) :
    (port.after initial calls).sent + (port.after initial calls).received ≤ calls.length := by
  rw [← List.length_reverse]
  refine Calls.after_follows (P := fun past (u : Uart) => u.sent + u.received ≤ past.length)
    (by simp [initial, cleared]) ?_ calls
  intro past u call h
  have hstep := u.counts_perform call
  rw [List.length_cons]
  omega

/-- A call that leaves the receiver busy brings the end of its frame closer by the edge that it is,
if it is one. -/
lemma edgesLeft_perform {d : ℕ} (hd : d ≠ 0) {u : Uart} (hdivisor : u.divisor = d)
    (h : u.receiver.Bounded) (hbusy : u.receiver ≠ .idle) (call : UartCall) :
    (port.perform u call).2.receiver = .idle
      ∨ (port.perform u call).2.receiver.edgesLeft (d + 1) + call.isClock.toNat
          = u.receiver.edgesLeft (d + 1) := by
  have hconfigured : u.isConfigured = true := by simpa [isConfigured, hdivisor] using hd
  rw [receiver_perform]
  cases call with
  | read | write => exact Or.inr rfl
  | reset => exact Or.inl rfl
  | clock rx =>
    rw [nextReceiver, if_pos hconfigured, bitCycles, hdivisor]
    exact h.edgesLeft_step (by omega) hbusy rx

/-- While the divisor stays the same, the receiver is idle after as many clock edges as the end of
its frame is away, or before, whatever other calls are made between them. -/
lemma exists_idle {d : ℕ} (hd : d ≠ 0) {u : Uart} (h : u.receiver.Bounded) {calls : List UartCall}
    (hsame : ∀ p, p <+: calls → (port.after u p).divisor = d)
    (hedges : u.receiver.edgesLeft (d + 1) ≤ clockEdges calls) :
    ∃ p, p <+: calls ∧ clockEdges p ≤ u.receiver.edgesLeft (d + 1)
      ∧ (port.after u p).receiver = .idle := by
  induction calls generalizing u with
  | nil =>
    refine ⟨[], List.nil_prefix, Nat.zero_le _, ?_⟩
    by_contra hbusy
    have hpos := Receiver.edgesLeft_pos (n := d + 1) hbusy
    exact absurd (hpos.trans hedges) (by decide)
  | cons call rest ih =>
    by_cases hbusy : u.receiver = .idle
    · exact ⟨[], List.nil_prefix, Nat.zero_le _, hbusy⟩
    have hdivisor : u.divisor = d := hsame [] List.nil_prefix
    rw [clockEdges_cons] at hedges
    rcases edgesLeft_perform hd hdivisor h hbusy call with hidle | hleft
    · refine ⟨[call], by simp, ?_, hidle⟩
      have hpos := Receiver.edgesLeft_pos (n := d + 1) hbusy
      have hone : call.isClock.toNat ≤ 1 := Bool.toNat_le _
      rw [clockEdges_cons]
      exact hone.trans hpos
    · have hrest : ∀ p, p <+: rest → (port.after (port.perform u call).2 p).divisor = d := by
        intro p hp
        exact hsame (call :: p) (List.cons_prefix_cons.mpr ⟨rfl, hp⟩)
      obtain ⟨p, hp, hcount, hlast⟩ := ih (u.bounded_perform call h) hrest (by omega)
      refine ⟨call :: p, List.cons_prefix_cons.mpr ⟨rfl, hp⟩, ?_, hlast⟩
      rw [clockEdges_cons]
      omega

end Uart

end SocBench
