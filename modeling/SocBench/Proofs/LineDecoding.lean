import SocBench.Proofs.UartReception

/-!
# The receiver as a decoder of waveforms

The receiver counts edges; a reader of a recorded waveform would not.  Such a reader looks for the
first low level, looks again half a bit later, and if the line is still low it takes its eight data
bits and the stop bit at fixed distances from there.  `decode` is that reader.  It is given
absolute positions only, goes on behind the last level it has used, and lists every event with its
edge.

The main result (`Uart.clock_decodes`) says that the UART does the same on every waveform, whatever
noise, breaks and frames at a wrong rate are on it: the edges on which it returns a byte or flags a
framing error are those that the decoder lists.  The proof goes from one scan position to the next,
and between them it uses the state of the receiver within a frame, `Receiver.within`.
-/

namespace SocBench

/-! ## The decoder -/

/-- What a frame on the line comes to. -/
inductive FrameOutcome where
  | byte (value : UInt8)
  | framingError
  deriving DecidableEq

/-- The first low level at or after the edge `t`, among the edges before `stop`. -/
def firstLow (s : ℕ → Bool) (stop t : ℕ) : Option ℕ :=
  (List.range' t (stop - t)).find? fun k => !s k

lemma firstLow_eq_some {s : ℕ → Bool} {stop t t₀ : ℕ} (h : firstLow s stop t = some t₀) :
    t ≤ t₀ ∧ t₀ < stop ∧ s t₀ = false ∧ ∀ k, t ≤ k → k < t₀ → s k = true := by
  rw [firstLow, List.find?_range'_eq_some] at h
  obtain ⟨hlow, hmem, hbefore⟩ := h
  rw [List.mem_range'_1] at hmem
  refine ⟨hmem.1, by omega, by simpa using hlow, ?_⟩
  intro k hk hlt
  simpa using hbefore k hk hlt

lemma firstLow_eq_none {s : ℕ → Bool} {stop t : ℕ} (h : firstLow s stop t = none) {k : ℕ}
    (hk : t ≤ k) (hstop : k < stop) : s k = true := by
  rw [firstLow, List.find?_range'_eq_none] at h
  simpa using h k hk (by omega)

/-- The frame that begins at the edge `t₀`: the eight data bits stand a bit apart from the middle of
the start bit on, and without a stop bit behind them it is an error. -/
def frameAt (n : ℕ) (s : ℕ → Bool) (t₀ : ℕ) : FrameOutcome :=
  if s (t₀ + n / 2 + 9 * n) then
    .byte (UInt8.ofNat (Nat.ofBits fun i : Fin 8 => s (t₀ + n / 2 + (i + 1) * n)))
  else .framingError

/-- Reads a waveform from the edge `t` on, with bits of `n` edges.  The result has the events at
edges before `stop`, each with its edge.  A low level that does not last for half a bit is no start
bit, and the search goes on behind it. -/
def decode (n : ℕ) (s : ℕ → Bool) (stop t : ℕ) : List (ℕ × FrameOutcome) :=
  match h : firstLow s stop t with
  | none => []
  | some t₀ =>
    have : t ≤ t₀ ∧ t₀ < stop := ⟨(firstLow_eq_some h).1, (firstLow_eq_some h).2.1⟩
    if s (t₀ + n / 2) then decode n s stop (t₀ + n / 2 + 1)
    else if t₀ + n / 2 + 9 * n < stop then
      (t₀ + n / 2 + 9 * n, frameAt n s t₀) :: decode n s stop (t₀ + n / 2 + 9 * n + 1)
    else []
termination_by stop - t

section Decoder

variable {n stop t t₀ : ℕ} {s : ℕ → Bool}

lemma decode_of_silent (h : firstLow s stop t = none) : decode n s stop t = [] := by
  rw [decode]
  split
  · rfl
  · simp_all

lemma decode_of_low (h : firstLow s stop t = some t₀) :
    decode n s stop t = if s (t₀ + n / 2) then decode n s stop (t₀ + n / 2 + 1)
      else if t₀ + n / 2 + 9 * n < stop then
        (t₀ + n / 2 + 9 * n, frameAt n s t₀) :: decode n s stop (t₀ + n / 2 + 9 * n + 1)
      else [] := by
  rw [decode]
  split
  · simp_all
  · simp_all

/-- The events come in the order of their edges, none before the edge where the search began and
none after the last one. -/
lemma decode_sorted (n : ℕ) (s : ℕ → Bool) (stop t : ℕ) :
    (decode n s stop t).Pairwise (fun x y => x.1 < y.1)
      ∧ ∀ x ∈ decode n s stop t, t ≤ x.1 ∧ x.1 < stop := by
  induction t using decode.induct n s stop with
  | case1 t h =>
    rw [decode_of_silent h]
    simp
  | case2 t t₀ h hrange hhigh ih =>
    rw [decode_of_low h, if_pos hhigh]
    refine ⟨ih.1, ?_⟩
    intro x hx
    have := ih.2 x hx
    omega
  | case3 t t₀ h hrange hlow hstop ih =>
    rw [decode_of_low h, if_neg hlow, if_pos hstop]
    constructor
    · rw [List.pairwise_cons]
      refine ⟨?_, ih.1⟩
      intro x hx
      have := ih.2 x hx
      show t₀ + n / 2 + 9 * n < x.1
      omega
    · intro x hx
      rcases List.mem_cons.mp hx with rfl | hx
      · exact ⟨by show t ≤ t₀ + n / 2 + 9 * n; omega, hstop⟩
      · have := ih.2 x hx
        omega
  | case4 t t₀ h hrange hlow hstop =>
    rw [decode_of_low h, if_neg hlow, if_neg hstop]
    simp

/-- Nothing is listed for an edge before the one where the search began. -/
lemma lookup_decode_of_lt {k : ℕ} (h : k < t) : (decode n s stop t).lookup k = none := by
  rw [List.lookup_eq_none_iff]
  intro x hx
  have hne : k ≠ x.1 := by
    have := ((decode_sorted n s stop t).2 x hx).1
    omega
  simpa using hne

end Decoder

/-! ## The receiver on a waveform -/

/-- What the end of a frame comes to, by its byte and the level of its stop bit. -/
def FrameOutcome.ofEnd (frame : UInt8 × Bool) : FrameOutcome :=
  if frame.2 then .byte frame.1 else .framingError

namespace Receiver

/-- The receiver along the first `len` edges of a waveform. -/
def RunsOn (n : ℕ) (s : ℕ → Bool) (len : ℕ) (r : ℕ → Receiver) : Prop :=
  ∀ k < len, r (k + 1) = (step n (r k) (s k)).1

/-- What happens on an edge of the waveform. -/
def eventAt (n : ℕ) (s : ℕ → Bool) (r : ℕ → Receiver) (k : ℕ) : Option FrameOutcome :=
  (step n (r k) (s k)).2.map FrameOutcome.ofEnd

variable {n len t t₀ : ℕ} {s : ℕ → Bool} {r : ℕ → Receiver}

lemma eventAt_of_step {r' : Receiver} {outcome : Option (UInt8 × Bool)} {k : ℕ}
    (h : step n (r k) (s k) = (r', outcome)) :
    eventAt n s r k = outcome.map FrameOutcome.ofEnd := by
  rw [eventAt, h]

/-- On a high line an idle receiver stays idle. -/
lemma RunsOn.idle_of_high (hrun : RunsOn n s len r) (hidle : r t = .idle) {k : ℕ} (hk : t ≤ k)
    (hlen : k ≤ len) (hhigh : ∀ i, t ≤ i → i < k → s i = true) : r k = .idle := by
  induction k, hk using Nat.le_induction with
  | base => exact hidle
  | succ k hk ih =>
    have hidle' := ih (by omega) (fun i hi hlt => hhigh i hi (by omega))
    rw [hrun k (by omega), hidle', hhigh k hk (by omega)]
    rfl

lemma RunsOn.eventAt_of_high (hrun : RunsOn n s len r) (hidle : r t = .idle) {k : ℕ} (hk : t ≤ k)
    (hlen : k ≤ len) (hhigh : ∀ i, t ≤ i → i < k → s i = true) : eventAt n s r k = none := by
  rw [eventAt, hrun.idle_of_high hidle hk hlen hhigh, step]
  rfl

@[simp] lemma sampleEdge_zero (n : ℕ) : sampleEdge n 0 = n / 2 := by
  rw [sampleEdge, Nat.zero_mul, Nat.add_zero]

/-- From the edge that found the line low, up to the last sample of the frame. -/
lemma RunsOn.within_of_low (hrun : RunsOn n s len r) (hn : 2 ≤ n) (hidle : r t₀ = .idle)
    (hlow : s t₀ = false) {m : ℕ} (hstart : n / 2 < m → s (t₀ + n / 2) = false)
    (hm : m ≤ sampleEdge n 9) (hlen : t₀ + m ≤ len) :
    r (t₀ + m) = within n (fun i => s (t₀ + i)) m := by
  induction m with
  | zero => exact hidle
  | succ m ih =>
    have hbefore := ih (fun hlt => hstart (by omega)) (by omega) (by omega)
    have hstep := step_within (s := fun i => s (t₀ + i)) hn hlow (m := m)
      (fun hle => by rw [sampleEdge_zero] at hle ⊢; exact hstart (by omega)) (by omega)
    rw [← Nat.add_assoc, hrun (t₀ + m) (by omega), hbefore, hstep]

/-- Within a frame nothing comes out before its last sample. -/
lemma RunsOn.eventAt_within (hrun : RunsOn n s len r) (hn : 2 ≤ n) (hidle : r t₀ = .idle)
    (hlow : s t₀ = false) {m : ℕ} (hstart : n / 2 ≤ m → s (t₀ + n / 2) = false)
    (hm : m < sampleEdge n 9) (hlen : t₀ + m ≤ len) : eventAt n s r (t₀ + m) = none := by
  have hstep := step_within (s := fun i => s (t₀ + i)) hn hlow (m := m)
    (fun hle => by rw [sampleEdge_zero] at hle ⊢; exact hstart hle) hm
  rw [← hrun.within_of_low hn hidle hlow (fun hlt => hstart hlt.le) hm.le hlen] at hstep
  exact eventAt_of_step hstep

/-- A low level that is over when the start bit is looked at again has no effect. -/
lemma RunsOn.glitch (hrun : RunsOn n s len r) (hn : 2 ≤ n) (hidle : r t₀ = .idle)
    (hlow : s t₀ = false) (hhigh : s (t₀ + n / 2) = true) :
    (∀ k, t₀ ≤ k → k ≤ t₀ + n / 2 → k < len → eventAt n s r k = none)
      ∧ (t₀ + n / 2 < len → r (t₀ + n / 2 + 1) = .idle) := by
  have hle : n / 2 ≤ sampleEdge n 9 := by simp [sampleEdge]
  have hlook : t₀ + n / 2 < len → step n (r (t₀ + n / 2)) (s (t₀ + n / 2)) = (.idle, none) := by
    intro hlen
    have hwithin := hrun.within_of_low hn hidle hlow (m := n / 2)
      (fun hlt => absurd hlt (lt_irrefl _)) hle hlen.le
    have hglitch := step_within_glitch (s := fun i => s (t₀ + i)) hn
    rw [sampleEdge_zero] at hglitch
    rw [hwithin, hhigh, hglitch]
  constructor
  · intro k hk hkn hlen
    obtain ⟨m, rfl⟩ := Nat.exists_eq_add_of_le hk
    rcases Nat.lt_or_ge m (n / 2) with hlt | hge
    · exact hrun.eventAt_within hn hidle hlow (fun h => absurd h (by omega)) (by omega) hlen.le
    · have heq : m = n / 2 := by omega
      subst heq
      exact eventAt_of_step (hlook hlen)
  · intro hlen
    rw [hrun _ hlen, hlook hlen]

/-- A low pulse of at most half a bit, with at least as long a high level after it. -/
lemma RunsOn.pulse (hrun : RunsOn n s len r) (hn : 2 ≤ n) (hidle : r t₀ = .idle) {p : ℕ}
    (hpos : 0 < p) (hp : p ≤ n / 2) (hlen : t₀ + p + n / 2 ≤ len)
    (hlow : ∀ k, t₀ ≤ k → k < t₀ + p → s k = false)
    (hhigh : ∀ k, t₀ + p ≤ k → k < t₀ + p + n / 2 → s k = true) :
    (∀ k, t₀ ≤ k → k < t₀ + p + n / 2 → eventAt n s r k = none)
      ∧ r (t₀ + p + n / 2) = .idle := by
  obtain ⟨hnone, hnext⟩ := hrun.glitch hn hidle (hlow t₀ le_rfl (by omega))
    (hhigh (t₀ + n / 2) (by omega) (by omega))
  have hidle' := hnext (by omega)
  constructor
  · intro k hk hlt
    rcases Nat.lt_or_ge (t₀ + n / 2) k with hafter | hle
    · exact hrun.eventAt_of_high hidle' hafter (by omega)
        (fun i hi hik => hhigh i (by omega) (by omega))
    · exact hnone k hk hle (by omega)
  · exact hrun.idle_of_high hidle' (by omega) hlen (fun i hi hlt => hhigh i (by omega) hlt)

/-- The bits of the byte that the receiver has gathered are the samples of the decoder. -/
lemma gathered_eq_ofBits (n : ℕ) (s : ℕ → Bool) (t₀ : ℕ) :
    gathered n (fun i => s (t₀ + i)) 8
      = Nat.ofBits fun i : Fin 8 => s (t₀ + n / 2 + (i + 1) * n) := by
  refine Nat.eq_of_testBit_eq fun j => ?_
  rw [testBit_gathered]
  by_cases hj : j < 8
  · rw [decide_eq_true hj, Bool.true_and, Nat.testBit_ofBits_lt _ j hj, sampleEdge, ← Nat.add_assoc]
  · rw [decide_eq_false hj, Bool.false_and, Nat.testBit_ofBits_ge _ j (by omega)]

/-- A frame comes out at its last sample, and leaves the receiver idle. -/
lemma RunsOn.frame (hrun : RunsOn n s len r) (hn : 2 ≤ n) (hidle : r t₀ = .idle)
    (hlow : s t₀ = false) (hstart : s (t₀ + n / 2) = false)
    (hlen : t₀ + n / 2 + 9 * n < len) :
    eventAt n s r (t₀ + n / 2 + 9 * n) = some (frameAt n s t₀)
      ∧ r (t₀ + n / 2 + 9 * n + 1) = .idle := by
  have hedge : t₀ + n / 2 + 9 * n = t₀ + sampleEdge n 9 := by rw [sampleEdge, Nat.add_assoc]
  have hwithin := hrun.within_of_low hn hidle hlow (m := sampleEdge n 9) (fun _ => hstart) le_rfl
    (by omega)
  have hstep := step_within_end (s := fun i => s (t₀ + i)) hn (s (t₀ + n / 2 + 9 * n))
  rw [← hwithin, ← hedge] at hstep
  constructor
  · rw [eventAt_of_step hstep, gathered_eq_ofBits]
    rfl
  · rw [hrun _ hlen, hstep]

/-- **The receiver is a decoder.**  From any edge that finds it idle, what happens on the edges of
the waveform is what the decoder lists for them. -/
lemma RunsOn.eventAt_eq_decode (hrun : RunsOn n s len r) (hn : 2 ≤ n)
    (hidle : t ≤ len → r t = .idle)
    {k : ℕ} (hk : t ≤ k) (hlen : k < len) :
    eventAt n s r k = (decode n s len t).lookup k := by
  -- the induction follows the decoder from one scan position to the next
  induction t using decode.induct n s len with
  | case1 t h =>
    rw [decode_of_silent h]
    exact hrun.eventAt_of_high (hidle (by omega)) hk hlen.le
      (fun i hi hlt => firstLow_eq_none h hi (by omega))
  | case2 t t₀ h hrange hhigh ih =>
    obtain ⟨-, -, hlow, hbefore⟩ := firstLow_eq_some h
    have hidle₀ := hrun.idle_of_high (hidle (by omega)) hrange.1 (by omega) hbefore
    obtain ⟨hnone, hnext⟩ := hrun.glitch hn hidle₀ hlow hhigh
    rw [decode_of_low h, if_pos hhigh]
    rcases Nat.lt_or_ge (t₀ + n / 2) k with hafter | hle
    · exact ih (fun hle => hnext (by omega)) hafter
    · rw [lookup_decode_of_lt (by omega)]
      rcases Nat.lt_or_ge k t₀ with hlt | hge
      · exact hrun.eventAt_of_high (hidle (by omega)) hk hlen.le
          (fun i hi hik => hbefore i hi (by omega))
      · exact hnone k hge hle hlen
  | case3 t t₀ h hrange hlow' hstop ih =>
    obtain ⟨-, -, hlow, hbefore⟩ := firstLow_eq_some h
    have hstart : s (t₀ + n / 2) = false := by simpa using hlow'
    have hidle₀ := hrun.idle_of_high (hidle (by omega)) hrange.1 (by omega) hbefore
    obtain ⟨hevent, hnext⟩ := hrun.frame hn hidle₀ hlow hstart hstop
    rw [decode_of_low h, if_neg hlow', if_pos hstop, List.lookup_cons]
    rcases Nat.lt_trichotomy k (t₀ + n / 2 + 9 * n) with hlt | rfl | hgt
    · have hne : (k == t₀ + n / 2 + 9 * n) = false := by simpa using hlt.ne
      rw [hne, lookup_decode_of_lt (by omega)]
      rcases Nat.lt_or_ge k t₀ with hlt₀ | hge
      · exact hrun.eventAt_of_high (hidle (by omega)) hk hlen.le
          (fun i hi hik => hbefore i hi (by omega))
      · obtain ⟨m, rfl⟩ := Nat.exists_eq_add_of_le hge
        exact hrun.eventAt_within hn hidle₀ hlow (fun _ => hstart)
          (by rw [sampleEdge]; omega) hlen.le
    · rw [hevent, beq_self_eq_true]
    · have hne : (k == t₀ + n / 2 + 9 * n) = false := by simpa using hgt.ne'
      rw [hne]
      exact ih (fun _ => hnext) hgt
  | case4 t t₀ h hrange hlow' hstop =>
    obtain ⟨-, -, hlow, hbefore⟩ := firstLow_eq_some h
    have hstart : s (t₀ + n / 2) = false := by simpa using hlow'
    rw [decode_of_low h, if_neg hlow', if_neg hstop]
    rcases Nat.lt_or_ge k t₀ with hlt₀ | hge
    · exact hrun.eventAt_of_high (hidle (by omega)) hk hlen.le
        (fun i hi hik => hbefore i hi (by omega))
    · have hidle₀ := hrun.idle_of_high (hidle (by omega)) hrange.1 (by omega) hbefore
      obtain ⟨m, rfl⟩ := Nat.exists_eq_add_of_le hge
      exact hrun.eventAt_within hn hidle₀ hlow (fun _ => hstart)
        (by rw [sampleEdge]; omega) hlen.le

end Receiver

/-! ## The UART on a waveform -/

namespace Uart

/-- The byte that is returned when a frame ends so. -/
def returnedFor : Option FrameOutcome → Option UInt8
  | some (.byte value) => some value
  | _ => none

/-- The line error that is flagged when a frame ends so. -/
def flaggedFor : Option FrameOutcome → UInt32
  | some .framingError => framingError
  | _ => 0

/-- All that an edge shows of the line is this event: the byte that is returned, and the error that
is flagged beside those flagged before. -/
structure Shows (u : Uart) (rx : Bool) (event : Option FrameOutcome) : Prop where
  returned : (u.clock rx).2 = returnedFor event
  flagged : (u.clock rx).1.status &&& lineErrors = (u.status &&& lineErrors) ||| flaggedFor event

/-- The register reads that the bus makes between two edges. -/
def ReadsTo : Uart → Uart → Prop :=
  Relation.ReflTransGen fun u v => ∃ offset, (u.read offset).2 = v

/-- A UART along the first `len` edges of a waveform, `u k` before the edge `k`.  Nothing is written
to it between the edges, and after a byte was returned its queue is read until it is empty. -/
structure Tended (s : ℕ → Bool) (len : ℕ) (u : ℕ → Uart) : Prop where
  reads : ∀ k < len, ReadsTo ((u k).clock (s k)).1 (u (k + 1))
  drained : ∀ k < len, ((u k).clock (s k)).2.isSome → (u (k + 1)).queue = []

/-! ### One edge -/

variable {n : ℕ} {u : Uart}

lemma divisorShown_flag (u : Uart) (error : UInt32) :
    (u.flag error).divisorShown = u.divisorShown := by
  have hword : (u.flag error).regs.word controlOffset = u.regs.word controlOffset :=
    RegisterBlock.word_updateWord_ne _ (by decide) _ _
  rw [divisorShown, divisorShown, hword]

lemma accept_queues (u : Uart) (byte : UInt8) (stop : Bool) :
    (u.accept byte stop).1.queue = u.queue ++ (u.accept byte stop).2.toList
      ∧ (u.accept byte stop).1.received = u.received + (u.accept byte stop).2.toList.length := by
  unfold accept
  split_ifs with hstop hfull
  · simp [flag]
  · simp [flag]
  · simp [refreshStatus]

/-- A byte that is returned is queued and counted, and nothing else is. -/
lemma clock_queues (u : Uart) (rx : Bool) :
    (u.clock rx).1.queue = u.queue ++ (u.clock rx).2.toList
      ∧ (u.clock rx).1.received = u.received + (u.clock rx).2.toList.length := by
  unfold Uart.clock
  split
  case isTrue =>
    rcases u.receiver.step u.bitCycles rx with ⟨r, _ | ⟨byte, stop⟩⟩
    · simp
    · exact accept_queues { u with receiver := r } byte stop
  case isFalse => simp

/-- A UART that is set up for bits of `n` edges and has room for a byte. -/
structure Ready (n : ℕ) (u : Uart) : Prop where
  divisor_eq : u.divisor = n - 1
  room : u.queue.length < queueDepth

/-- An edge moves the receiver, and shows what comes out of it. -/
lemma Ready.clock (h : u.Ready n) (hn : 2 ≤ n) (rx : Bool) :
    (u.clock rx).1.receiver = (u.receiver.step n rx).1
      ∧ u.Shows rx ((u.receiver.step n rx).2.map FrameOutcome.ofEnd)
      ∧ (u.clock rx).1.divisor = n - 1
      ∧ (u.clock rx).1.divisorShown = u.divisorShown := by
  have hbit : u.bitCycles = n := by
    rw [bitCycles, h.divisor_eq]
    omega
  have hon : u.isConfigured = true := by
    rw [isConfigured, h.divisor_eq, bne_iff_ne]
    omega
  obtain ⟨r, outcome, hstep⟩ : ∃ r outcome, u.receiver.step n rx = (r, outcome) := ⟨_, _, rfl⟩
  rcases outcome with _ | ⟨byte, _ | _⟩
  · have hclock : u.clock rx = ({ u with receiver := r }, none) := by
      rw [Uart.clock, if_pos hon, hbit, hstep]
    rw [hstep, hclock]
    refine ⟨rfl, ⟨by rw [hclock]; rfl, ?_⟩, h.divisor_eq, rfl⟩
    rw [hclock]
    exact UInt32.or_zero.symm
  · obtain ⟨w, hw⟩ : ∃ w : Uart, { u with receiver := r } = w := ⟨_, rfl⟩
    have hclock : u.clock rx = (w.flag framingError, none) := by
      rw [Uart.clock, if_pos hon, hbit, hstep, ← hw]
      rfl
    have hreceiver : (w.flag framingError).receiver = r := by simp only [← hw, flag]
    have hregs : w.regs = u.regs := by rw [← hw]
    have hdivisor : (w.flag framingError).divisor = u.divisor := by simp only [← hw, flag, divisor]
    have hshown : w.divisorShown = u.divisorShown := by simp only [divisorShown, hregs]
    have hstatus : w.status = u.status := by simp only [status, hregs]
    rw [hstep, hclock]
    refine ⟨hreceiver, ⟨by rw [hclock]; rfl, ?_⟩,
      hdivisor.trans h.divisor_eq, (divisorShown_flag w _).trans hshown⟩
    rw [hclock, ← hstatus]
    exact lineErrors_flag w framingError
  · obtain ⟨w, hw⟩ : ∃ w : Uart,
        { u with receiver := r, queue := u.queue ++ [byte], received := u.received + 1 } = w :=
      ⟨_, rfl⟩
    have hclock : u.clock rx = (w.refreshStatus, some byte) := by
      rw [Uart.clock, if_pos hon, hbit, hstep]
      simp only [accept, Bool.not_true, Bool.false_eq_true, if_false,
        if_neg (by simpa using h.room : ¬ queueDepth ≤ u.queue.length), hw]
    have hreceiver : w.receiver = r := by rw [← hw]
    have hregs : w.regs = u.regs := by rw [← hw]
    have hdivisor : w.divisor = u.divisor := by simp only [← hw, divisor]
    have hshown : w.divisorShown = u.divisorShown := by simp only [divisorShown, hregs]
    have hstatus : w.status = u.status := by simp only [status, hregs]
    rw [hstep, hclock]
    refine ⟨(receiver_refreshStatus w).trans hreceiver, ⟨by rw [hclock]; rfl, ?_⟩,
      (divisor_refreshStatus w).trans (hdivisor.trans h.divisor_eq),
      (divisorShown_refreshStatus w).trans hshown⟩
    rw [hclock]
    exact (lineErrors_refreshStatus w).trans (hstatus ▸ UInt32.or_zero.symm)

/-! ### Reads between two edges -/

/-- Reads do not touch the receiver and its divisor, and only take bytes off the queue. -/
lemma ReadsTo.keeps {v : Uart} (h : ReadsTo u v) :
    v.receiver = u.receiver ∧ v.divisor = u.divisor ∧ v.queue.length ≤ u.queue.length := by
  induction h with
  | refl => exact ⟨rfl, rfl, le_rfl⟩
  | @tail v w _ hread ih =>
    obtain ⟨offset, rfl⟩ := hread
    obtain ⟨hreceiver, hdivisor, hqueue⟩ := ih
    rcases v.read_inv offset with ⟨-, -, heq⟩ | ⟨-, heq⟩ | heq <;> rw [heq]
    · refine ⟨(receiver_refreshStatus _).trans hreceiver, (divisor_refreshStatus _).trans hdivisor,
        ?_⟩
      rw [dataRead, queue_refreshStatus, List.length_tail]
      omega
    · refine ⟨hreceiver, ?_, hqueue⟩
      rw [← hdivisor]
      simp only [statusRead, divisor]
    · exact ⟨hreceiver, hdivisor, hqueue⟩

section Run

variable {s : ℕ → Bool} {len : ℕ} {u : ℕ → Uart}

/-- There is always room for the next byte. -/
lemma Tended.ready (h : Tended s len u) (hn : 2 ≤ n) (hready : (u 0).Ready n) {k : ℕ}
    (hk : k ≤ len) : (u k).Ready n := by
  induction k with
  | zero => exact hready
  | succ k ih =>
    obtain ⟨-, -, hdivisor, -⟩ := (ih (by omega)).clock hn (s k)
    obtain ⟨-, hdivisor', hqueue'⟩ := (h.reads k hk).keeps
    refine ⟨hdivisor'.trans hdivisor, ?_⟩
    rcases hreturned : ((u k).clock (s k)).2 with _ | byte
    · rw [((u k).clock_queues (s k)).1, hreturned, Option.toList_none, List.append_nil] at hqueue'
      exact lt_of_le_of_lt hqueue' (ih (by omega)).room
    · rw [h.drained k hk (by rw [hreturned]; rfl)]
      decide

/-- The receiver of a UART that is tended runs on the waveform. -/
lemma Tended.runsOn (h : Tended s len u) (hn : 2 ≤ n) (hready : (u 0).Ready n) :
    Receiver.RunsOn n s len fun k => (u k).receiver := by
  intro k hk
  obtain ⟨hreceiver, -⟩ := (h.ready hn hready hk.le).clock hn (s k)
  exact (h.reads k hk).keeps.1.trans hreceiver

lemma Tended.shows (h : Tended s len u) (hn : 2 ≤ n) (hready : (u 0).Ready n) {k : ℕ}
    (hk : k < len) :
    (u k).Shows (s k) (Receiver.eventAt n s (fun k => (u k).receiver) k) :=
  ((h.ready hn hready hk.le).clock hn (s k)).2.1

/-- **The receiver against a decoder of waveforms.**  Take any UART whose receiver is idle and set
up for bits of `n` edges (its divisor, of 16 bits, is `n - 1`) with room for a byte, and clock it
along any waveform, as far as one likes.  Between the edges registers may be read but not written,
and the queue is emptied after each byte.  Then what every edge shows is what the decoder lists for
it: the byte, the framing error, or nothing.  The decoder lists the edges in order and none that was
not clocked.

In particular a low pulse of at most half a bit that an idle receiver meets, with at least as long a
high level after it, shows nothing and finds the receiver idle again. -/
theorem clock_decodes (hn : 2 ≤ n) (hdivisor : (u 0).divisor = n - 1)
    (hidle : (u 0).receiver = .idle) (hroom : (u 0).queue.length < queueDepth)
    (hrun : Tended s len u) :
    (∀ k < len, (u k).Shows (s k) ((decode n s len 0).lookup k))
      ∧ ((decode n s len 0).Pairwise (fun x y => x.1 < y.1)
        ∧ ∀ x ∈ decode n s len 0, x.1 < len)
      ∧ ∀ t₀ p, 0 < p → p ≤ n / 2 → t₀ + p + n / 2 ≤ len → (u t₀).receiver = .idle →
          (∀ k, t₀ ≤ k → k < t₀ + p → s k = false) →
          (∀ k, t₀ + p ≤ k → k < t₀ + p + n / 2 → s k = true) →
          (∀ k, t₀ ≤ k → k < t₀ + p + n / 2 → (u k).Shows (s k) none)
            ∧ (u (t₀ + p + n / 2)).receiver = .idle := by
  have hready : (u 0).Ready n := ⟨hdivisor, hroom⟩
  have hruns := hrun.runsOn hn hready
  refine ⟨?_, ⟨(decode_sorted n s len 0).1, fun x hx => ((decode_sorted n s len 0).2 x hx).2⟩, ?_⟩
  · intro k hk
    rw [← hruns.eventAt_eq_decode hn (fun _ => hidle) (Nat.zero_le k) hk]
    exact hrun.shows hn hready hk
  · intro t₀ p hpos hp hlen hidle₀ hlow hhigh
    obtain ⟨hnone, hidle'⟩ := hruns.pulse hn hidle₀ hpos hp hlen hlow hhigh
    refine ⟨?_, hidle'⟩
    intro k hk hlt
    rw [← hnone k hk hlt]
    exact hrun.shows hn hready (by omega)

end Run

/-! ### A reader that keeps up -/

lemma readsTo_drained (u : Uart) : ReadsTo u u.drained :=
  .single ⟨dataOffset, rfl⟩

lemma readsTo_hear (u : Uart) (rx : Bool) : ReadsTo (u.clock rx).1 (u.hear rx).1 := by
  rw [hear]
  rcases u.clock rx with ⟨v, _ | byte⟩
  · exact .refl
  · exact v.readsTo_drained

/-- Reading the data after every byte keeps the queue empty between the edges. -/
lemma Ready.hear (h : u.Ready n) (hn : 2 ≤ n) (hempty : u.queue = [])
    (hshown : u.divisorShown = false) (rx : Bool) :
    (u.hear rx).1.Ready n ∧ (u.hear rx).1.queue = [] ∧ (u.hear rx).1.divisorShown = false := by
  obtain ⟨-, -, hdivisor, hview⟩ := h.clock hn rx
  have hqueue := (u.clock_queues rx).1
  rw [hempty, List.nil_append] at hqueue
  rw [hshown] at hview
  rw [Uart.hear]
  rcases hclock : u.clock rx with ⟨v, _ | byte⟩
  · rw [hclock] at hdivisor hview hqueue
    have hroom : v.queue.length < queueDepth := by
      rw [show v.queue = [] from hqueue]
      decide
    exact ⟨⟨hdivisor, hroom⟩, hqueue, hview⟩
  · rw [hclock] at hdivisor hview hqueue
    have hdrained : v.drained = refreshStatus { v with queue := v.queue.tail } := drained_eq hview
    have htail : v.drained.queue = [] := by
      rw [hdrained, queue_refreshStatus, show v.queue = [byte] from hqueue]
      rfl
    have hroom : v.drained.queue.length < queueDepth := by
      rw [htail]
      decide
    have hview' : v.drained.divisorShown = false := by
      rw [hdrained]
      exact (divisorShown_refreshStatus _).trans hview
    exact ⟨⟨v.readsTo_drained.keeps.2.1.trans hdivisor, hroom⟩, htail, hview'⟩

/-- So a UART can be tended along every waveform. -/
lemma Ready.tended_listen (h : u.Ready n) (hn : 2 ≤ n) (hempty : u.queue = [])
    (hshown : u.divisorShown = false) (s : ℕ → Bool) (len : ℕ) :
    Tended s len fun k => (u.listen ((List.range k).map s)).1 := by
  have hnext : ∀ k, (u.listen ((List.range (k + 1)).map s)).1
      = ((u.listen ((List.range k).map s)).1.hear (s k)).1 := by
    intro k
    rw [List.range_succ, List.map_append, List.map_singleton, listen_append]
    rfl
  have hkept : ∀ k, (u.listen ((List.range k).map s)).1.Ready n
      ∧ (u.listen ((List.range k).map s)).1.queue = []
      ∧ (u.listen ((List.range k).map s)).1.divisorShown = false := by
    intro k
    induction k with
    | zero => exact ⟨h, hempty, hshown⟩
    | succ k ih =>
      rw [hnext]
      exact ih.1.hear hn ih.2.1 ih.2.2 (s k)
  constructor
  · intro k _
    rw [hnext]
    exact readsTo_hear _ _
  · intro k _ _
    exact (hkept (k + 1)).2.1

/-- Bits of two edges, and a waveform with a frame of the letter `A`: it comes out on the last edge
of its stop bit. -/
theorem clock_decodes_letter :
    ∃ u : ℕ → Uart, (u 0).divisor = 2 - 1 ∧ (u 0).receiver = .idle
      ∧ (u 0).queue.length < queueDepth ∧ Tended (frameLevel 2 0x41) 20 u
      ∧ (u 19).Shows (frameLevel 2 0x41 19) (some (.byte 0x41)) := by
  let v : Uart := { initial with divisorLow := 1 }
  have hready : v.Ready 2 := ⟨by decide, by decide⟩
  have htended := hready.tended_listen le_rfl (by decide) (by decide) (frameLevel 2 0x41) 20
  have hlist : decode 2 (frameLevel 2 0x41) 20 0 = [(19, .byte 0x41)] := by
    have hlow : firstLow (frameLevel 2 0x41) 20 0 = some 0 := by decide
    rw [decode_of_low hlow, if_neg (by decide), if_pos (by decide), decode_of_silent (by decide)]
    decide
  refine ⟨_, by decide, rfl, by decide, htended, ?_⟩
  have hshows := (clock_decodes le_rfl (by decide) rfl (by decide) htended).1 19 (by decide)
  rwa [hlist] at hshows

end Uart

end SocBench
