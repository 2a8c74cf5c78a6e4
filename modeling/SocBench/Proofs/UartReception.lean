import SocBench.Proofs.LineSampling
import SocBench.Proofs.UartRegisters

/-!
# Bytes from the line into the UART

The UART clocks its receiver with a level per edge and queues the bytes of complete frames.  Here it
is followed over whole stretches of the line, with its receive data read whenever a byte arrives.

The main result says which senders it understands (`Uart.hears_frames_iff`): frames sent back to
back are received without loss and without a line error, whatever their bytes, exactly when the two
lengths of a bit satisfy `Tolerates`.  One direction follows a frame edge by edge.  For the other,
one or two frames of the byte zero are enough: on a line that is low for nine bits the first sample
outside its bit is either a missing stop bit or a wrong data bit.
-/

namespace SocBench

namespace Uart

/-! ## The line status -/

lemma status_refreshStatus (u : Uart) :
    u.refreshStatus.status = u.status &&& lineErrors ||| transmitterEmpty
      ||| (if u.queue.isEmpty then 0 else dataReady) := by
  rw [status, refreshStatus]
  exact RegisterBlock.word_setWord_same _ (by decide) _

lemma word_refreshStatus (u : Uart) {offset : ℕ}
    (h : offset + 4 ≤ statusOffset ∨ statusOffset + 4 ≤ offset) :
    u.refreshStatus.regs.word offset = u.regs.word offset := by
  rw [refreshStatus]
  exact RegisterBlock.word_setWord_ne _ h _

lemma divisor_refreshStatus (u : Uart) : u.refreshStatus.divisor = u.divisor := by
  simp only [divisor, refreshStatus]

lemma divisorShown_refreshStatus (u : Uart) : u.refreshStatus.divisorShown = u.divisorShown := by
  rw [divisorShown, divisorShown, word_refreshStatus u (by decide)]

@[simp] lemma status_withQueue (u : Uart) (queue : List UInt8) :
    ({ u with queue } : Uart).status = u.status := by
  simp only [status]

/-- The line errors of a status that was put together from parts. -/
lemma or_and_lineErrors (a b c : UInt32) : (a ||| b) &&& c = (a &&& c) ||| (b &&& c) :=
  UInt32.toBitVec_inj.1 (by ext i; simp [Bool.and_or_distrib_right])

/-- Bringing the status up to date flags no error and clears none. -/
lemma lineErrors_refreshStatus (u : Uart) :
    u.refreshStatus.status &&& lineErrors = u.status &&& lineErrors := by
  have hready : (if u.queue.isEmpty then 0 else dataReady) &&& lineErrors = 0 := by
    split <;> decide
  have hempty : transmitterEmpty &&& lineErrors = 0 := by decide
  rw [status_refreshStatus, or_and_lineErrors, or_and_lineErrors, hready, hempty, UInt32.and_assoc,
    UInt32.and_self, UInt32.or_zero, UInt32.or_zero]

lemma lineErrors_flag (u : Uart) (error : UInt32) :
    (u.flag error).status &&& lineErrors
      = (u.status &&& lineErrors) ||| (error &&& lineErrors) := by
  have hmask : (u.flag error).status = (u.status &&& ~~~0) ||| error :=
    RegisterBlock.word_updateWord_same _ (by decide) _ _
  have hall : u.status &&& ~~~0 = u.status := by simp
  rw [hmask, hall, or_and_lineErrors]

/-! ## One edge -/

/-- A UART that understands bits of `n` edges: it is set up for them, its data can be read, there is
room for a byte, and no line error is flagged. -/
structure Listening (n : ℕ) (u : Uart) : Prop where
  two_le : 2 ≤ n
  divisor_eq : u.divisor = n - 1
  shown : u.divisorShown = false
  room : u.queue.length < queueDepth
  clean : u.status &&& lineErrors = 0

variable {n : ℕ} {u : Uart}

lemma Listening.bitCycles_eq (h : u.Listening n) : u.bitCycles = n := by
  have := h.two_le
  rw [bitCycles, h.divisor_eq]
  omega

lemma Listening.isConfigured (h : u.Listening n) : u.isConfigured = true := by
  have := h.two_le
  rw [Uart.isConfigured, h.divisor_eq, bne_iff_ne]
  omega

/-- Only the receiver changed. -/
lemma Listening.withReceiver (h : u.Listening n) (r : Receiver) :
    ({ u with receiver := r } : Uart).Listening n :=
  ⟨h.two_le, h.divisor_eq, h.shown, h.room, h.clean⟩

lemma clock_of_none (h : u.Listening n) {rx : Bool} {r : Receiver}
    (hstep : u.receiver.step n rx = (r, none)) :
    u.clock rx = ({ u with receiver := r }, none) := by
  rw [clock, if_pos h.isConfigured, h.bitCycles_eq, hstep]

lemma clock_of_some (h : u.Listening n) {rx stop : Bool} {r : Receiver} {byte : UInt8}
    (hstep : u.receiver.step n rx = (r, some (byte, stop))) :
    u.clock rx = ({ u with receiver := r } : Uart).accept byte stop := by
  rw [clock, if_pos h.isConfigured, h.bitCycles_eq, hstep]

/-- The UART after its receive data was read. -/
def drained (u : Uart) : Uart :=
  (u.read dataOffset).2

/-- One edge, after which the receive data is read if a byte has arrived. -/
def hear (u : Uart) (rx : Bool) : Uart × Option UInt8 :=
  match u.clock rx with
  | (u, some byte) => (u.drained, some byte)
  | (u, none) => (u, none)

lemma drained_eq (h : u.divisorShown = false) : u.drained = u.dataRead := by
  rw [drained, read_data h]
  rfl

lemma hear_of_none (h : u.Listening n) {rx : Bool} {r : Receiver}
    (hstep : u.receiver.step n rx = (r, none)) : u.hear rx = ({ u with receiver := r }, none) := by
  rw [hear, clock_of_none h hstep]

/-- A frame without its stop bit is a framing error and nothing else. -/
lemma hear_of_low (h : u.Listening n) {rx : Bool} {r : Receiver} {byte : UInt8}
    (hstep : u.receiver.step n rx = (r, some (byte, false))) :
    u.hear rx = (({ u with receiver := r } : Uart).flag framingError, none) := by
  rw [hear, clock_of_some h hstep]
  rfl

/-- A complete frame is returned, and reading it makes room again. -/
lemma hear_of_high (h : u.Listening n) {rx : Bool} {r : Receiver} {byte : UInt8}
    (hstep : u.receiver.step n rx = (r, some (byte, true))) :
    ∃ v : Uart, u.hear rx = (v, some byte) ∧ v.Listening n ∧ v.receiver = r := by
  -- the UART with the byte queued; reading takes one off again, so there is as much room as before
  let w : Uart :=
    { u with receiver := r, queue := u.queue ++ [byte], received := u.received + 1 }
  have haccept : ({ u with receiver := r } : Uart).accept byte true
      = (w.refreshStatus, some byte) := by
    simp only [accept, Bool.not_true, Bool.false_eq_true, if_false,
      if_neg (by simpa using h.room : ¬ queueDepth ≤ u.queue.length)]
    rfl
  have hshown : w.refreshStatus.divisorShown = false :=
    (divisorShown_refreshStatus w).trans h.shown
  refine ⟨w.refreshStatus.drained, ?_, ?_, ?_⟩
  · rw [hear, clock_of_some h hstep, haccept]
  · rw [drained_eq hshown, dataRead]
    refine ⟨h.two_le, ?_, ?_, ?_, ?_⟩
    · rw [divisor_refreshStatus]
      simpa only [divisor, refreshStatus, w] using h.divisor_eq
    · exact (divisorShown_refreshStatus _).trans hshown
    · have := h.room
      show (u.queue ++ [byte]).tail.length < queueDepth
      simpa using this
    · rw [lineErrors_refreshStatus, status_withQueue, lineErrors_refreshStatus]
      exact h.clean
  · rw [drained_eq hshown]
    rfl

/-! ## A stretch of the line -/

/-- The UART at the end of a stretch of the line, and the bytes that its clock has returned. -/
def listen (u : Uart) : List Bool → Uart × List UInt8
  | [] => (u, [])
  | rx :: rest =>
    let (u, byte) := u.hear rx
    let (u, bytes) := u.listen rest
    (u, byte.toList ++ bytes)

lemma listen_append (u : Uart) (before after : List Bool) :
    u.listen (before ++ after)
      = (((u.listen before).1.listen after).1,
          (u.listen before).2 ++ ((u.listen before).1.listen after).2) := by
  induction before generalizing u with
  | nil => rfl
  | cons rx before ih => simp only [List.cons_append, listen, ih, List.append_assoc]

/-- The UART returns exactly these bytes in this order, and never flags a line error. -/
structure Hears (u : Uart) (levels : List Bool) (bytes : List UInt8) : Prop where
  returned : (u.listen levels).2 = bytes
  errorFree : ∀ k, (u.listen (levels.take k)).1.status &&& lineErrors = 0

lemma Hears.append {before after : List Bool} {x y : List UInt8} (hx : u.Hears before x)
    (hy : (u.listen before).1.Hears after y) : u.Hears (before ++ after) (x ++ y) := by
  refine ⟨by rw [listen_append, hx.returned, hy.returned], fun k => ?_⟩
  rcases Nat.le_total k before.length with hk | hk
  · rw [List.take_append_of_le_length hk]
    exact hx.errorFree k
  · rw [List.take_append, List.take_of_length_le hk, listen_append]
    exact hy.errorFree _

/-- An idle UART does not mind a high line. -/
lemma Listening.hears_high (h : u.Listening n) (hidle : u.receiver = .idle) (k : ℕ) :
    u.listen (List.replicate k true) = (u, []) := by
  have hstay : u.hear true = (u, none) := by
    rw [hear_of_none h (r := .idle) (by rw [hidle]; rfl), ← hidle]
  induction k with
  | zero => rfl
  | succ k ih => simp [List.replicate_succ, listen, hstay, ih]

/-! ## Frames that are understood -/

variable {hold : ℕ}

/-- The UART in the middle of a frame that it understands. -/
lemma Listening.listen_frame (h : u.Listening n) (htol : Tolerates n hold)
    (hidle : u.receiver = .idle) (byte : UInt8) {m : ℕ} (hm : m ≤ 10 * hold) :
    ∃ v : Uart, u.listen ((List.range m).map (frameLevel hold byte))
          = (v, if Receiver.sampleEdge n 9 < m then [byte] else [])
      ∧ v.Listening n ∧ v.receiver = Receiver.during n hold byte m := by
  induction m with
  | zero => exact ⟨u, by simp [listen], h, by rw [hidle, Receiver.during_zero]⟩
  | succ m ih =>
    obtain ⟨v, hlisten, hv, hreceiver⟩ := ih (by omega)
    have hstep := Receiver.step_during htol h.two_le byte (show m < 10 * hold by omega)
    rw [← hreceiver] at hstep
    rw [List.range_succ, List.map_append, List.map_singleton, listen_append, hlisten]
    rcases eq_or_ne m (Receiver.sampleEdge n 9) with heq | hne
    · rw [if_pos heq] at hstep
      obtain ⟨v', hhear, hv', hreceiver'⟩ := hear_of_high hv hstep
      refine ⟨v', ?_, hv', hreceiver'⟩
      rw [if_neg (by omega), if_pos (by omega)]
      simp [listen, hhear]
    · rw [if_neg hne] at hstep
      refine ⟨{ v with receiver := Receiver.during n hold byte (m + 1) }, ?_,
        hv.withReceiver _, rfl⟩
      have hlt : Receiver.sampleEdge n 9 < m + 1 ↔ Receiver.sampleEdge n 9 < m := by omega
      simp [listen, hear_of_none hv hstep, hlt]

/-- A frame that is understood is heard, and leaves the UART as ready as before. -/
lemma Listening.hears_frame (h : u.Listening n) (htol : Tolerates n hold)
    (hidle : u.receiver = .idle) (byte : UInt8) :
    u.Hears (frameWave hold byte) [byte] ∧ (u.listen (frameWave hold byte)).1.Listening n
      ∧ (u.listen (frameWave hold byte)).1.receiver = .idle := by
  obtain ⟨v, hlisten, hv, hreceiver⟩ := h.listen_frame htol hidle byte le_rfl
  rw [if_pos (htol.end_lt h.two_le), ← frameWave_eq_map] at hlisten
  rw [Receiver.during_end htol h.two_le] at hreceiver
  refine ⟨⟨by rw [hlisten], fun k => ?_⟩, by rwa [hlisten], by rwa [hlisten]⟩
  rw [frameWave_eq_map, ← List.map_take, List.take_range]
  -- no error is flagged on the way either: every part of the frame leaves the UART listening
  obtain ⟨w, hw, hlistening, -⟩ :=
    h.listen_frame htol hidle byte (m := min k (10 * hold)) (by omega)
  rw [hw]
  exact hlistening.clean

/-- So are frames back to back, however many. -/
lemma Listening.hears_frames (h : u.Listening n) (htol : Tolerates n hold)
    (hidle : u.receiver = .idle) (bytes : List UInt8) :
    u.Hears (bytes.flatMap (frameWave hold)) bytes
      ∧ (u.listen (bytes.flatMap (frameWave hold))).1.Listening n
      ∧ (u.listen (bytes.flatMap (frameWave hold))).1.receiver = .idle := by
  induction bytes generalizing u with
  | nil => exact ⟨⟨rfl, fun k => by simpa [listen] using h.clean⟩, h, hidle⟩
  | cons byte rest ih =>
    obtain ⟨hfirst, hready, hidle'⟩ := h.hears_frame htol hidle byte
    obtain ⟨hrest, hready', hidle''⟩ := ih hready hidle'
    rw [List.flatMap_cons, listen_append]
    exact ⟨hfirst.append hrest, hready', hidle''⟩

/-! ## Frames that are not understood -/

section Waveform

open Receiver

variable {s : ℕ → Bool}

/-- Any waveform up to its last sample: nothing happens but in the receiver. -/
lemma Listening.listen_wave (h : u.Listening n) (hidle : u.receiver = .idle) (hlow : s 0 = false)
    {m : ℕ} (hstart : sampleEdge n 0 < m → s (sampleEdge n 0) = false) (hm : m ≤ sampleEdge n 9) :
    u.listen ((List.range m).map s) = ({ u with receiver := within n s m }, []) := by
  induction m with
  | zero => simp [listen, ← hidle]
  | succ m ih =>
    have hstep : step n (within n s m) (s m) = (within n s (m + 1), none) :=
      step_within h.two_le hlow (fun hle => hstart (by omega)) (by omega)
    have hhear : ({ u with receiver := within n s m } : Uart).hear (s m)
        = ({ u with receiver := within n s (m + 1) }, none) :=
      hear_of_none (h.withReceiver _) hstep
    rw [List.range_succ, List.map_append, List.map_singleton, listen_append,
      ih (fun hlt => hstart (by omega)) (by omega)]
    simp [listen, hhear]

/-- A low stop bit is flagged. -/
lemma Listening.flags_low_stop (h : u.Listening n) (hidle : u.receiver = .idle)
    (hlow : s 0 = false) (hstart : s (sampleEdge n 0) = false)
    (hstop : s (sampleEdge n 9) = false) :
    (u.listen ((List.range (sampleEdge n 9 + 1)).map s)).1.status &&& lineErrors ≠ 0 := by
  have hhear : ({ u with receiver := within n s (sampleEdge n 9) } : Uart).hear false
      = (({ u with receiver := .idle } : Uart).flag framingError, none) :=
    hear_of_low (h.withReceiver _) (step_within_end h.two_le false)
  rw [List.range_succ, List.map_append, List.map_singleton, listen_append,
    h.listen_wave hidle hlow (fun _ => hstart) le_rfl, hstop]
  simp only [listen, hhear]
  rw [lineErrors_flag, (h.withReceiver .idle).clean]
  decide

/-- With a high stop bit the samples are returned. -/
lemma Listening.returns_gathered (h : u.Listening n) (hidle : u.receiver = .idle)
    (hlow : s 0 = false) (hstart : s (sampleEdge n 0) = false)
    (hstop : s (sampleEdge n 9) = true) :
    (u.listen ((List.range (sampleEdge n 9 + 1)).map s)).2 = [UInt8.ofNat (gathered n s 8)] := by
  obtain ⟨v, hhear, -, -⟩ :=
    hear_of_high (h.withReceiver (within n s (sampleEdge n 9))) (step_within_end h.two_le true)
  rw [List.range_succ, List.map_append, List.map_singleton, listen_append,
    h.listen_wave hidle hlow (fun _ => hstart) le_rfl, hstop]
  simp [listen, hhear]

/-- A line that is high when the start bit is looked at again, and stays so, is never heard. -/
lemma Listening.ignores_glitch (h : u.Listening n) (hidle : u.receiver = .idle)
    (hlow : s 0 = false) (hhigh : ∀ m, sampleEdge n 0 ≤ m → s m = true) (k : ℕ) :
    (u.listen ((List.range (sampleEdge n 0 + 1 + k)).map s)).2 = [] := by
  have hle : sampleEdge n 0 ≤ sampleEdge n 9 := by simp [sampleEdge]
  have hhear : ({ u with receiver := within n s (sampleEdge n 0) } : Uart).hear true
      = ({ u with receiver := .idle }, none) :=
    hear_of_none (h.withReceiver _) (step_within_glitch h.two_le)
  have hrest : (List.range k).map (s ∘ fun m => sampleEdge n 0 + 1 + m)
      = List.replicate k true := by
    refine List.eq_replicate_iff.mpr ⟨by simp, fun x hx => ?_⟩
    obtain ⟨m, -, rfl⟩ := List.mem_map.mp hx
    exact hhigh (sampleEdge n 0 + 1 + m) (by omega)
  rw [List.range_add, List.range_succ, List.map_append, List.map_append, List.map_singleton,
    List.map_map, hrest, listen_append, listen_append,
    h.listen_wave hidle hlow (fun hlt => absurd hlt (lt_irrefl _)) hle, hhigh _ le_rfl]
  simp [listen, hhear, (h.withReceiver .idle).hears_high rfl]

/-! ## Frames of the byte zero -/

/-- The frame of the byte zero is low for nine bits. -/
lemma frameLevel_zero {hold m : ℕ} (hm : m < 10 * hold) :
    frameLevel hold 0 m = decide (9 * hold ≤ m) := by
  rcases Nat.lt_or_ge m (9 * hold) with hlt | hge
  · have hslot : m / hold < 9 := Nat.div_lt_of_lt_mul (by rwa [Nat.mul_comm])
    have hframe : frameOf 0 = 2 ^ 9 := rfl
    rw [frameLevel, hframe, Nat.testBit_two_pow, decide_eq_false (by omega),
      decide_eq_false (by omega)]
  · rw [frameLevel_stop 0 hge hm, decide_eq_true hge]

/-- One zero and then silence. -/
lemma zeroWave_eq (hold k : ℕ) :
    frameWave hold 0 ++ List.replicate k true
      = (List.range (10 * hold + k)).map (fun m => decide (9 * hold ≤ m)) := by
  rw [List.range_add, List.map_append, frameWave_eq_map]
  congr 1
  · refine List.map_congr_left fun m hm => ?_
    exact frameLevel_zero (List.mem_range.mp hm)
  · refine (List.eq_replicate_iff.mpr ⟨by simp, fun x hx => ?_⟩).symm
    obtain ⟨-, ⟨m, -, rfl⟩, rfl⟩ := by simpa only [List.mem_map] using hx
    exact decide_eq_true (by omega)

/-- Two zeros back to back. -/
lemma zeroWave_twice (hold : ℕ) :
    frameWave hold 0 ++ frameWave hold 0
      = (List.range (10 * hold + 10 * hold)).map
          (fun m => decide (9 * hold ≤ m ∧ m < 10 * hold ∨ 19 * hold ≤ m)) := by
  rw [List.range_add, List.map_append, List.map_map, frameWave_eq_map]
  congr 1
  · refine List.map_congr_left fun m hm => ?_
    have hlt := List.mem_range.mp hm
    rw [frameLevel_zero hlt]
    exact decide_eq_decide.mpr (by omega)
  · refine List.map_congr_left fun m hm => ?_
    have hlt := List.mem_range.mp hm
    simp only [frameLevel_zero hlt, Function.comp_apply]
    exact decide_eq_decide.mpr (by omega)

/-- A slow sender: the stop bit is sampled while the last data bit is still on the line. -/
lemma Listening.not_hears_slow (h : u.Listening n) (hidle : u.receiver = .idle)
    (hslow : sampleEdge n 9 < 9 * hold) (k : ℕ) :
    ¬ u.Hears (frameWave hold 0 ++ List.replicate k true) [0] := by
  intro hears
  have hle : sampleEdge n 0 ≤ sampleEdge n 9 := by simp [sampleEdge]
  have hclean := hears.errorFree (sampleEdge n 9 + 1)
  rw [zeroWave_eq, ← List.map_take, List.take_range, Nat.min_eq_left (by omega)] at hclean
  refine h.flags_low_stop hidle ?_ ?_ ?_ hclean <;> exact decide_eq_false (by omega)

/-- A fast sender whose last data bit is over when it is sampled: the byte comes out wrong, or not
at all. -/
lemma Listening.not_hears_fast (h : u.Listening n) (hidle : u.receiver = .idle) (hpos : 0 < hold)
    (hfast : 9 * hold ≤ sampleEdge n 8) {k : ℕ} (hk : sampleEdge n 9 + 1 ≤ k) :
    ¬ u.Hears (frameWave hold 0 ++ List.replicate k true) [0] := by
  intro hears
  have hreturned := hears.returned
  have hlow : decide (9 * hold ≤ 0) = false := decide_eq_false (by omega)
  have hle : sampleEdge n 8 ≤ sampleEdge n 9 := by
    simp only [sampleEdge]
    omega
  rw [zeroWave_eq] at hreturned
  rcases Nat.lt_or_ge (sampleEdge n 0) (9 * hold) with hstart | hglitch
  · have hsplit : 10 * hold + k
        = (sampleEdge n 9 + 1) + (10 * hold + k - (sampleEdge n 9 + 1)) := by omega
    rw [hsplit, List.range_add, List.map_append, listen_append,
      h.returns_gathered hidle hlow (decide_eq_false (by omega)) (decide_eq_true (by omega))]
      at hreturned
    have hbyte : UInt8.ofNat (gathered n (fun m => decide (9 * hold ≤ m)) 8) = 0 :=
      (List.cons.inj hreturned).1
    have hzero : gathered n (fun m => decide (9 * hold ≤ m)) 8 = 0 := by
      have hnat := congrArg UInt8.toNat hbyte
      rwa [UInt8.toNat_ofNat', Nat.mod_eq_of_lt (gathered_lt n _ 8)] at hnat
    -- the last data bit was sampled high
    have hbit := testBit_gathered n (fun m => decide (9 * hold ≤ m)) 8 7
    rw [hzero] at hbit
    simp [hfast] at hbit
  · -- the whole frame is over before the start bit is looked at again
    have hsplit : 10 * hold + k
        = sampleEdge n 0 + 1 + (10 * hold + k - (sampleEdge n 0 + 1)) := by
      have : sampleEdge n 0 ≤ sampleEdge n 9 := by simp [sampleEdge]
      omega
    rw [hsplit, h.ignores_glitch hidle hlow (fun m hm => decide_eq_true (by omega))] at hreturned
    cases hreturned

/-- A fast sender whose next frame has begun when the stop bit is sampled. -/
lemma Listening.not_hears_early (h : u.Listening n) (hidle : u.receiver = .idle) (hpos : 0 < hold)
    (hdata : sampleEdge n 8 < 9 * hold) (hstop : 10 * hold ≤ sampleEdge n 9) (k : ℕ) :
    ¬ u.Hears (frameWave hold 0 ++ frameWave hold 0 ++ List.replicate k true) [0, 0] := by
  intro hears
  have hnear : sampleEdge n 9 < 19 * hold := by
    simp only [sampleEdge] at hdata ⊢
    omega
  have hstart : sampleEdge n 0 < 9 * hold := by
    simp only [sampleEdge] at hdata ⊢
    omega
  have hclean := hears.errorFree (sampleEdge n 9 + 1)
  rw [List.take_append_of_le_length (by simp; omega), zeroWave_twice, ← List.map_take,
    List.take_range, Nat.min_eq_left (by omega)] at hclean
  refine h.flags_low_stop hidle ?_ ?_ ?_ hclean <;> exact decide_eq_false (by omega)

end Waveform

/-! ## Which senders are understood -/

/-- **The tolerance of the receiver.**  Take any UART whose receiver is idle and set up for bits of
`n` edges (its divisor, of 16 bits, is `n - 1`), with no error flagged, room for a byte and its data
readable.  It hears every sequence of frames sent back to back with bits of `hold` edges and
followed by a high line, exactly the bytes sent and no line error, if and only if the stop bit is
sampled inside the stop bit: a slow sender loses at most half a bit in nine, and a fast one has not
ended its frame before. -/
theorem hears_frames_iff {n hold : ℕ} (hn : 2 ≤ n) (hhold : 1 ≤ hold) {u : Uart}
    (hdivisor : u.divisor = n - 1) (hidle : u.receiver = .idle)
    (hclean : u.status &&& lineErrors = 0) (hroom : u.queue.length < queueDepth)
    (hshown : u.divisorShown = false) :
    (∀ (bytes : List UInt8) (tail : ℕ), n / 2 + 9 * n + 1 ≤ tail →
        u.Hears (bytes.flatMap (frameWave hold) ++ List.replicate tail true) bytes)
      ↔ (n ≤ hold ∧ 9 * (hold - n) ≤ n / 2) ∨ (hold < n ∧ n / 2 + 9 * n < 10 * hold) := by
  have h : u.Listening n := ⟨hn, hdivisor, hshown, hroom, hclean⟩
  constructor
  · intro hall
    by_contra htol
    have hone := hall [0] (Receiver.sampleEdge n 9 + 1) le_rfl
    have htwo := hall [0, 0] (Receiver.sampleEdge n 9 + 1) le_rfl
    simp only [List.flatMap_cons, List.flatMap_nil, List.append_nil] at hone htwo
    -- a zero is low for nine bits: what matters is where its last two samples fall
    rcases Nat.lt_or_ge (Receiver.sampleEdge n 9) (9 * hold) with hslow | hfast
    · exact h.not_hears_slow hidle hslow _ hone
    · rcases Nat.lt_or_ge (Receiver.sampleEdge n 8) (9 * hold) with hdata | hdata
      · have hstop : 10 * hold ≤ Receiver.sampleEdge n 9 := by
          simp only [Receiver.sampleEdge] at hfast hdata ⊢
          omega
        exact h.not_hears_early hidle hhold hdata hstop _ htwo
      · exact h.not_hears_fast hidle hhold hdata le_rfl hone
  · intro htol bytes tail _
    obtain ⟨hears, hready, hidle'⟩ := h.hears_frames (show Tolerates n hold from htol) hidle bytes
    have hsilent : (u.listen (bytes.flatMap (frameWave hold))).1.Hears
        (List.replicate tail true) [] := by
      refine ⟨by rw [hready.hears_high hidle'], fun k => ?_⟩
      rw [List.take_replicate, hready.hears_high hidle']
      exact hready.clean
    simpa using hears.append hsilent

/-- At 115200 baud and 242 MHz the sender holds a bit one edge longer than the receiver counts. -/
theorem hears_frames_board :
    ∃ u : Uart, u.divisor = 2100 - 1 ∧ u.receiver = .idle ∧ u.status &&& lineErrors = 0
      ∧ u.queue.length < queueDepth ∧ u.divisorShown = false
      ∧ ∀ (bytes : List UInt8) (tail : ℕ), 2100 / 2 + 9 * 2100 + 1 ≤ tail →
          u.Hears (bytes.flatMap (frameWave 2101) ++ List.replicate tail true) bytes :=
  ⟨{ initial with divisorLow := 0x33, divisorHigh := 0x08 }, by decide, rfl, by decide, by decide,
    by decide,
    (hears_frames_iff (by decide) (by decide) (by decide) rfl (by decide) (by decide)
      (by decide)).mpr (by decide)⟩

end Uart

end SocBench
