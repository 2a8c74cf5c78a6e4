import Mathlib.Data.List.DropRight
import SocBench.Proofs.CallHistory
import SocBench.Proofs.FrameWaveform
import SocBench.Proofs.LineDecoding
import SocBench.Proofs.SocEdges

/-!
# The reference system under any history of its pins

Whoever holds the pins of the system may set them in any order and evaluate it whenever they like:
reset in the middle of a frame, evaluate twice without a change, leave the clock high.  All that
counts is the rising clock edges that were evaluated.  `Soc.PinLevels.edges` reads them off the
events alone, each with the levels of reset and line; `Soc.reports` adds what the UART's clock
returned on them and the line status it left for the firmware.

The main result (`Soc.consistent_after`) is that the system stays consistent with its edges.  Every
byte was handed over on the edge it arrived, so nothing waits in the UART and no interrupt is up;
the counts, the timer and the end of the run can be read off the edges; no bus error ever stopped
one, and the loop of the interrupt handler, stated without a limit as `Soc.Drains`, comes to its
end.  One edge out of reset is described once (`Soc.Calm.serves`), and the history follows by
induction.
-/

namespace SocBench

/-! ## The timer -/

namespace Clint

@[simp] lemma mtime_initial : initial.mtime = 0 := by
  rw [mtime, initial, RegisterBlock.peek_poke_disjoint _ (by decide), RegisterBlock.peek_zero]
  rfl

@[simp] lemma mtime_tick (c : Clint) : c.tick.mtime = c.mtime + 1 := by
  have hlt : (c.mtime + 1).toNat < 256 ^ 8 := (c.mtime + 1).toNat_lt
  rw [mtime, tick, RegisterBlock.peek_poke_same _ (by decide), Nat.mod_eq_of_lt hlt,
    UInt64.ofNat_toNat]

end Clint

/-! ## What reads and writes leave alone -/

namespace Uart

variable {u : Uart}

lemma received_read (u : Uart) (offset : ℕ) : (u.read offset).2.received = u.received := by
  rcases u.read_inv offset with ⟨-, -, hread⟩ | ⟨-, hread⟩ | hread <;> rw [hread]
  · exact received_refreshStatus _
  · exact received_statusRead u

lemma Quiet.silent {d : ℕ} (h : u.Quiet d) : u.interrupting = false := by
  rw [h.toProgrammed.interrupting_eq, h.queue_eq, h.status_eq]
  decide

/-- Whether a byte is ready, after the status was brought up to date. -/
lemma ready_refreshStatus (u : Uart) :
    u.refreshStatus.status &&& dataReady = if u.queue.isEmpty then 0 else dataReady := by
  have herrors : lineErrors &&& dataReady = 0 := by decide
  have hempty : transmitterEmpty &&& dataReady = 0 := by decide
  rw [status_refreshStatus, or_and_lineErrors, or_and_lineErrors, UInt32.and_assoc, herrors, hempty]
  split <;> simp

end Uart

namespace Soc

variable {d : ℕ} {s t : Soc}

lemma received_bootUart (d : ℕ) (u : Uart) : (bootUart d u).2.received = u.received := by
  have hwrite : ∀ {v : Uart} (offset : ℕ) (value : UInt32), v.received = u.received →
      (v.write offset value).2.received = u.received :=
    fun offset value h => (Uart.write_keeps _ offset value).2.1.trans h
  have hthen : ∀ {v : Uart} (offset : ℕ) (value : UInt32) {f : Unit → Uart → Access Uart Unit},
      v.received = u.received →
      (∀ v : Uart, v.received = u.received → (f () v).2.received = u.received) →
      ((v.write offset value).andThen f).2.received = u.received :=
    fun offset value _ h hf => Access.andThen_keeps (P := fun v : Uart => v.received = u.received)
      (hwrite offset value h) fun _ => hf
  unfold bootUart
  refine hthen _ _ rfl fun v h => hthen _ _ h fun v h => hthen _ _ h fun v h => ?_
  exact hthen _ _ h fun v h => hthen _ _ h fun v h => hthen _ _ h fun v h => hwrite _ _ h

/-- What the handler leaves alone: the timer, the interrupt controller, and the count of the bytes
that have arrived. -/
structure LeavesDevices (s t : Soc) : Prop where
  clint_eq : t.clint = s.clint
  plic_eq : t.plic = s.plic
  count_eq : t.uart.received = s.uart.received

lemma LeavesDevices.readUart (h : s.LeavesDevices t) (offset : ℕ) :
    s.LeavesDevices (t.readUart offset).2 :=
  ⟨h.clint_eq, h.plic_eq, (t.uart.received_read offset).trans h.count_eq⟩

/-- Going on after a read of the UART. -/
lemma LeavesDevices.readThen (h : s.LeavesDevices t) (offset : ℕ)
    {f : UInt32 → Soc → Access Soc Unit}
    (hf : ∀ value t, s.LeavesDevices t → s.LeavesDevices (f value t).2) :
    s.LeavesDevices ((t.readUart offset).andThen f).2 :=
  Access.andThen_keeps (P := s.LeavesDevices) (h.readUart offset) hf

lemma LeavesDevices.drain (h : s.LeavesDevices t) (limit : ℕ) :
    s.LeavesDevices (t.drain limit).2 := by
  induction limit generalizing t with
  | zero => exact h
  | succ limit ih =>
    rw [Soc.drain]
    refine h.readThen _ fun status t h => ?_
    split_ifs with hready
    · exact h
    · exact h.readThen _ fun value t h => ih ⟨h.clint_eq, h.plic_eq, h.count_eq⟩

lemma service_leavesDevices (s : Soc) : s.LeavesDevices s.service.2 := by
  have hcounted : s.LeavesDevices { s with interrupts := s.interrupts + 1 } := ⟨rfl, rfl, rfl⟩
  rw [service]
  refine hcounted.readThen _ fun status t h => ?_
  split_ifs with hready
  · exact h
  · exact h.drain _

/-- An edge that is not cut short ends with the controller looking at the UART.  Up to there the
timer has counted once, and no byte has arrived but by the clock of the UART. -/
lemma advance_routed (h : s.plic.Wired) (hadvance : s.advance = .done () t) :
    ∃ x, t = route x ∧ x.plic.Wired ∧ x.clint = s.clint.tick
      ∧ x.uart.received = (s.uart.clock s.uartRx).1.received := by
  have hsampled : ∃ x, s.sampled.route = route x ∧ x.plic.Wired ∧ x.clint = s.clint.tick
      ∧ x.uart.received = (s.uart.clock s.uartRx).1.received := ⟨s.sampled, rfl, h, rfl, rfl⟩
  rw [advance_eq] at hadvance
  split_ifs at hadvance with hint
  · cases hvector : s.sampled.route.plic.read .word Plic.vectorOffset with
    | error e =>
      rw [hvector] at hadvance
      cases hadvance
    | ok vector =>
      rw [hvector] at hadvance
      dsimp only at hadvance
      split_ifs at hadvance with hserves
      · have hleaves := s.sampled.route.service_leavesDevices
        rcases hservice : s.sampled.route.service with ⟨e | _, served⟩ <;>
          rw [hservice] at hadvance hleaves
        · cases hadvance
        · refine ⟨served, (Prod.mk.inj hadvance).2.symm, ?_, hleaves.clint_eq, hleaves.count_eq⟩
          rw [hleaves.plic_eq]
          exact route_wired (s := s.sampled) h
      · rw [← (Prod.mk.inj hadvance).2]
        exact hsampled
  · rw [← (Prod.mk.inj hadvance).2]
    exact hsampled

@[simp] lemma uart_route (s : Soc) : s.route.uart = s.uart := by
  simp only [route]

@[simp] lemma clint_route (s : Soc) : s.route.clint = s.clint := by
  simp only [route]

/-- The devices after an edge of a wired system: the timer and the count of the UART have moved, and
the controller interrupts exactly if the UART does. -/
lemma advance_devices (h : s.plic.Wired) (hadvance : s.advance = .done () t) :
    t.clint.mtime = s.clint.mtime + 1
      ∧ t.uart.received = s.uart.received + (s.uart.clock s.uartRx).2.toList.length
      ∧ t.plic.interrupting = t.uart.interrupting := by
  obtain ⟨x, rfl, hwired, hclint, hcount⟩ := advance_routed h hadvance
  rw [clint_route, uart_route, interrupting_route hwired, hclint, hcount, Clint.mtime_tick,
    (s.uart.clock_queues s.uartRx).2]
  exact ⟨rfl, rfl, rfl⟩

/-! ## The loop of the handler -/

/-- The loop of the handler as it is written, without a limit: while the line status shows a byte,
the byte is read.  A run of the loop that ends is a derivation. -/
inductive Drains : Soc → Soc → Prop
  | done {s : Soc} {status : UInt32} {uart : Uart}
      (hstatus : s.uart.read Uart.statusOffset = .done status uart)
      (hready : status &&& Uart.dataReady = 0) : Drains s { s with uart }
  | byte {s t : Soc} {status value : UInt32} {seen uart : Uart}
      (hstatus : s.uart.read Uart.statusOffset = .done status seen)
      (hready : status &&& Uart.dataReady ≠ 0)
      (hdata : seen.read Uart.dataOffset = .done value uart)
      (hrest : Drains (receive { s with uart } value.toUInt8) t) : Drains s t

/-- A programmed UART that shows a byte exactly if it has one is drained, and the limit of one turn
more than there are bytes is never felt. -/
lemma drains_of_programmed (h : s.uart.Programmed d)
    (hready : s.uart.status &&& Uart.dataReady = 0 ↔ s.uart.queue = []) :
    ∃ t, s.Drains t ∧ s.drain (s.uart.queue.length + 1) = .done () t := by
  obtain ⟨queue, hqueue⟩ : ∃ queue, s.uart.queue = queue := ⟨_, rfl⟩
  induction queue generalizing s with
  | nil =>
    have hdone := hready.mpr hqueue
    exact ⟨_, .done (Uart.read_status s.uart) hdone, drain_done _ hdone⟩
  | cons byte rest ih =>
    have hmore : s.uart.status &&& Uart.dataReady ≠ 0 := by
      rw [Ne, hready, hqueue]
      exact List.cons_ne_nil _ _
    obtain ⟨v, hv⟩ :
        ∃ v, Uart.refreshStatus { s.uart.statusRead with queue := rest } = v := ⟨_, rfl⟩
    have hvqueue : v.queue = rest := by rw [← hv, Uart.queue_refreshStatus]
    have hvready : v.status &&& Uart.dataReady = 0 ↔ v.queue = [] := by
      rw [hvqueue, ← hv, Uart.ready_refreshStatus]
      cases rest with
      | nil => simp
      | cons byte rest => simp [Uart.dataReady]
    have hvprogrammed : v.Programmed d := hv ▸ (h.statusRead.withQueue rest).refreshStatus
    obtain ⟨t, hdrains, hdrain⟩ :=
      ih (s := receive { s with uart := v } byte) hvprogrammed hvready hvqueue
    have hdata : s.uart.statusRead.read Uart.dataOffset = .done byte.toUInt32 v := by
      rw [Uart.read_data h.statusRead.divisorShown, Uart.dataRead, Uart.queue_statusRead, hqueue,
        List.headD_cons, List.tail_cons, hv]
    refine ⟨t, .byte (Uart.read_status s.uart) hmore hdata ?_, ?_⟩
    · rwa [UInt8.toUInt8_toUInt32]
    · rw [hqueue, List.length_cons, drain_byte _ h hmore hqueue hv, ← hdrain]
      show _ = drain (v.queue.length + 1) _
      rw [hvqueue]

/-- The handler after its first look at the line status, which is where its loop begins. -/
def handling (s : Soc) : Soc :=
  { s with uart := s.uart.statusRead, interrupts := s.interrupts + 1 }

/-! ## The pins -/

/-- What can be done to the system from outside. -/
inductive PinEvent where
  | clk (level : Bool)
  | rstN (level : Bool)
  | uartRx (level : Bool)
  | tap (levels : TapLevels)
  | eval

/-- The system after an event, through its interface as a device. -/
def PinEvent.apply : PinEvent → Soc → Soc
  | .clk level => Dut.setClk level
  | .rstN level => Dut.setRstN level
  | .uartRx level => Dut.setUartRx level
  | .tap levels => Dut.driveTap levels
  | .eval => Dut.eval

/-- The system after a history of events. -/
def after (s : Soc) (history : List PinEvent) : Soc :=
  Calls.after (fun s event => ((), event.apply s)) s history

/-- The levels that some events have put on the pins, and the level of the clock when there was last
an evaluation. -/
structure PinLevels where
  clk : Bool := false
  rstN : Bool := false
  uartRx : Bool := true
  evaluated : Bool := false

/-- A rising clock edge that was evaluated: whether the system was out of reset, and the level of
the line. -/
structure PinEdge where
  running : Bool
  level : Bool

namespace PinLevels

/-- The levels after one more event. -/
def next (pins : PinLevels) : PinEvent → PinLevels
  | .clk level => { pins with clk := level }
  | .rstN level => { pins with rstN := level }
  | .uartRx level => { pins with uartRx := level }
  | .tap _ => pins
  | .eval => { pins with evaluated := pins.clk }

/-- The rising edges that an event evaluates, of which there is at most one: the clock is high and
was low at the last evaluation. -/
def edgesOn (pins : PinLevels) : PinEvent → List PinEdge
  | .eval => if pins.clk && !pins.evaluated then [⟨pins.rstN, pins.uartRx⟩] else []
  | _ => []

/-- The rising edges that a history of events evaluates. -/
def edges (pins : PinLevels) : List PinEvent → List PinEdge
  | [] => []
  | event :: history => pins.edgesOn event ++ (pins.next event).edges history

lemma length_edges_le (pins : PinLevels) (history : List PinEvent) :
    (pins.edges history).length ≤ history.length := by
  induction history generalizing pins with
  | nil => exact Nat.le_refl 0
  | cons event history ih =>
    have hone : (pins.edgesOn event).length ≤ 1 := by
      cases event with
      | eval =>
        rw [edgesOn]
        split_ifs <;> simp
      | _ => exact Nat.zero_le 1
    have hrest := ih (pins.next event)
    rw [edges, List.length_append, List.length_cons]
    omega

end PinLevels

/-- What an edge makes of what was received: in reset the receiver is idle and the system has not
finished. -/
def PinEdge.receive (settings : SocSettings) (x : Reception) (e : PinEdge) : Reception :=
  if e.running then x.edge (divisorFor settings) settings.terminator e.level
  else { x with receiver := .idle, finished := false }

/-- What some edges make of a new system. -/
def receptionOf (settings : SocSettings) (edges : List PinEdge) : Reception :=
  edges.foldl (PinEdge.receive settings) ⟨.idle, [], 0, false⟩

lemma receptionOf_concat (settings : SocSettings) (edges : List PinEdge) (e : PinEdge) :
    receptionOf settings (edges ++ [e]) = e.receive settings (receptionOf settings edges) :=
  List.foldl_concat _ _ _ _

/-- An edge is one interrupt at most. -/
lemma interrupts_receptionOf_le (settings : SocSettings) (edges : List PinEdge) :
    (receptionOf settings edges).interrupts ≤ edges.length := by
  induction edges using List.reverseRecOn with
  | nil => exact Nat.le_refl 0
  | append_singleton edges e ih =>
    rw [receptionOf_concat, List.length_append, List.length_singleton, PinEdge.receive]
    obtain ⟨x, hx⟩ : ∃ x, receptionOf settings edges = x := ⟨_, rfl⟩
    rw [hx] at ih ⊢
    split_ifs
    · rw [Reception.edge]
      rcases x.receiver.stepFor (divisorFor settings) e.level with ⟨r, _ | ⟨byte, _ | _⟩⟩ <;>
        simp only <;> omega
    · exact ih.trans (Nat.le_succ _)

/-! ## The log of a history -/

/-- A rising clock edge as it was evaluated: how it ended, the byte that the clock of the UART
returned, and the line status after that. -/
structure EdgeReport extends PinEdge where
  outcome : Except BusError Unit
  returned : Option UInt8
  status : UInt32

/-- Whether the clock of the UART left a framing error for the firmware to see. -/
def EdgeReport.isFramingError (e : EdgeReport) : Bool :=
  e.status &&& Uart.framingError != 0

/-- The call of the UART's clock that a rising edge makes.  In reset there is none. -/
def sampling (s : Soc) (e : PinEdge) : Option (Uart × Option UInt8) :=
  if e.running then s.boot.1.toOption.map fun _ => s.boot.2.uart.clock e.level else none

/-- The report of a rising edge. -/
def edgeReport (s : Soc) (e : PinEdge) : EdgeReport where
  toPinEdge := e
  outcome := s.risingEdge.1
  returned := (s.sampling e).bind Prod.snd
  status := (s.sampling e).elim 0 fun sample => sample.1.status

/-- The reports of the rising edges of a history. -/
def reports (s : Soc) (pins : PinLevels) : List PinEvent → List EdgeReport
  | [] => []
  | event :: history =>
    (pins.edgesOn event).map s.edgeReport ++ (event.apply s).reports (pins.next event) history

/-! ## One edge out of reset -/

/-- What the firmware makes of an edge, by what the receiver makes of it. -/
lemma edge_account {x : Reception} (terminator : Option UInt8) {rx : Bool} {r : Receiver}
    {outcome : Option (UInt8 × Bool)} (hstep : x.receiver.stepFor d rx = (r, outcome)) :
    (x.edge d terminator rx).received = x.received ++ Uart.waitingAfter outcome
      ∧ (x.edge d terminator rx).interrupts = x.interrupts + (Uart.waitingAfter outcome).length
          + (Uart.statusAfter outcome &&& Uart.framingError != 0).toNat
      ∧ (x.edge d terminator rx).finished
          = (x.finished
            || (Uart.waitingAfter outcome).any fun byte => terminator == some byte) := by
  simp only [Reception.edge, hstep]
  rcases outcome with _ | ⟨byte, _ | _⟩
  · have hbit : (Uart.statusAfter none &&& Uart.framingError != 0) = false := by decide
    simp [Uart.waitingAfter, hbit]
  · have hbit : (Uart.statusAfter (some (byte, false)) &&& Uart.framingError != 0) = true := by
      rw [Uart.statusAfter]
      decide
    simp [Uart.waitingAfter, hbit]
  · have hbit : (Uart.statusAfter (some (byte, true)) &&& Uart.framingError != 0) = false := by
      rw [Uart.statusAfter]
      decide
    simp [Uart.waitingAfter, hbit]

/-- An edge out of reset, by its report: every byte is handed over at once, every byte and every
framing error is one interrupt, and nothing is left to serve. -/
structure Serves (s : Soc) (e : EdgeReport) (s' : Soc) : Prop where
  ok : e.outcome = .ok ()
  settings_eq : s'.settings = s.settings
  calm : s'.Calm
  view : s'.view = { s.view with
    reception := s.reception.edge s.bootDivisor s.settings.terminator s.uartRx }
  queue_eq : s'.uart.queue = []
  silent : s'.uart.interrupting = false
  unselected : s'.plic.interrupting = false
  received_eq : s'.received = s.received ++ e.returned.toList
  count_eq : s'.uart.received = s.uart.received + e.returned.toList.length
  interrupts_eq : s'.interrupts = s.interrupts + e.returned.toList.length + e.isFramingError.toNat
  no_overrun : e.status &&& Uart.overrunError = 0
  mtime_eq : s'.clint.mtime = s.clint.mtime + 1
  finished_eq : s'.finished
    = (s.finished || e.returned.toList.any fun byte => s.settings.terminator == some byte)

lemma received_boot (s : Soc) : s.boot.2.uart.received = s.uart.received := by
  rw [boot]
  split_ifs with hbooted
  · rfl
  · refine Access.andThen_keeps (P := fun t : Soc => t.uart.received = s.uart.received)
      (received_bootUart _ _) fun _ t h => ?_
    exact Access.andThen_keeps (P := fun t : Soc => t.uart.received = s.uart.received) h
      fun _ t h => h

/-- The bytes that wait after an edge of a quiet UART are those its clock has returned. -/
lemma returned_eq_waiting {u : Uart} (h : u.Quiet d) {rx : Bool} {r : Receiver}
    {outcome : Option (UInt8 × Bool)} (hstep : u.receiver.stepFor d rx = (r, outcome)) :
    (u.clock rx).2.toList = Uart.waitingAfter outcome := by
  have hqueue := (u.clock_queues rx).1
  rw [h.queue_eq, List.nil_append] at hqueue
  rw [← hqueue, (h.clock hstep).2.2.1]

lemma statusAfter_no_overrun (outcome : Option (UInt8 × Bool)) :
    Uart.statusAfter outcome &&& Uart.overrunError = 0 := by
  rcases outcome with _ | ⟨byte, _ | _⟩ <;> rw [Uart.statusAfter] <;> decide

/-- **One edge out of reset.** -/
lemma Calm.serves (h : s.Calm) (hrst : s.rstN = true) :
    s.Serves (s.edgeReport ⟨true, s.uartRx⟩) s.risingEdge.2 := by
  obtain ⟨uart, plic, hboot, hquiet, hwired, hreceiver⟩ := h.boot
  obtain ⟨s', hedge, hsettled⟩ := h.risingEdge hrst
  obtain ⟨t, ht⟩ : ∃ t, ({ s with booted := true, uart, plic } : Soc) = t := ⟨_, rfl⟩
  obtain ⟨e, he⟩ : ∃ e, s.edgeReport ⟨true, s.uartRx⟩ = e := ⟨_, rfl⟩
  rw [ht] at hboot
  have hadvance : t.advance = .done () s' := by
    rwa [Soc.risingEdge, if_pos hrst, hboot, Access.done_andThen] at hedge
  -- the report shows the clock of the UART as the boot code has left it
  have hsampling : s.sampling ⟨true, s.uartRx⟩ = some (uart.clock s.uartRx) := by
    rw [sampling, if_pos rfl, hboot, ← ht]
    rfl
  have hreturned : e.returned = (uart.clock s.uartRx).2 := by
    rw [← he, edgeReport, hsampling]
    rfl
  have hstatus : e.status = (uart.clock s.uartRx).1.status := by
    rw [← he, edgeReport, hsampling]
    rfl
  have hcounted : uart.received = s.uart.received := by
    have hbooted := s.received_boot
    rw [hboot, ← ht] at hbooted
    exact hbooted
  obtain ⟨r, outcome, hstep⟩ : ∃ r outcome,
      s.reception.receiver.stepFor s.bootDivisor s.uartRx = (r, outcome) := ⟨_, _, rfl⟩
  have hstep' : uart.receiver.stepFor s.bootDivisor s.uartRx = (r, outcome) := hreceiver ▸ hstep
  have hwaiting : e.returned.toList = Uart.waitingAfter outcome := by
    rw [hreturned, returned_eq_waiting hquiet hstep']
  have hstatus' : e.status = Uart.statusAfter outcome := by
    rw [hstatus, (hquiet.clock hstep').2.2.2]
  have hframing : e.isFramingError = (Uart.statusAfter outcome &&& Uart.framingError != 0) := by
    rw [EdgeReport.isFramingError, hstatus']
  obtain ⟨hreceived, hinterrupts, hfinished⟩ :=
    edge_account s.settings.terminator hstep
  have hreception : s'.reception
      = s.reception.edge s.bootDivisor s.settings.terminator s.uartRx :=
    congrArg View.reception hsettled.view
  have hsilent : s'.uart.interrupting = false := hsettled.quiet.silent
  obtain ⟨hmtime, hcount, hplic⟩ := advance_devices (by rw [← ht]; exact hwired) hadvance
  rw [hedge, he, Access.snd_done]
  refine ⟨?_, hsettled.settings_eq, hsettled.calm, hsettled.view, hsettled.quiet.queue_eq,
    hsilent, hplic.trans hsilent, ?_, ?_, ?_, ?_, ?_, ?_⟩
  · rw [← he]
    exact congrArg Prod.fst hedge
  · rw [hwaiting]
    exact (congrArg Reception.received hreception).trans hreceived
  · rw [hcount, ← ht, hreturned, hcounted]
  · rw [hwaiting, hframing]
    exact (congrArg Reception.interrupts hreception).trans hinterrupts
  · rw [hstatus', statusAfter_no_overrun]
  · rw [hmtime, ← ht]
  · rw [hwaiting]
    exact (congrArg Reception.finished hreception).trans hfinished

/-! ## The whole history -/

/-- The system against the rising edges of its history and their reports. -/
structure Consistent (settings : SocSettings) (edges : List PinEdge) (log : List EdgeReport)
    (s : Soc) : Prop where
  /-- There is a report for each edge, and no edge was ended by a bus error. -/
  edges_eq : log.map EdgeReport.toPinEdge = edges
  ok : ∀ e ∈ log, e.outcome = .ok ()
  /-- Nothing waits in the UART, and no interrupt is up. -/
  queue_eq : s.uart.queue.length = 0
  silent : s.uart.interrupting = false
  unselected : s.plic.interrupting = false
  /-- What was received is what the clock of the UART returned, over all resets. -/
  received_eq : s.received = log.filterMap EdgeReport.returned
  count_eq : s.uart.received = s.received.length
  /-- Every byte and every framing error was one interrupt, and no byte was lost. -/
  interrupts_eq : s.interrupts = s.uart.received + log.countP EdgeReport.isFramingError
  no_overrun : ∀ e ∈ log, e.status &&& Uart.overrunError = 0
  /-- The timer counts the edges since the last one in reset. -/
  mtime_eq : s.clint.mtime.toNat = (edges.rtakeWhile PinEdge.running).length % 2 ^ 64
  /-- The system has finished if the terminator has arrived since then. -/
  finished_iff : s.finished = true ↔ ∃ byte, settings.terminator = some byte
    ∧ byte ∈ (log.rtakeWhile fun e => e.running).filterMap EdgeReport.returned
  /-- All of it follows from the levels of the line at the edges. -/
  reception_eq : s.reception = receptionOf settings edges

/-- What has come of the line, from the edges alone. -/
lemma Consistent.outcome_eq {settings : SocSettings} {edges : List PinEdge} {log : List EdgeReport}
    (h : s.Consistent settings edges log) :
    s.received = (receptionOf settings edges).received
      ∧ s.interrupts = (receptionOf settings edges).interrupts
      ∧ s.finished = (receptionOf settings edges).finished := by
  rw [← h.reception_eq]
  exact ⟨rfl, rfl, rfl⟩

/-- Consistent, and ready for the next edge. -/
structure Kept (settings : SocSettings) (edges : List PinEdge) (log : List EdgeReport) (s : Soc) :
    Prop extends s.Consistent settings edges log where
  settings_eq : s.settings = settings
  calm : s.Calm

variable {settings : SocSettings} {edges : List PinEdge} {log : List EdgeReport}

lemma interrupting_cleared (sent received : ℕ) :
    (Uart.cleared sent received).interrupting = false := by
  have hword : (Uart.cleared sent received).regs.word Uart.enableOffset = 0 := by
    rw [Uart.cleared, Uart.word_refreshStatus _ (by decide), RegisterBlock.word_zero]
  rw [Uart.interrupting, Uart.dataInterrupt, Uart.errorInterrupt, hword]
  simp

lemma kept_new (settings : SocSettings) : (new settings).Kept settings [] [] := by
  refine ⟨⟨rfl, ?_, rfl, interrupting_cleared 0 0, rfl, rfl, rfl, rfl, ?_, ?_, ?_, rfl⟩, rfl,
    calm_new settings⟩
  · simp
  · simp
  · show Clint.initial.mtime.toNat = _
    simp
  · show false = true ↔ _
    simp

/-- The pins do not matter. -/
lemma Kept.congr (h : s.Kept settings edges log) (hsettings : t.settings = s.settings)
    (hbooted : t.booted = s.booted) (huart : t.uart = s.uart) (hplic : t.plic = s.plic)
    (hclint : t.clint = s.clint) (hreceived : t.received = s.received)
    (hinterrupts : t.interrupts = s.interrupts) (hfinished : t.finished = s.finished) :
    t.Kept settings edges log where
  edges_eq := h.edges_eq
  ok := h.ok
  queue_eq := by rw [huart, h.queue_eq]
  silent := by rw [huart, h.silent]
  unselected := by rw [hplic, h.unselected]
  received_eq := by rw [hreceived, h.received_eq]
  count_eq := by rw [huart, hreceived, h.count_eq]
  interrupts_eq := by rw [hinterrupts, huart, h.interrupts_eq]
  no_overrun := h.no_overrun
  mtime_eq := by rw [hclint, h.mtime_eq]
  finished_iff := by rw [hfinished, h.finished_iff]
  reception_eq := by
    rw [← h.reception_eq, reception, reception, huart, hreceived, hinterrupts, hfinished]
  settings_eq := hsettings.trans h.settings_eq
  calm := h.calm.congr hsettings hbooted huart hplic

/-- What holds of every report holds after one more. -/
lemma forall_mem_concat {P : EdgeReport → Prop} {e : EdgeReport} (h : ∀ x ∈ log, P x) (he : P e) :
    ∀ x ∈ log ++ [e], P x := by
  intro x hx
  rcases List.mem_append.mp hx with hx | hx
  · exact h x hx
  · rw [List.mem_singleton.mp hx]
    exact he

/-- An edge out of reset. -/
lemma Kept.edge (h : s.Kept settings edges log) (hrst : s.rstN = true) :
    s.risingEdge.2.Kept settings (edges ++ [⟨true, s.uartRx⟩])
      (log ++ [s.edgeReport ⟨true, s.uartRx⟩]) := by
  obtain ⟨s', hs'⟩ : ∃ s', s.risingEdge.2 = s' := ⟨_, rfl⟩
  obtain ⟨e, he⟩ : ∃ e, s.edgeReport ⟨true, s.uartRx⟩ = e := ⟨_, rfl⟩
  have hedge : e.toPinEdge = ⟨true, s.uartRx⟩ := by rw [← he, edgeReport]
  have hserves := h.calm.serves hrst
  rw [hs', he] at hserves
  rw [hs', he]
  have hdivisor : s.bootDivisor = divisorFor settings := by
    rw [divisorFor, bootDivisor, bootDivisor, h.settings_eq]
    rfl
  have hsince : (log ++ [e]).rtakeWhile (fun e => e.running)
      = log.rtakeWhile (fun e => e.running) ++ [e] :=
    List.rtakeWhile_concat_pos _ _ _ (by rw [hedge])
  have hlist : List.filterMap EdgeReport.returned [e] = e.returned.toList := by
    cases hreturned : e.returned <;> simp [hreturned]
  refine ⟨⟨?_, forall_mem_concat h.ok hserves.ok, ?_, hserves.silent, hserves.unselected, ?_, ?_,
    ?_, forall_mem_concat h.no_overrun hserves.no_overrun, ?_, ?_, ?_⟩,
    hserves.settings_eq.trans h.settings_eq, hserves.calm⟩
  · rw [List.map_append, h.edges_eq, List.map_singleton, hedge]
  · rw [hserves.queue_eq]
    rfl
  · rw [hserves.received_eq, h.received_eq, List.filterMap_append, hlist]
  · rw [hserves.count_eq, hserves.received_eq, List.length_append, h.count_eq]
  · rw [hserves.interrupts_eq, hserves.count_eq, h.interrupts_eq, List.countP_append,
      List.countP_singleton]
    cases e.isFramingError <;> simp <;> omega
  · rw [hserves.mtime_eq, UInt64.toNat_add, h.mtime_eq, List.rtakeWhile_concat_pos _ _ _ rfl,
      List.length_append]
    simp
  · rw [hserves.finished_eq, hsince, List.filterMap_append, hlist, Bool.or_eq_true, h.finished_iff,
      h.settings_eq, List.any_eq_true]
    constructor
    · rintro (⟨byte, hterm, hmem⟩ | ⟨byte, hmem, hterm⟩)
      · exact ⟨byte, hterm, List.mem_append_left _ hmem⟩
      · exact ⟨byte, by simpa using hterm, List.mem_append_right _ hmem⟩
    · rintro ⟨byte, hterm, hmem⟩
      rcases List.mem_append.mp hmem with hmem | hmem
      · exact .inl ⟨byte, hterm, hmem⟩
      · exact .inr ⟨byte, hmem, by simpa using hterm⟩
  · have hreception := congrArg View.reception hserves.view
    rw [receptionOf_concat, PinEdge.receive, if_pos rfl, ← h.reception_eq, ← hdivisor,
      ← h.settings_eq]
    exact hreception

lemma risingEdge_reset (hrst : s.rstN = false) : s.risingEdge = .done () s.reset := by
  rw [risingEdge, if_neg (by rw [hrst]; exact Bool.false_ne_true)]

/-- An edge in reset: all begins again but what was received. -/
lemma Kept.reset (h : s.Kept settings edges log) (hrst : s.rstN = false) :
    s.risingEdge.2.Kept settings (edges ++ [⟨false, s.uartRx⟩])
      (log ++ [s.edgeReport ⟨false, s.uartRx⟩]) := by
  have hreport : s.edgeReport ⟨false, s.uartRx⟩ = ⟨⟨false, s.uartRx⟩, .ok (), none, 0⟩ := by
    rw [edgeReport, risingEdge_reset hrst, sampling, if_neg Bool.false_ne_true]
    rfl
  have hcount : s.reset.uart.received = s.uart.received := by
    simp only [Soc.reset, Uart.reset, Uart.cleared, Uart.received_refreshStatus]
  rw [hreport, risingEdge_reset hrst, Access.snd_done]
  refine ⟨⟨?_, forall_mem_concat h.ok rfl, ?_, interrupting_cleared _ _, rfl, ?_, ?_, ?_,
    forall_mem_concat h.no_overrun (show (0 : UInt32) &&& Uart.overrunError = 0 by decide), ?_, ?_,
    ?_⟩, h.settings_eq, s.calm_reset⟩
  · rw [List.map_append, h.edges_eq, List.map_singleton]
  · simp only [Soc.reset, Uart.reset, Uart.cleared, Uart.queue_refreshStatus, List.length_nil]
  · rw [List.filterMap_append, ← h.received_eq]
    exact (List.append_nil _).symm
  · exact hcount.trans h.count_eq
  · have hclean : ¬ ((0 : UInt32) &&& Uart.framingError != 0) = true := by decide
    rw [hcount, List.countP_append, List.countP_singleton, EdgeReport.isFramingError, if_neg hclean]
    exact h.interrupts_eq
  · rw [List.rtakeWhile_concat_neg _ _ _ Bool.false_ne_true]
    show Clint.initial.mtime.toNat = _
    simp
  · rw [List.rtakeWhile_concat_neg _ _ _ Bool.false_ne_true]
    show false = true ↔ _
    simp
  · rw [reception_reset, h.reception_eq, receptionOf_concat, PinEdge.receive,
      if_neg Bool.false_ne_true]

/-- The levels of the pins. -/
def pinLevels (s : Soc) : PinLevels :=
  ⟨s.clk, s.rstN, s.uartRx, s.lastClk⟩

/-- The reaction to the clock, with the edge that the pins show. -/
lemma Kept.evalClock (h : s.Kept settings edges log) :
    s.evalClock.Kept settings (edges ++ s.pinLevels.edgesOn .eval)
        (log ++ (s.pinLevels.edgesOn .eval).map s.edgeReport)
      ∧ s.evalClock.clk = s.clk ∧ s.evalClock.rstN = s.rstN ∧ s.evalClock.uartRx = s.uartRx := by
  rw [PinLevels.edgesOn, Soc.evalClock]
  by_cases hrise : (s.clk && !s.lastClk) = true
  · rw [if_pos hrise, if_pos (show (s.pinLevels.clk && !s.pinLevels.evaluated) = true from hrise),
      List.map_singleton]
    simp only [pinLevels]
    cases hrst : s.rstN with
    | true =>
      have hview := (h.calm.serves hrst).view
      exact ⟨h.edge hrst, congrArg View.clk hview, (congrArg View.rstN hview).trans hrst,
        congrArg View.uartRx hview⟩
    | false =>
      refine ⟨h.reset hrst, ?_⟩
      rw [risingEdge_reset hrst]
      exact ⟨rfl, hrst, rfl⟩
  · rw [if_neg hrise, if_neg (show ¬ (s.pinLevels.clk && !s.pinLevels.evaluated) = true from hrise),
      List.map_nil, List.append_nil, List.append_nil]
    exact ⟨h, rfl, rfl, rfl⟩

/-- Every event keeps the system consistent, and the pins are as the event leaves them. -/
lemma Kept.apply (h : s.Kept settings edges log) (event : PinEvent) :
    (event.apply s).Kept settings (edges ++ s.pinLevels.edgesOn event)
        (log ++ (s.pinLevels.edgesOn event).map s.edgeReport)
      ∧ (event.apply s).pinLevels = s.pinLevels.next event := by
  have hpins : ∀ (clk rstN uartRx : Bool) (tap : TapLevels),
      ({ s with clk, rstN, uartRx, tap } : Soc).Kept settings (edges ++ []) (log ++ []) := by
    intro clk rstN uartRx tap
    rw [List.append_nil, List.append_nil]
    exact h.congr rfl rfl rfl rfl rfl rfl rfl rfl
  cases event with
  | clk level => exact ⟨hpins level s.rstN s.uartRx s.tap, rfl⟩
  | rstN level => exact ⟨hpins s.clk level s.uartRx s.tap, rfl⟩
  | uartRx level => exact ⟨hpins s.clk s.rstN level s.tap, rfl⟩
  | tap levels => exact ⟨hpins s.clk s.rstN s.uartRx levels, rfl⟩
  | eval =>
    obtain ⟨hkept, hclk, hrst, hrx⟩ := h.evalClock
    refine ⟨hkept.congr rfl rfl rfl rfl rfl rfl rfl rfl, ?_⟩
    show PinLevels.mk s.evalClock.clk s.evalClock.rstN s.evalClock.uartRx s.evalClock.clk = _
    rw [hclk, hrst, hrx]
    rfl

lemma Kept.after (h : s.Kept settings edges log) (history : List PinEvent) :
    (s.after history).Kept settings (edges ++ s.pinLevels.edges history)
      (log ++ s.reports s.pinLevels history) := by
  induction history generalizing s edges log with
  | nil => simpa [Soc.after, Calls.after, PinLevels.edges, reports] using h
  | cons event history ih =>
    obtain ⟨hkept, hpins⟩ := h.apply event
    have hrest := ih hkept
    rw [hpins] at hrest
    rw [PinLevels.edges, reports, ← List.append_assoc, ← List.append_assoc]
    exact hrest

/-! ## The handler comes to its end -/

lemma service_eq_drain (h : s.uart.status &&& Uart.dataReady ≠ 0) :
    s.service = s.handling.drain (s.uart.queue.length + 1) := by
  rw [service, readUart_status, Access.done_andThen, if_neg h]
  rfl

/-- After an edge has sampled the line, the status shows a byte exactly if one waits, and reading
the status does not change that. -/
lemma statusAfter_ready (outcome : Option (UInt8 × Bool)) :
    RegisterBlock.maskWord (Uart.statusAfter outcome) Uart.lineErrors 0 &&& Uart.dataReady = 0
      ↔ Uart.waitingAfter outcome = [] := by
  rcases outcome with _ | ⟨byte, _ | _⟩
  · exact ⟨fun _ => rfl, fun _ => by decide⟩
  · exact ⟨fun _ => rfl, fun _ => by rw [Uart.statusAfter]; decide⟩
  · rw [Uart.statusAfter]
    exact ⟨fun h => absurd h (by decide), fun h => absurd h (List.cons_ne_nil _ _)⟩

/-- On the next edge out of reset the loop of the handler ends, and if it is entered it is what the
handler does. -/
lemma Calm.drains (h : s.Calm) :
    ∃ t t', s.boot = .done () t ∧ t.sampled.route.handling.Drains t'
      ∧ (t.sampled.route.uart.status &&& Uart.dataReady ≠ 0 →
          t.sampled.route.service = .done () t') := by
  obtain ⟨uart, plic, hboot, hquiet, -, -⟩ := h.boot
  obtain ⟨t, ht⟩ : ∃ t, ({ s with booted := true, uart, plic } : Soc) = t := ⟨_, rfl⟩
  rw [ht] at hboot
  obtain ⟨r, outcome, hstep⟩ : ∃ r outcome,
      uart.receiver.stepFor s.bootDivisor s.uartRx = (r, outcome) := ⟨_, _, rfl⟩
  obtain ⟨hprogrammed, -, hqueue, hstatus⟩ := hquiet.clock hstep
  obtain ⟨u, hu⟩ : ∃ u, (uart.clock s.uartRx).1 = u := ⟨_, rfl⟩
  have huart : t.sampled.route.uart = u := by
    rw [uart_route, sampled, ← ht]
    exact hu
  rw [hu] at hprogrammed hqueue hstatus
  have hhandling : t.sampled.route.handling.uart = u.statusRead := by rw [handling, huart]
  obtain ⟨t', hdrains, hdrain⟩ :=
    drains_of_programmed (s := t.sampled.route.handling) (d := s.bootDivisor)
      (by rw [hhandling]; exact hprogrammed.statusRead)
      (by rw [hhandling, Uart.status_statusRead, hstatus, Uart.queue_statusRead, hqueue,
        statusAfter_ready])
  refine ⟨t, t', hboot, hdrains, ?_⟩
  intro hready
  rw [service_eq_drain hready, ← hdrain, huart, hhandling, Uart.queue_statusRead]

/-- **The system under any history of its pins.**  Set the pins of a new system and evaluate it in
any order, as often as one likes.  The rising edges are the evaluations that find the clock high
after one that found it low, each with the levels of reset and line that were set last.  The system
is then consistent with them, and it has not served more interrupts than there were events.  On the
next edge out of reset the boot code succeeds, the loop of the interrupt handler, which has no
limit, comes to its end, and that is where the handler ends if it finds a byte. -/
theorem consistent_after (settings : SocSettings) (history : List PinEvent) :
    let s := (new settings).after history
    s.Consistent settings (PinLevels.edges {} history) ((new settings).reports {} history)
      ∧ s.interrupts ≤ history.length
      ∧ ∃ t t', s.boot = (.ok (), t)
          ∧ t.sampled.route.handling.Drains t'
          ∧ (t.sampled.route.uart.status &&& Uart.dataReady ≠ 0 →
              t.sampled.route.service = (.ok (), t')) := by
  intro s
  have hkept : s.Kept settings (PinLevels.edges {} history) ((new settings).reports {} history) :=
    (kept_new settings).after history
  refine ⟨hkept.toConsistent, ?_, hkept.calm.drains⟩
  rw [hkept.outcome_eq.2.1]
  exact (interrupts_receptionOf_le _ _).trans (PinLevels.length_edges_le _ _)

/-- A system whose bits are two clock cycles long and that finishes on the byte four. -/
def briskSettings : SocSettings :=
  { clock := ⟨2⟩, baud := 1, terminator := some 4 }

/-- A clock cycle with a level on the line, evaluated more often than the clock changes. -/
def cycle (level : Bool) : List PinEvent :=
  [.uartRx level, .clk true, .eval, .eval, .clk false, .eval]

/-- An edge in reset and the frame of the byte four. -/
def terminatorFrame : List PinEvent :=
  [.eval] ++ cycle true ++ [.rstN true] ++ (frameWave 2 4).flatMap cycle

/-- Another edge in reset, three idle cycles, and a clock that is left high. -/
def resetAgain : List PinEvent :=
  [.rstN false] ++ cycle true ++ [.rstN true] ++ cycle true ++ cycle true
    ++ [.clk true, .eval, .eval, .clk true, .eval]

/-- The byte is received and finishes the run; the reset starts the timer again and forgets that the
run had finished, but not the byte. -/
theorem consistent_after_resetAgain :
    let s := (new briskSettings).after terminatorFrame
    let s' := (new briskSettings).after (terminatorFrame ++ resetAgain)
    (s.received = [4] ∧ s.interrupts = 1 ∧ s.finished = true ∧ s.clint.mtime.toNat = 20)
      ∧ s'.received = [4] ∧ s'.interrupts = 1 ∧ s'.finished = false
      ∧ s'.clint.mtime.toNat = 3 := by
  intro s s'
  have hs := (consistent_after briskSettings terminatorFrame).1
  have hs' := (consistent_after briskSettings (terminatorFrame ++ resetAgain)).1
  obtain ⟨hreceived, hinterrupts, hfinished⟩ := hs.outcome_eq
  obtain ⟨hreceived', hinterrupts', hfinished'⟩ := hs'.outcome_eq
  refine ⟨⟨hreceived.trans ?_, hinterrupts.trans ?_, hfinished.trans ?_, hs.mtime_eq.trans ?_⟩,
    hreceived'.trans ?_, hinterrupts'.trans ?_, hfinished'.trans ?_, hs'.mtime_eq.trans ?_⟩ <;>
    decide +kernel

end Soc

end SocBench
