import SocBench.Proofs.FirmwareBoot

/-!
# The reference system, one clock edge at a time

Seen from outside, all that the firmware, the interrupt controller and the registers of the UART do
on a rising edge is this: when a frame ends with a stop bit its byte is appended to what was
received, and when it ends without one an interrupt is served for nothing.  `Reception` is that
summary, and `Reception.edge` one edge of it.

Between two edges the system is `Soc.Calm`: it waits to be booted, or it is booted and programmed
with nothing left to serve.  Main results: an edge of a calm system is an edge of its reception and
leaves it calm (`Soc.Calm.risingEdge`), a reset makes any system calm (`Soc.calm_reset`), and so a
bench that only toggles the clock and sets pins sees no more than a `Soc.View` (`Soc.Poised.rise`,
`Soc.Poised.rise_reset`, `Soc.Poised.fall`).
-/

namespace SocBench

/-! ## What the firmware sees of the line -/

/-- One edge of a receiver behind a divisor. Without one it stands still. -/
def Receiver.stepFor (divisor : ℕ) (r : Receiver) (rx : Bool) :
    Receiver × Option (UInt8 × Bool) :=
  if divisor = 0 then (r, none) else r.step (divisor + 1) rx

/-- The state of the receiver and what has come of the frames so far. -/
structure Reception where
  receiver : Receiver
  received : List UInt8
  interrupts : ℕ
  finished : Bool

/-- One edge: the end of a frame is an interrupt, and with a stop bit also a byte, which may be the
terminator. -/
def Reception.edge (divisor : ℕ) (terminator : Option UInt8) (x : Reception) (rx : Bool) :
    Reception :=
  match x.receiver.stepFor divisor rx with
  | (receiver, none) => { x with receiver }
  | (receiver, some (byte, true)) =>
    { receiver
      received := x.received ++ [byte]
      interrupts := x.interrupts + 1
      finished := x.finished || terminator == some byte }
  | (receiver, some (_, false)) => { x with receiver, interrupts := x.interrupts + 1 }

namespace Uart

variable {d : ℕ} {u : Uart}

/-- Line status of a UART with a byte to read. -/
lemma status_refreshStatus_cons {byte : UInt8} {rest : List UInt8} (hqueue : u.queue = byte :: rest)
    (hclean : u.status &&& lineErrors = 0) :
    u.refreshStatus.status = transmitterEmpty ||| dataReady := by
  rw [status_refreshStatus, hclean, hqueue]
  rfl

/-- The bytes that wait in a quiet UART after an edge with the given outcome. -/
def waitingAfter : Option (UInt8 × Bool) → List UInt8
  | some (byte, true) => [byte]
  | _ => []

/-- The line status of a quiet UART after an edge with the given outcome. -/
def statusAfter : Option (UInt8 × Bool) → UInt32
  | none => transmitterEmpty
  | some (_, true) => transmitterEmpty ||| dataReady
  | some (_, false) => transmitterEmpty ||| framingError

/-- What a quiet UART makes of an edge, by what its receiver does. -/
lemma Quiet.clock (h : u.Quiet d) {rx : Bool} {r : Receiver} {outcome : Option (UInt8 × Bool)}
    (hstep : u.receiver.stepFor d rx = (r, outcome)) :
    (u.clock rx).1.Programmed d ∧ (u.clock rx).1.receiver = r
      ∧ (u.clock rx).1.queue = waitingAfter outcome
      ∧ (u.clock rx).1.status = statusAfter outcome := by
  rw [Receiver.stepFor] at hstep
  split at hstep
  case isTrue hd =>
    obtain ⟨rfl, rfl⟩ := Prod.mk.inj hstep
    have hoff : u.isConfigured = false := by
      rw [Uart.isConfigured, h.divisor_eq, hd]
      rfl
    have hclock : u.clock rx = (u, none) := by
      rw [Uart.clock, hoff]
      rfl
    rw [hclock]
    exact ⟨h.toProgrammed, rfl, h.queue_eq, h.status_eq⟩
  case isFalse hd =>
    have hl : u.Listening (d + 1) := h.listening (by omega)
    have hr := h.withReceiver r
    rcases outcome with _ | ⟨byte, _ | _⟩
    · rw [clock_of_none hl hstep]
      exact ⟨hr.toProgrammed, rfl, hr.queue_eq, hr.status_eq⟩
    · -- no stop bit: the error is flagged in a status that showed none
      have haccept : ({ u with receiver := r } : Uart).accept byte false
          = (({ u with receiver := r } : Uart).flag framingError, none) := rfl
      rw [clock_of_some hl hstep, haccept]
      refine ⟨hr.toProgrammed.flag framingError, by rw [receiver_flag],
        (queue_flag _ _).trans hr.queue_eq, ?_⟩
      have hmask : (({ u with receiver := r } : Uart).flag framingError).status
          = RegisterBlock.maskWord u.status 0 framingError :=
        RegisterBlock.word_updateWord_same _ (by decide) _ _
      rw [hmask, h.status_eq, statusAfter]
      decide
    · -- a stop bit: the queue was empty, so the byte is the only one in it
      have hclean : ({ u with receiver := r } : Uart).status &&& lineErrors = 0 := by
        rw [hr.status_eq]
        decide
      let w : Uart := { u with receiver := r, queue := [byte], received := u.received + 1 }
      have haccept : ({ u with receiver := r } : Uart).accept byte true
          = (w.refreshStatus, some byte) := by
        simp only [accept, Bool.not_true, Bool.false_eq_true, if_false, h.queue_eq]
        rfl
      have hw : w.Programmed d := ⟨h.divisor_eq, h.enable_eq, h.control_eq, h.trigger_eq⟩
      rw [clock_of_some hl hstep, haccept]
      exact ⟨hw.refreshStatus, receiver_refreshStatus w, queue_refreshStatus w,
        status_refreshStatus_cons rfl hclean⟩

/-- A programmed UART whose queue has run empty is quiet. -/
lemma Programmed.quiet_refreshStatus (h : u.Programmed d) (hqueue : u.queue = [])
    (hclean : u.status &&& lineErrors = 0) : u.refreshStatus.Quiet d :=
  ⟨h.refreshStatus, (queue_refreshStatus u).trans hqueue, status_refreshStatus_nil hqueue hclean⟩

lemma Programmed.quiet_statusRead (h : u.Programmed d) (hqueue : u.queue = [])
    (hstatus : RegisterBlock.maskWord u.status lineErrors 0 = transmitterEmpty) :
    u.statusRead.Quiet d :=
  ⟨h.statusRead, (queue_statusRead u).trans hqueue, (status_statusRead u).trans hstatus⟩

end Uart

/-! ## The interrupt handler -/

namespace Soc

open Uart (dataReady framingError transmitterEmpty)

variable {d : ℕ} {s : Soc}

lemma readUart_status (s : Soc) :
    s.readUart Uart.statusOffset = .done s.uart.status { s with uart := s.uart.statusRead } := by
  rw [readUart, Uart.read_status, Access.map_done]

lemma readUart_data (h : s.uart.divisorShown = false) :
    s.readUart Uart.dataOffset
      = .done (s.uart.queue.headD 0).toUInt32 { s with uart := s.uart.dataRead } := by
  rw [readUart, Uart.read_data h, Access.map_done]

/-- With nothing to read the handler has only cleared the errors. -/
lemma service_error (hready : s.uart.status &&& dataReady = 0) :
    s.service = .done () { s with uart := s.uart.statusRead, interrupts := s.interrupts + 1 } := by
  rw [service, readUart_status, Access.done_andThen, if_pos hready]

lemma drain_done (limit : ℕ) (hready : s.uart.status &&& dataReady = 0) :
    s.drain (limit + 1) = .done () { s with uart := s.uart.statusRead } := by
  rw [drain, readUart_status, Access.done_andThen, if_pos hready]

lemma drain_byte (limit : ℕ) {byte : UInt8} {rest : List UInt8} {v : Uart}
    (h : s.uart.Programmed d) (hready : s.uart.status &&& dataReady ≠ 0)
    (hqueue : s.uart.queue = byte :: rest)
    (hv : Uart.refreshStatus { s.uart.statusRead with queue := rest } = v) :
    drain (limit + 1) s = drain limit (receive { s with uart := v } byte) := by
  obtain ⟨read, hread⟩ : ∃ read, s.uart.statusRead = read := ⟨_, rfl⟩
  have hshown : read.divisorShown = false := hread ▸ h.statusRead.divisorShown
  have hwaiting : read.queue = byte :: rest := by rw [← hread, Uart.queue_statusRead, hqueue]
  rw [hread] at hv
  rw [drain, readUart_status, Access.done_andThen, if_neg hready, hread,
    readUart_data (s := { s with uart := read }) hshown, Access.done_andThen, hwaiting,
    Uart.dataRead, hwaiting, List.headD_cons, List.tail_cons, hv]
  simp

/-- With one byte to read the handler takes it and then finds the queue empty. -/
lemma service_byte {byte : UInt8} (h : s.uart.Programmed d) (hqueue : s.uart.queue = [byte])
    (hstatus : s.uart.status = transmitterEmpty ||| dataReady) :
    ∃ u : Uart, s.service
        = .done () (receive { s with uart := u, interrupts := s.interrupts + 1 } byte)
      ∧ u.Quiet d ∧ u.receiver = s.uart.receiver := by
  have hready : s.uart.status &&& dataReady ≠ 0 := by
    rw [hstatus]
    decide
  -- the status is read once for the cause and once in each of the two turns of the loop
  obtain ⟨read, hread⟩ : ∃ read, s.uart.statusRead = read := ⟨_, rfl⟩
  have hprogrammed : read.Programmed d := hread ▸ h.statusRead
  have hwaiting : read.queue = [byte] := by rw [← hread, Uart.queue_statusRead, hqueue]
  have hsame : read.receiver = s.uart.receiver := by rw [← hread, Uart.receiver_statusRead]
  have hstatus' : read.status = transmitterEmpty ||| dataReady := by
    rw [← hread, Uart.status_statusRead, hstatus]
    decide
  have hready' : read.status &&& dataReady ≠ 0 := by
    rw [hstatus']
    decide
  obtain ⟨emptied, hemptied⟩ :
      ∃ v, Uart.refreshStatus { read.statusRead with queue := [] } = v := ⟨_, rfl⟩
  have hquiet : emptied.Quiet d := by
    rw [← hemptied]
    refine (hprogrammed.statusRead.withQueue []).quiet_refreshStatus rfl ?_
    rw [Uart.status_withQueue, Uart.status_statusRead, hstatus']
    decide
  have hsame' : emptied.receiver = read.receiver := by
    rw [← hemptied, Uart.receiver_refreshStatus, Uart.receiver_statusRead]
  have hempty : emptied.status &&& dataReady = 0 := by
    rw [hquiet.status_eq]
    decide
  let t : Soc := { s with uart := read, interrupts := s.interrupts + 1 }
  refine ⟨emptied.statusRead, ?_, hquiet.toProgrammed.quiet_statusRead hquiet.queue_eq ?_,
    by rw [Uart.receiver_statusRead, hsame', hsame]⟩
  · have hservice : s.service = t.drain (read.queue.length + 1) := by
      rw [service, readUart_status, Access.done_andThen, if_neg hready, hread]
    rw [hservice, hwaiting]
    show t.drain 2 = _
    rw [drain_byte (s := t) 1 hprogrammed hready' hwaiting hemptied]
    exact drain_done (s := receive { t with uart := emptied } byte) 0 hempty
  · rw [hquiet.status_eq]
    decide

/-! ## A rising edge of the whole system -/

lemma route_wired (h : s.plic.Wired) : s.route.plic.Wired :=
  (h.setLine .uart0 s.uart.interrupting).update

lemma choose_route (h : s.plic.Wired) :
    (s.plic.setLine .uart0 s.uart.interrupting).choose
      = if s.uart.interrupting then some .uart0 else none := by
  rw [(h.setLine .uart0 s.uart.interrupting).choose, Plic.isPending_setLine, if_pos rfl]

/-- The controller passes on what the UART says. -/
lemma interrupting_route (h : s.plic.Wired) :
    s.route.plic.interrupting = s.uart.interrupting := by
  show (s.plic.setLine .uart0 s.uart.interrupting).choose.isSome = s.uart.interrupting
  rw [choose_route h]
  cases s.uart.interrupting <;> rfl

lemma read_vector_route (h : s.plic.Wired) (hint : s.uart.interrupting = true) :
    s.route.plic.read .word Plic.vectorOffset = .ok uartVector.toNat :=
  (h.setLine .uart0 s.uart.interrupting).read_vector (by rw [choose_route h, if_pos hint])

/-- The system on a rising edge before the firmware looks: the timer has counted and the line was
sampled. -/
def sampled (s : Soc) : Soc :=
  { s with clint := s.clint.tick, uart := (s.uart.clock s.uartRx).1 }

lemma advance_eq (s : Soc) :
    s.advance = if s.sampled.route.plic.interrupting then
      match s.sampled.route.plic.read .word Plic.vectorOffset with
      | .error e => .refused e s.sampled.route
      | .ok vector =>
        if vector = uartVector.toNat then
          s.sampled.route.service.andThen fun _ t => .done () t.route
        else .done () s.sampled.route
    else .done () s.sampled.route :=
  rfl

lemma advance_of_silent (h : s.plic.Wired) (hint : s.sampled.uart.interrupting = false) :
    s.advance = .done () s.sampled.route := by
  have hroute := (interrupting_route (s := s.sampled) h).trans hint
  simp only [advance_eq, hroute, Bool.false_eq_true, if_false]

lemma advance_of_served (h : s.plic.Wired) (hint : s.sampled.uart.interrupting = true) {t : Soc}
    (hservice : s.sampled.route.service = .done () t) : s.advance = .done () t.route := by
  have hroute := (interrupting_route (s := s.sampled) h).trans hint
  simp only [advance_eq, hroute, if_true, read_vector_route (s := s.sampled) h hint, hservice,
    Access.done_andThen]

/-- What the line has come to so far. -/
def reception (s : Soc) : Reception :=
  ⟨s.uart.receiver, s.received, s.interrupts, s.finished⟩

/-- The firmware of `s'` runs and has served everything.  Apart from what was received, from the
devices and from the boot, it is the system `s`. -/
structure Settled (s : Soc) (x : Reception) (s' : Soc) : Prop where
  frame : ∃ uart clint plic, s' = { s with
    booted := true, uart, clint, plic,
    received := x.received, interrupts := x.interrupts, finished := x.finished }
  quiet : s'.uart.Quiet s.bootDivisor
  wired : s'.plic.Wired
  receiver : s'.uart.receiver = x.receiver

lemma settled_route {t : Soc} {x : Reception}
    (frame : ∃ uart clint plic, t = { s with
      booted := true, uart, clint, plic,
      received := x.received, interrupts := x.interrupts, finished := x.finished })
    (quiet : t.uart.Quiet s.bootDivisor) (wired : t.plic.Wired)
    (receiver : t.uart.receiver = x.receiver) : s.Settled x t.route := by
  obtain ⟨uart, clint, plic, rfl⟩ := frame
  exact ⟨⟨uart, clint, _, rfl⟩, quiet, route_wired wired, receiver⟩

/-- Once the firmware runs, an edge serves at most one frame and leaves nothing behind. -/
lemma advance_settled (hbooted : s.booted = true) (hquiet : s.uart.Quiet s.bootDivisor)
    (hwired : s.plic.Wired) :
    ∃ s', s.advance = .done () s'
      ∧ s.Settled (s.reception.edge s.bootDivisor s.settings.terminator s.uartRx) s' := by
  obtain ⟨r, outcome, hstep⟩ : ∃ r outcome,
      s.reception.receiver.stepFor s.bootDivisor s.uartRx = (r, outcome) := ⟨_, _, rfl⟩
  obtain ⟨hprogrammed, hreceiver, hqueue, hstatus⟩ := hquiet.clock hstep
  obtain ⟨u, hu⟩ : ∃ u, (s.uart.clock s.uartRx).1 = u := ⟨_, rfl⟩
  have hsampled : s.sampled = { s with clint := s.clint.tick, uart := u } := by
    rw [sampled, hu]
  rw [hu] at hprogrammed hreceiver hqueue hstatus
  -- the UART raises its interrupt exactly if a frame has ended on this edge
  have hint : s.sampled.uart.interrupting
      = (!(Uart.waitingAfter outcome).isEmpty
        || Uart.statusAfter outcome &&& Uart.lineErrors != 0) := by
    rw [hsampled, ← hqueue, ← hstatus]
    exact hprogrammed.interrupting_eq
  obtain ⟨t, ht⟩ : ∃ t, s.sampled.route = t := ⟨_, rfl⟩
  obtain ⟨plic, hroute, hwired'⟩ : ∃ plic : Plic,
      t = { s with clint := s.clint.tick, uart := u, plic } ∧ plic.Wired := by
    refine ⟨_, ?_, route_wired (s := s.sampled) hwired⟩
    rw [← ht, hsampled, route]
  have htu : t.uart = u := by rw [hroute]
  have htp : t.plic.Wired := by rwa [hroute]
  rw [← htu] at hprogrammed hreceiver hqueue hstatus
  simp only [Reception.edge, hstep]
  rcases outcome with _ | ⟨byte, _ | _⟩
  · refine ⟨_, advance_of_silent hwired (hint.trans (by decide)), ?_⟩
    rw [hsampled]
    rw [htu] at hprogrammed hreceiver hqueue hstatus
    exact settled_route ⟨u, s.clint.tick, s.plic, by simp only [hbooted, reception]⟩
      ⟨hprogrammed, hqueue, hstatus⟩ hwired hreceiver
  · -- a line error: the handler finds nothing to read
    have hservice := service_error (s := t) (by rw [hstatus, Uart.statusAfter]; decide)
    have hv : t.uart.statusRead.Quiet s.bootDivisor := by
      refine hprogrammed.quiet_statusRead hqueue ?_
      rw [hstatus, Uart.statusAfter]
      decide
    have herror : (Uart.statusAfter (some (byte, false)) &&& Uart.lineErrors != 0) = true := by
      rw [Uart.statusAfter]
      decide
    rw [herror, Bool.or_true] at hint
    rw [← ht] at hservice
    refine ⟨_, advance_of_served hwired hint hservice, ?_⟩
    refine settled_route ⟨u.statusRead, s.clint.tick, plic, ?_⟩ (by rwa [ht]) (by rwa [ht]) ?_
    · simp only [ht, hroute, hbooted, reception]
    · simp only [ht, Uart.receiver_statusRead, hreceiver]
  · obtain ⟨v, hservice, hv, hsame⟩ := service_byte hprogrammed hqueue hstatus
    rw [← ht] at hservice
    refine ⟨_, advance_of_served hwired (hint.trans rfl) hservice, ?_⟩
    refine settled_route ⟨v, s.clint.tick, plic, ?_⟩ hv (by rwa [ht]) (hsame.trans hreceiver)
    simp only [ht, hroute, receive, hbooted, reception]

/-! ## Between two edges -/

/-- How the system stands between two edges: either the boot code will find a UART without errors,
or it has run and there is nothing to serve. -/
inductive Calm (s : Soc) : Prop where
  | fresh (booted : s.booted = false) (clean : s.uart.status &&& Uart.lineErrors = 0)
  | running (booted : s.booted = true) (quiet : s.uart.Quiet s.bootDivisor)
      (wired : s.plic.Wired)

lemma bootDivisor_le (s : Soc) : s.bootDivisor ≤ 65535 :=
  Nat.min_le_right _ _

/-- The boot code succeeds, and touches only the two devices it programs. -/
lemma Calm.boot (h : s.Calm) :
    ∃ uart plic, s.boot = .done () { s with booted := true, uart, plic }
      ∧ uart.Quiet s.bootDivisor ∧ plic.Wired ∧ uart.receiver = s.uart.receiver := by
  cases h with
  | fresh booted clean =>
    obtain ⟨uart, huart, hquiet, hreceiver⟩ := bootUart_quiet s.bootDivisor_le clean
    obtain ⟨plic, hplic, hwired⟩ := bootPlic_wired s.plic
    refine ⟨uart, plic, ?_, hquiet, hwired, hreceiver⟩
    rw [Soc.boot, booted]
    simp only [Bool.false_eq_true, if_false, huart, hplic, Access.map_done, Access.done_andThen]
  | running booted quiet wired =>
    refine ⟨s.uart, s.plic, ?_, quiet, wired, rfl⟩
    rw [Soc.boot, booted]
    simp only [if_true, ← booted]

/-- **A rising edge is an edge of the reception.**  No bus error ever ends it early. -/
lemma Calm.risingEdge (h : s.Calm) (hrst : s.rstN = true) :
    ∃ s', s.risingEdge = .done () s'
      ∧ s.Settled (s.reception.edge s.bootDivisor s.settings.terminator s.uartRx) s' := by
  obtain ⟨uart, plic, hboot, hquiet, hwired, hreceiver⟩ := h.boot
  -- the edge itself starts from the system as the boot code leaves it
  obtain ⟨t, ht⟩ : ∃ t, ({ s with booted := true, uart, plic } : Soc) = t := ⟨_, rfl⟩
  rw [ht] at hboot
  have hdivisor : t.bootDivisor = s.bootDivisor := by rw [← ht, bootDivisor, bootDivisor]
  have hreception : t.reception = s.reception := by simp only [← ht, reception, hreceiver]
  have hquiet' : t.uart.Quiet t.bootDivisor := by rwa [hdivisor, ← ht]
  obtain ⟨s', hadvance, hsettled⟩ :=
    advance_settled (by rw [← ht]) hquiet' (by rwa [← ht])
  refine ⟨s', ?_, ?_⟩
  · rw [Soc.risingEdge, if_pos hrst, hboot, Access.done_andThen, hadvance]
  · obtain ⟨⟨uart', clint', plic', hframe⟩, quiet, wired, receiver⟩ := hsettled
    rw [hdivisor] at quiet
    have hterm : t.settings.terminator = s.settings.terminator := by rw [← ht]
    have hrx : t.uartRx = s.uartRx := by rw [← ht]
    rw [hdivisor, hreception, hterm, hrx] at hframe receiver
    refine ⟨⟨uart', clint', plic', ?_⟩, quiet, wired, receiver⟩
    rw [hframe, ← ht]

lemma clean_cleared (sent received : ℕ) :
    (Uart.cleared sent received).status &&& Uart.lineErrors = 0 := by
  rw [Uart.cleared, Uart.status_refreshStatus_nil rfl]
  · decide
  · rw [Uart.status, RegisterBlock.word_zero]
    decide

/-- A reset makes any system calm. -/
lemma calm_reset (s : Soc) : s.reset.Calm :=
  .fresh rfl (clean_cleared s.uart.sent s.uart.received)

lemma reception_reset (s : Soc) :
    s.reset.reception = { s.reception with receiver := .idle, finished := false } := by
  simp only [reset, reception, Uart.reset, Uart.cleared, Uart.receiver_refreshStatus]

lemma calm_new (settings : SocSettings) : (new settings).Calm :=
  .fresh rfl (clean_cleared 0 0)

/-- Calm is a matter of the firmware and its devices. -/
lemma Calm.congr {t : Soc} (h : s.Calm) (hsettings : t.settings = s.settings)
    (hbooted : t.booted = s.booted) (huart : t.uart = s.uart) (hplic : t.plic = s.plic) :
    t.Calm := by
  have hdivisor : t.bootDivisor = s.bootDivisor := by rw [bootDivisor, bootDivisor, hsettings]
  cases h with
  | fresh booted clean => exact .fresh (hbooted.trans booted) (by rwa [huart])
  | running booted quiet wired =>
    exact .running (hbooted.trans booted) (by rwa [huart, hdivisor]) (by rwa [hplic])

lemma Calm.clean (h : s.Calm) : s.uart.status &&& Uart.lineErrors = 0 := by
  cases h with
  | fresh booted clean => exact clean
  | running booted quiet wired =>
    rw [quiet.status_eq]
    decide

/-- The next rising edge flags no line error: the one place where the firmware could see it is
between the sample of the line and its own turn. -/
def SamplesCleanly (s : Soc) : Prop :=
  ∃ t, s.boot = .done () t ∧ t.sampled.uart.status &&& Uart.lineErrors = 0

lemma Calm.samplesCleanly (h : s.Calm) {r : Receiver} {outcome : Option (UInt8 × Bool)}
    (hstep : s.uart.receiver.stepFor s.bootDivisor s.uartRx = (r, outcome))
    (hstop : ∀ byte, outcome ≠ some (byte, false)) : s.SamplesCleanly := by
  obtain ⟨uart, plic, hboot, hquiet, -, hreceiver⟩ := h.boot
  refine ⟨_, hboot, ?_⟩
  rw [← hreceiver] at hstep
  obtain ⟨-, -, -, hstatus⟩ := hquiet.clock hstep
  simp only [sampled, hstatus]
  rcases outcome with _ | ⟨byte, _ | _⟩
  · decide
  · exact absurd rfl (hstop byte)
  · rw [Uart.statusAfter]
    decide

/-! ## Toggles of the clock -/

/-- What a bench sees and sets: three pins, and what the line has come to. -/
structure View where
  clk : Bool
  rstN : Bool
  uartRx : Bool
  reception : Reception

/-- The view of a system. -/
def view (s : Soc) : View :=
  ⟨s.clk, s.rstN, s.uartRx, s.reception⟩

/-- The divisor that the firmware of a system with the given settings programs. -/
def divisorFor (settings : SocSettings) : ℕ :=
  (new settings).bootDivisor

/-- A system between two toggles of its clock. -/
structure Poised (settings : SocSettings) (s : Soc) : Prop where
  settings_eq : s.settings = settings
  clock_seen : s.lastClk = s.clk
  calm : s.Calm

variable {settings : SocSettings}

lemma poised_new (settings : SocSettings) : (new settings).Poised settings :=
  ⟨rfl, rfl, calm_new settings⟩

lemma Poised.divisor_eq (h : s.Poised settings) : s.bootDivisor = divisorFor settings := by
  rw [divisorFor, bootDivisor, bootDivisor, h.settings_eq]
  rfl

/-- The pins of reset, line and tap only take effect at an edge. -/
lemma Poised.withPins (h : s.Poised settings) (rstN uartRx : Bool) (tap : TapLevels) :
    ({ s with rstN, uartRx, tap } : Soc).Poised settings :=
  ⟨h.settings_eq, h.clock_seen, h.calm.congr rfl rfl rfl rfl⟩

/-- After the reaction to its clock a system is between two toggles again. -/
lemma poised_eval (hsettings : s.evalClock.settings = settings) (hcalm : s.evalClock.Calm) :
    s.eval.Poised settings ∧ s.eval.view = s.evalClock.view := by
  rw [eval]
  exact ⟨⟨hsettings, rfl, hcalm.congr rfl rfl rfl rfl⟩, rfl⟩

lemma evalClock_of_edge (hclk : s.clk = true) (hlast : s.lastClk = false) :
    s.evalClock = s.risingEdge.2 := by
  rw [evalClock, hclk, hlast]
  rfl

lemma evalClock_of_no_edge (h : (s.clk && !s.lastClk) = false) : s.evalClock = s := by
  rw [evalClock, h]
  rfl

/-- Without a toggle nothing happens. -/
lemma Poised.eval (h : s.Poised settings) : s.eval.Poised settings ∧ s.eval.view = s.view := by
  have hclock : s.evalClock = s := by
    refine evalClock_of_no_edge ?_
    rw [h.clock_seen, Bool.and_not_self]
  obtain ⟨hpoised, hview⟩ := poised_eval (hclock.symm ▸ h.settings_eq) (hclock.symm ▸ h.calm)
  exact ⟨hpoised, hview.trans (by rw [hclock])⟩

lemma Poised.fall (h : s.Poised settings) :
    (Soc.eval { s with clk := false }).Poised settings
      ∧ (Soc.eval { s with clk := false }).view = { s.view with clk := false } := by
  obtain ⟨t, ht⟩ : ∃ t, ({ s with clk := false } : Soc) = t := ⟨_, rfl⟩
  have hclock : t.evalClock = t := evalClock_of_no_edge (by rw [← ht]; rfl)
  have hcalm : t.Calm := ht ▸ h.calm.congr rfl rfl rfl rfl
  have hsettings : t.settings = settings := ht ▸ h.settings_eq
  obtain ⟨hpoised, hview⟩ := poised_eval (hclock.symm ▸ hsettings) (hclock.symm ▸ hcalm)
  rw [ht]
  refine ⟨hpoised, ?_⟩
  rw [hview, hclock, ← ht]
  rfl

lemma Settled.calm {x : Reception} {s' : Soc} (h : s.Settled x s') : s'.Calm := by
  obtain ⟨⟨uart, clint, plic, rfl⟩, quiet, wired, -⟩ := h
  exact .running rfl quiet wired

lemma Settled.view {x : Reception} {s' : Soc} (h : s.Settled x s') :
    s'.view = { s.view with reception := x } := by
  obtain ⟨⟨uart, clint, plic, rfl⟩, -, -, receiver⟩ := h
  simp only [Soc.view, reception]
  rw [receiver]

lemma Settled.settings_eq {x : Reception} {s' : Soc} (h : s.Settled x s') :
    s'.settings = s.settings := by
  obtain ⟨⟨uart, clint, plic, rfl⟩, -, -, -⟩ := h
  rfl

/-- A rising edge out of reset. -/
lemma Poised.rise (h : s.Poised settings) (hclk : s.clk = false) (hrst : s.rstN = true) :
    (Soc.eval { s with clk := true }).Poised settings
      ∧ (Soc.eval { s with clk := true }).view = { s.view with
          clk := true
          reception := s.reception.edge (divisorFor settings) settings.terminator s.uartRx } := by
  obtain ⟨t, ht⟩ : ∃ t, ({ s with clk := true } : Soc) = t := ⟨_, rfl⟩
  have hcalm : t.Calm := ht ▸ h.calm.congr rfl rfl rfl rfl
  obtain ⟨s', hedge, hsettled⟩ := hcalm.risingEdge (by rw [← ht]; exact hrst)
  have hclock : t.evalClock = s' := by
    rw [evalClock_of_edge (by rw [← ht]) (by rw [← ht]; exact h.clock_seen.trans hclk), hedge,
      Access.snd_done]
  have hsettings : s'.settings = settings := by rw [hsettled.settings_eq, ← ht, h.settings_eq]
  obtain ⟨hpoised, hview⟩ := poised_eval (hclock.symm ▸ hsettings) (hclock.symm ▸ hsettled.calm)
  rw [ht]
  refine ⟨hpoised, ?_⟩
  rw [hview, hclock, hsettled.view, ← ht, ← h.divisor_eq, ← h.settings_eq]
  rfl

/-- A rising edge in reset. -/
lemma Poised.rise_reset (h : s.Poised settings) (hclk : s.clk = false) (hrst : s.rstN = false) :
    (Soc.eval { s with clk := true }).Poised settings
      ∧ (Soc.eval { s with clk := true }).view = { s.view with
          clk := true
          reception := { s.reception with receiver := .idle, finished := false } } := by
  obtain ⟨t, ht⟩ : ∃ t, ({ s with clk := true } : Soc) = t := ⟨_, rfl⟩
  have hclock : t.evalClock = t.reset := by
    rw [evalClock_of_edge (by rw [← ht]) (by rw [← ht]; exact h.clock_seen.trans hclk),
      risingEdge, if_neg (by rw [← ht, hrst]; exact Bool.false_ne_true), Access.snd_done]
  have hsettings : t.reset.settings = settings := by
    rw [← ht]
    exact h.settings_eq
  obtain ⟨hpoised, hview⟩ := poised_eval (hclock.symm ▸ hsettings) (hclock.symm ▸ t.calm_reset)
  rw [ht]
  refine ⟨hpoised, ?_⟩
  rw [hview, hclock, view, reception_reset, ← ht]
  rfl

end Soc

end SocBench
