import SocBench.Clint
import SocBench.Dut.Basic
import SocBench.Frequency.Basic
import SocBench.Plic
import SocBench.Uart.Basic

/-!
# The reference system

A small system on a chip that a bench can be tried on: a core timer, an interrupt controller and a
UART, with firmware that programs the UART for the configured line rate and reads every byte
as it arrives.  A byte chosen as terminator makes it finish.  Its JTAG tap is a single
flip-flop from input to output.
-/

namespace SocBench

/-- How the system is built. -/
structure SocSettings where
  clock : Frequency := ⟨242000000⟩
  baud : UInt32 := 115200
  terminator : Option UInt8 := some 4
  dumpEnabled : Bool := true

/-- The system: its pins with the levels at the last evaluation, the state of its firmware, and its
devices. -/
structure Soc where
  settings : SocSettings
  clk : Bool := false
  lastClk : Bool := false
  rstN : Bool := false
  uartRx : Bool := true
  tap : TapLevels := {}
  lastTck : Bool := false
  tdo : Bool := false
  booted : Bool := false
  finished : Bool := false
  uart : Uart := .initial
  clint : Clint := .initial
  plic : Plic := .initial
  received : List UInt8 := []
  interrupts : Nat := 0

namespace Soc

/-- The interrupt vector of the UART. -/
def uartVector : UInt32 := 0x80000400

/-- A new system. -/
def new (settings : SocSettings) : Soc :=
  { settings }

/-- The divisor the firmware programs: the whole cycles in a bit, less one, as far as 16 bits go. -/
def bootDivisor (s : Soc) : Nat :=
  let cycles := (s.settings.clock.cyclesPerFloor ⟨s.settings.baud.toUInt64⟩).elim 0 UInt64.toNat
  min (cycles - 1) 65535

/-- Resets the devices and the firmware. What was received is remembered. -/
def reset (s : Soc) : Soc :=
  { s with
    uart := s.uart.reset, clint := .initial, plic := .initial, booted := false, finished := false }

/-- Programs the UART: the divisor, eight bits, an interrupt for every byte or error. -/
def bootUart (divisor : Nat) (u : Uart) : Access Uart Unit :=
  (u.write Uart.controlOffset 0x80).andThen fun _ u =>
  (u.write Uart.enableOffset (UInt32.ofNat (divisor / 256))).andThen fun _ u =>
  (u.write Uart.dataOffset (UInt32.ofNat (divisor % 256))).andThen fun _ u =>
  (u.write Uart.queueOffset 0xC6).andThen fun _ u =>
  (u.write Uart.controlOffset 0x03).andThen fun _ u =>
  (u.write Uart.queueOffset 0x06).andThen fun _ u =>
  u.write Uart.enableOffset 0x05

/-- Programs the interrupt controller for the UART alone. -/
def bootPlic (p : Plic) : Access Plic Unit :=
  let id := Plic.Source.uart0.id
  (p.writeWord (Plic.vectorTable + 4 * id) uartVector).andThen fun _ p =>
  (p.writeWord (Plic.argumentTable + 4 * id) 0).andThen fun _ p =>
  (p.writeByte (Plic.priorityTable + id) 1).andThen fun _ p =>
  p.writeWord Plic.enableOffset (Plic.sourceBit .uart0)

/-- Runs the boot code once after a reset. -/
def boot (s : Soc) : Access Soc Unit :=
  if s.booted then .done () s
  else
    ((bootUart s.bootDivisor s.uart).map fun uart => { s with uart }).andThen fun _ s =>
    ((bootPlic s.plic).map fun plic => { s with plic }).andThen fun _ s =>
    .done () { s with booted := true }

/-- Reads a word of the UART. -/
def readUart (s : Soc) (offset : Nat) : Access Soc UInt32 :=
  (s.uart.read offset).map fun uart => { s with uart }

/-- Takes a byte off the UART. -/
def receive (s : Soc) (byte : UInt8) : Soc :=
  { s with received := s.received ++ [byte]
           finished := s.finished || s.settings.terminator == some byte }

/-- Reads bytes while the UART has some, `limit` at most. -/
def drain : (limit : Nat) → Soc → Access Soc Unit
  | 0, s => .done () s
  | limit + 1, s =>
    (s.readUart Uart.statusOffset).andThen fun status s =>
    if status &&& Uart.dataReady = 0 then .done () s
    else (s.readUart Uart.dataOffset).andThen fun value s => drain limit (s.receive value.toUInt8)

/-- The interrupt handler: reads the line status, which clears its errors, and then every byte. -/
def service (s : Soc) : Access Soc Unit :=
  ({ s with interrupts := s.interrupts + 1 }.readUart Uart.statusOffset).andThen fun status s =>
  if status &&& Uart.dataReady = 0 then .done () s
  else drain (s.uart.queue.length + 1) s

/-- Lets the interrupt controller see the UART and select again. -/
def route (s : Soc) : Soc :=
  let level := s.uart.interrupting
  { s with plic := (s.plic.setLine .uart0 level).update }

/-- What happens on a rising clock edge once the firmware runs: the timer counts, the UART
samples its line, and an interrupt of the UART is served. -/
def advance (s : Soc) : Access Soc Unit :=
  let s := { s with clint := s.clint.tick, uart := (s.uart.clock s.uartRx).1 }
  let s := s.route
  if s.plic.interrupting then
    match s.plic.read .word Plic.vectorOffset with
    | .error e => .refused e s
    | .ok vector =>
      if vector = uartVector.toNat then s.service.andThen fun _ s => .done () s.route
      else .done () s
  else .done () s

/-- A rising clock edge. A refused access ends what is done on this edge. -/
def risingEdge (s : Soc) : Access Soc Unit :=
  if s.rstN then s.boot.andThen fun _ s => s.advance else .done () s.reset

/-- Lets the system react to its clock. -/
def evalClock (s : Soc) : Soc :=
  if s.clk && !s.lastClk then s.risingEdge.2 else s

/-- Lets the system react to its pins. -/
def eval (s : Soc) : Soc :=
  let s := s.evalClock
  { s with
    lastClk := s.clk
    tdo := if s.tap.tck && !s.lastTck then s.tap.tdi else s.tdo
    lastTck := s.tap.tck }

/-- The inner values worth recording. -/
def probes (s : Soc) : List Probe :=
  [⟨"uart0_rx_count", 32, UInt64.ofNat s.uart.received⟩,
    ⟨"uart0_rx_pending", 5, UInt64.ofNat s.uart.queue.length⟩,
    ⟨"uart0_irq", 1, s.uart.interrupting.toUInt64⟩,
    ⟨"mtime", 64, s.clint.mtime⟩,
    ⟨"plic_irq", 1, s.plic.interrupting.toUInt64⟩,
    ⟨"last_rx", 8, s.received.getLast?.elim 0 UInt8.toUInt64⟩]

end Soc

instance : Dut Soc where
  clk s := s.clk
  setClk level s := { s with clk := level }
  rstN s := s.rstN
  setRstN level s := { s with rstN := level }
  uartRx s := s.uartRx
  setUartRx level s := { s with uartRx := level }
  eval := Soc.eval
  finished s := s.finished
  dumpEnabled s := s.settings.dumpEnabled
  hasTap _ := true
  tap s := s.tap
  driveTap levels s := { s with tap := levels }
  tdo s := s.tdo
  probes := Soc.probes

end SocBench
