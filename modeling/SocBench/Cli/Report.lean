import SocBench.Bench.Basic
import SocBench.Cli.Settings
import SocBench.Report.Value

/-!
# What the program says

The settings that a run would use, the result of a run, and the status lines around it, each as
text for people or as a record for programs.
-/

namespace SocBench.Cli

/-- Lines of text, each with its end. -/
def unlines (lines : List String) : String :=
  String.join (lines.map (· ++ "\n"))

/-- How a trace format is named. -/
def formatName : TraceFormat → String
  | .vcd => "Vcd"
  | .native => "Native"

/-- The settings of a run, line by line. -/
def describe (c : Config) (trace : Bool) (period : BitPeriod) : List String :=
  ["model:     " ++ modelName c,
    "clock:     " ++ c.clock.frequency.toText,
    "reset:     " ++ toString c.reset.cycles.toNat ++ " toggles, then "
      ++ toString c.reset.warmup.toNat ++ " warm-up toggles",
    if c.uart.enabled then
      "uart:      " ++ toString c.uart.baud.toNat ++ " baud, " ++ toString period.edges
        ++ " edges per bit"
    else "uart:      disabled",
    if trace then "trace:     " ++ c.trace.path ++ " (" ++ formatName c.trace.format ++ ")"
    else "trace:     disabled",
    if c.jtag.enabled then
      "jtag:      127.0.0.1:" ++ toString c.jtag.port.toNat ++ ", every "
        ++ toString c.jtag.tckPeriod.toNat ++ " steps"
    else "jtag:      disabled"]
  ++ if c.run.maxCycles = 0 then []
    else ["limit:     " ++ toString c.run.maxCycles.toNat ++ " rising edges"]

/-- The settings of a run as a record. -/
def settingsRecord (c : Config) (trace : Bool) (period : BitPeriod) : ReportValue :=
  .record [("clock_hz", .number c.clock.frequency.hz.toNat),
    ("jtag_port", if c.jtag.enabled then .number c.jtag.port.toNat else .null),
    ("max_cycles", .number c.run.maxCycles.toNat),
    ("model", .text (modelName c)),
    ("reset_cycles", .number c.reset.cycles.toNat),
    ("trace", if trace then .text c.trace.path else .null),
    ("uart", .record [("baud", .number c.uart.baud.toNat),
      ("bit_period", .number period.edges),
      ("enabled", .boolean c.uart.enabled),
      ("queue_depth", .number c.uart.queueDepth.toNat)]),
    ("warmup_cycles", .number c.reset.warmup.toNat)]

/-- How a phase is named in a record. -/
def phaseKey : Phase → String
  | .resetting => "resetting"
  | .warmingUp => "warming_up"
  | .running => "running"
  | .finished => "finished"

/-- The result of a run as a record. -/
def summaryRecord (s : Summary) : ReportValue :=
  .record [("toggles", .number s.toggles),
    ("rising_edges", .number s.risingEdges),
    ("samples", .number s.samples),
    ("final_tick", .number s.finalTick),
    ("bytes_injected", .number s.bytesInjected),
    ("frames_completed", .number s.framesCompleted),
    ("finished_by_model", .boolean s.finishedByModel),
    ("phase", .text (phaseKey s.phase))]

/-- The result of a run, line by line. -/
def summaryLines (s : Summary) (trace : Option TraceSettings) : List String :=
  ["   Finished after " ++ toString s.risingEdges ++ " rising edges (" ++ toString s.toggles
      ++ " toggles)",
    "   Injected " ++ toString s.bytesInjected ++ " byte(s), " ++ toString s.framesCompleted
      ++ " frame(s) completed"]
  ++ (if 0 < s.samples then
      ["   Recorded " ++ toString s.samples ++ " sample(s), last tick " ++ toString s.finalTick]
    else [])
  ++ trace.elim [] fun t => ["   Trace: " ++ t.path]

/-- The status line before a run. -/
def startLine (c : Config) : String :=
  "   Running " ++ modelName c ++ " at " ++ c.clock.frequency.toText ++ ", "
    ++ toString c.uart.baud.toNat ++ " baud"

/-- The status line after a run that the limit ended. -/
def stoppedLine : String :=
  "   Stopped: cycle limit reached before the model finished"

end SocBench.Cli
