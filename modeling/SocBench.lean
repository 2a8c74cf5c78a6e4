import SocBench.Bench.Attempt
import SocBench.Bench.Basic
import SocBench.Bench.Clock
import SocBench.Bench.Error
import SocBench.Bench.Phase
import SocBench.Bench.Run
import SocBench.Bench.Session
import SocBench.Bench.Settings
import SocBench.Bench.Simulate
import SocBench.Bus.Access
import SocBench.Bus.Error
import SocBench.Bus.MemoryMap
import SocBench.Bus.RegisterBlock
import SocBench.Cli.Arguments
import SocBench.Cli.ConfigFile
import SocBench.Cli.Execute
import SocBench.Cli.Invocation
import SocBench.Cli.Report
import SocBench.Cli.Settings
import SocBench.Clint
import SocBench.Config.Basic
import SocBench.Config.Error
import SocBench.Config.Reading
import SocBench.Config.Validation
import SocBench.Document.JsonNumber
import SocBench.Document.JsonText
import SocBench.Document.Shape
import SocBench.Dut.Basic
import SocBench.Fault
import SocBench.Frequency.Basic
import SocBench.Frequency.Reading
import SocBench.Host.Folder
import SocBench.Host.Place
import SocBench.Jtag.Bridge
import SocBench.Jtag.Command
import SocBench.Jtag.RemoteBitbang
import SocBench.Library.Basic
import SocBench.Main
import SocBench.Numeral.Binary64
import SocBench.Numeral.Reading
import SocBench.Numeral.Rounding
import SocBench.Numeral.Shortest
import SocBench.Numeral.Word
import SocBench.Plic
import SocBench.Proofs.BankedRegisters
import SocBench.Proofs.BitFieldLaws
import SocBench.Proofs.BitbangExchange
import SocBench.Proofs.BitbangSessions
import SocBench.Proofs.ByteMemory
import SocBench.Proofs.CallHistory
import SocBench.Proofs.ClockAlternation
import SocBench.Proofs.DeviceCalls
import SocBench.Proofs.EndToEndRates
import SocBench.Proofs.FirmwareBoot
import SocBench.Proofs.FrameWaveform
import SocBench.Proofs.FrequencyText
import SocBench.Proofs.IdentifierCodes
import SocBench.Proofs.InterruptArbitration
import SocBench.Proofs.LineDecoding
import SocBench.Proofs.LineRates
import SocBench.Proofs.LineSampling
import SocBench.Proofs.LoopBoundaries
import SocBench.Proofs.MappedRegisters
import SocBench.Proofs.Observation
import SocBench.Proofs.OwedSignals
import SocBench.Proofs.PinHistory
import SocBench.Proofs.PinSchedule
import SocBench.Proofs.ProducerPipeline
import SocBench.Proofs.Projection
import SocBench.Proofs.QueueMonitor
import SocBench.Proofs.RateValidation
import SocBench.Proofs.ReceiveQueue
import SocBench.Proofs.ReceiverBounds
import SocBench.Proofs.RegisterWords
import SocBench.Proofs.RunAccounts
import SocBench.Proofs.RunCourse
import SocBench.Proofs.SampleTicks
import SocBench.Proofs.SerialDelivery
import SocBench.Proofs.SinkLifecycle
import SocBench.Proofs.SocEdges
import SocBench.Proofs.SocRounds
import SocBench.Proofs.SourceSettings
import SocBench.Proofs.StoredSamples
import SocBench.Proofs.TimerRegisters
import SocBench.Proofs.TracedRuns
import SocBench.Proofs.TrappingUart
import SocBench.Proofs.UartReception
import SocBench.Proofs.UartRegisters
import SocBench.Proofs.VcdReader
import SocBench.Proofs.VcdRoundTrip
import SocBench.Proofs.WakeUps
import SocBench.Proofs.WholeDoubles
import SocBench.Proofs.WordMap
import SocBench.Report.Value
import SocBench.Sample.Counter
import SocBench.Sample.Library
import SocBench.Sample.LogSink
import SocBench.Sample.Still
import SocBench.Serial.BitPeriod
import SocBench.Serial.ByteQueue
import SocBench.Serial.Encoder
import SocBench.Serial.Handover
import SocBench.Serial.Producer
import SocBench.Soc.Basic
import SocBench.Text.Blank
import SocBench.Text.CodePoints
import SocBench.Text.ExtendingMark
import SocBench.Text.Ignorable
import SocBench.Text.Quoted
import SocBench.Text.Unprintable
import SocBench.Tick
import SocBench.Toml.Document
import SocBench.Toml.Node
import SocBench.Toml.Scalar
import SocBench.Toml.Text
import SocBench.Uart.Basic
import SocBench.Uart.Receiver
import SocBench.Waveform.IdCode
import SocBench.Waveform.Recorder
import SocBench.Waveform.Sink
import SocBench.Waveform.Storage
import SocBench.Waveform.Trace
import SocBench.Waveform.Vcd
