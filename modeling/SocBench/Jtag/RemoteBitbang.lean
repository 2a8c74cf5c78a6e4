import SocBench.Jtag.Bridge
import SocBench.Jtag.Command
import SocBench.Serial.Producer

/-!
# The remote debug bridge

Clients connect over a network and are served one after the other.  The bridge takes at most one
command in `period` calls, so the levels it drives stay long enough for the device to see them.
The reply to a read may have to wait until the client takes it, and while it waits no command is
taken.
-/

namespace SocBench.Jtag

/-- What became of a reply that was sent: it is out, it must be tried again, or the client is
gone. -/
inductive SendOutcome where
  | sent
  | retry
  | gone
  deriving DecidableEq

/-- A client: whether its connection can be made one that never waits; what its reads give in turn,
none meaning that nothing has arrived; what becomes of replies to it in turn, all of them being sent
after that; and the replies it got. -/
structure Client where
  usable : Bool := true
  reads : List ReadOutcome := []
  sends : List SendOutcome := []
  replies : List UInt8 := []

namespace Client

/-- The client after it has sent some bytes. -/
def sendBytes (c : Client) (bytes : List UInt8) : Client :=
  { c with reads := c.reads ++ bytes.map .byte }

/-- The client after it has ended its side of the connection. -/
def sendEnd (c : Client) : Client :=
  { c with reads := c.reads ++ [.ended] }

/-- Tries to send a reply. -/
def reply (c : Client) (byte : UInt8) : SendOutcome × Client :=
  match c.sends with
  | [] => (.sent, { c with replies := c.replies ++ [byte] })
  | .sent :: rest => (.sent, { c with sends := rest, replies := c.replies ++ [byte] })
  | outcome :: rest => (outcome, { c with sends := rest })

end Client

end Jtag

open Jtag

/-- The bridge: who was served or dropped, is served and waits to be served, the pace, how many
calls are left until the next command, how many commands were taken, and the reply that waits. -/
structure RemoteBitbang where
  served : List Client := []
  current : Option Client := none
  backlog : List Client := []
  period : Nat
  countdown : Nat := 0
  commands : Nat := 0
  pendingReply : Option UInt8 := none

namespace RemoteBitbang

/-- A bridge that takes at most one command in `period` calls; zero counts as one. -/
def new (period : Nat) : RemoteBitbang :=
  { period := max period 1 }

/-- Whether a client is being served. -/
def isConnected (b : RemoteBitbang) : Bool :=
  b.current.isSome

/-- All clients in the order they connected. -/
def clients (b : RemoteBitbang) : List Client :=
  b.served ++ b.current.toList ++ b.backlog

/-- A client connects. -/
def connect (b : RemoteBitbang) (c : Client) : RemoteBitbang :=
  { b with backlog := b.backlog ++ [c] }

/-- Something happens to a client, numbered in the order of connection. -/
def updateClient (b : RemoteBitbang) (index : Nat) (f : Client → Client) : RemoteBitbang :=
  let inService := b.served.length + b.current.toList.length
  if index < b.served.length then { b with served := b.served.modify index f }
  else if index < inService then { b with current := b.current.map f }
  else { b with backlog := b.backlog.modify (index - inService) f }

/-- Takes the next client that waits, if there is one.  A client whose connection is not usable is
dropped unserved. -/
def accept (b : RemoteBitbang) : RemoteBitbang :=
  match b.backlog with
  | [] => b
  | c :: rest =>
    if c.usable then { b with current := some c, backlog := rest }
    else { b with served := b.served ++ [c], backlog := rest }

/-- Ends the session with the current client, and with it the reply that waits. -/
def disconnect (b : RemoteBitbang) : RemoteBitbang :=
  { b with served := b.served ++ b.current.toList, current := none, pendingReply := none }

/-- Tries to send the reply that waits. The result says whether none waits any more. -/
def flushReply (b : RemoteBitbang) : Bool × RemoteBitbang :=
  match b.pendingReply, b.current with
  | none, _ => (true, b)
  | some _, none => (true, { b with pendingReply := none })
  | some byte, some c =>
    match c.reply byte with
    | (.sent, c) => (true, { b with current := some c, pendingReply := none })
    | (.retry, c) => (false, { b with current := some c })
    | (.gone, c) => (true, disconnect { b with current := some c })

/-- Reads a byte from the current client, if one has arrived. The end of its stream, or a failure,
ends the session. -/
def nextByte (b : RemoteBitbang) : Option UInt8 × RemoteBitbang :=
  match b.current with
  | none => (none, b)
  | some c =>
    match c.reads with
    | [] => (none, b)
    | .byte value :: rest => (some value, { b with current := some { c with reads := rest } })
    | .interrupted :: rest => (none, { b with current := some { c with reads := rest } })
    | .ended :: rest | .failed :: rest =>
      (none, disconnect { b with current := some { c with reads := rest } })

/-- Carries out a command. -/
def execute (b : RemoteBitbang) (command : Command) (tap : TapLevels) (tdo : Bool) :
    RemoteBitbang × TapLevels :=
  let b := { b with commands := b.commands + 1 }
  match command with
  | .write levels => (b, levels)
  | .read =>
    let reply := if tdo then '1' else '0'
    ((flushReply { b with pendingReply := some reply.toUInt8 }).2, tap)
  | .reset .. | .blink => (b, tap)
  | .quit => (b.disconnect, tap)

/-- A call on which a command may be taken. -/
def serve (b : RemoteBitbang) (tap : TapLevels) (tdo : Bool) : RemoteBitbang × TapLevels :=
  let b := if b.isConnected then b else b.accept
  match b.flushReply with
  | (false, b) => (b, tap)
  | (true, b) =>
    match b.nextByte with
    | (none, b) => (b, tap)
    | (some byte, b) =>
      match Command.decode byte with
      | some command => b.execute command tap tdo
      | none => (b, tap)

/-- One call: every `period`-th may take a command. -/
def call (b : RemoteBitbang) (tap : TapLevels) (tdo : Bool) : RemoteBitbang × TapLevels :=
  if 0 < b.countdown then ({ b with countdown := b.countdown - 1 }, tap)
  else serve { b with countdown := b.period - 1 } tap tdo

end RemoteBitbang

instance : Bridge RemoteBitbang where
  onTick b _ tap tdo := b.call tap tdo

end SocBench
