import Mathlib.Tactic
import SocBench.Jtag.RemoteBitbang

/-!
# One call of the debug bridge

A call is taken apart into sending the reply that waits, reading a byte and carrying it out.  Each
of these says where the session with the client stands after it (`Standing`), and that the replies
the client got, with the one that waits, are those it is due.  What a call consumed is read off the
clients: it is what is missing from their reads afterwards.
-/

namespace SocBench

open Jtag

namespace Jtag

/-! ## Bytes and what they ask for -/

/-- The bytes among what reads give. -/
def bytesOf (reads : List ReadOutcome) : List UInt8 :=
  reads.filterMap fun
    | .byte value => some value
    | _ => none

@[simp]
lemma bytesOf_append (reads more : List ReadOutcome) :
    bytesOf (reads ++ more) = bytesOf reads ++ bytesOf more :=
  List.filterMap_append

/-- The levels after a byte: a digit up to seven sets all three, a bit for each, and any other byte
leaves them as they are. -/
def levelsAfter (byte : UInt8) (tap : TapLevels) : TapLevels :=
  if 0x30 ≤ byte ∧ byte ≤ 0x37 then
    { tck := byte &&& 4 != 0, tms := byte &&& 2 != 0, tdi := byte &&& 1 != 0 }
  else tap

/-- The reply to an output level. -/
def levelReply (tdo : Bool) : UInt8 :=
  if tdo then 0x31 else 0x30

/-- The replies that a byte is due: only a read has one. -/
def dueFor (byte : UInt8) (tdo : Bool) : List UInt8 :=
  if byte = 0x52 then [levelReply tdo] else []

/-- The digits are the commands that set the levels. -/
lemma decode_digit {byte : UInt8} (hlow : 0x30 ≤ byte) (hhigh : byte ≤ 0x37) (tap : TapLevels) :
    Command.decode byte = some (.write (levelsAfter byte tap)) := by
  obtain ⟨n, hn⟩ : ∃ n, byte.toNat = n := ⟨_, rfl⟩
  have hlow' : 48 ≤ n := hn ▸ UInt8.le_iff_toNat_le.1 hlow
  have hhigh' : n ≤ 55 := hn ▸ UInt8.le_iff_toNat_le.1 hhigh
  obtain rfl : byte = UInt8.ofNat n := by rw [← hn, UInt8.ofNat_toNat]
  interval_cases n <;> simp [levelsAfter] <;> decide

/-- A byte that is no digit sets no levels, and only one byte is a read. -/
lemma decode_of_not_digit {byte : UInt8} (hdigit : ¬(0x30 ≤ byte ∧ byte ≤ 0x37)) :
    (∀ levels, Command.decode byte ≠ some (.write levels))
      ∧ (Command.decode byte = some .read ↔ byte = 0x52) := by
  have hcode : ¬('0'.toNat ≤ byte.toNat ∧ byte.toNat ≤ '7'.toNat) := by
    rwa [UInt8.le_iff_toNat_le, UInt8.le_iff_toNat_le] at hdigit
  have hread : byte.toNat = 'R'.toNat ↔ byte = 0x52 := UInt8.toNat_inj (b := 0x52)
  simp only [Command.decode, if_neg hcode]
  constructor
  · intro levels
    split_ifs <;> simp
  · rw [← hread]
    by_cases hR : byte.toNat = 'R'.toNat
    · rw [if_pos hR]
      exact iff_of_true rfl hR
    · rw [if_neg hR]
      refine iff_of_false ?_ hR
      split_ifs <;> simp

/-- What a byte asks for: to set the levels, to read the output, or neither. -/
lemma decode_cases (byte : UInt8) (tap : TapLevels) (tdo : Bool) :
    (Command.decode byte = some (.write (levelsAfter byte tap)) ∧ dueFor byte tdo = [])
      ∨ (Command.decode byte = some .read ∧ levelsAfter byte tap = tap
          ∧ dueFor byte tdo = [levelReply tdo])
      ∨ ((∀ levels, Command.decode byte ≠ some (.write levels))
          ∧ Command.decode byte ≠ some .read ∧ levelsAfter byte tap = tap
          ∧ dueFor byte tdo = []) := by
  by_cases hdigit : 0x30 ≤ byte ∧ byte ≤ 0x37
  · refine .inl ⟨decode_digit hdigit.1 hdigit.2 tap, if_neg ?_⟩
    rintro rfl
    exact absurd hdigit (by decide)
  · obtain ⟨hwrite, hread⟩ := decode_of_not_digit hdigit
    by_cases hR : byte = 0x52
    · exact .inr (.inl ⟨hread.2 hR, if_neg hdigit, if_pos hR⟩)
    · exact .inr (.inr ⟨hwrite, fun h => hR (hread.1 h), if_neg hdigit, if_neg hR⟩)

/-- What can become of a reply. Only a reply that is sent gets to the client. -/
lemma Client.reply_cases (c : Client) (byte : UInt8) :
    ∃ sends, c.reply byte = (.sent, { c with sends, replies := c.replies ++ [byte] })
      ∨ c.reply byte = (.retry, { c with sends })
      ∨ c.reply byte = (.gone, { c with sends }) := by
  rcases hsends : c.sends with _ | ⟨_ | _ | _, sends⟩
  · exact ⟨c.sends, .inl (by simp only [Client.reply, hsends])⟩
  · exact ⟨sends, .inl (by simp only [Client.reply, hsends])⟩
  · exact ⟨sends, .inr (.inl (by simp only [Client.reply, hsends]))⟩
  · exact ⟨sends, .inr (.inr (by simp only [Client.reply, hsends]))⟩

end Jtag

namespace RemoteBitbang

variable {b b' : RemoteBitbang} {served rest : List Client} {c c' : Client}

/-! ## Where a session stands -/

/-- A session goes on, with a reply that waits or without, or it has ended. -/
inductive Standing where
  | going (pending : Option UInt8)
  | ended

/-- The bridge serves a client, or has just ended the session with it; `served` came before the
client and `rest` wait behind it. -/
def At (b : RemoteBitbang) (served rest : List Client) (c : Client) : Standing → Prop
  | .going pending =>
    b.served = served ∧ b.current = some c ∧ b.backlog = rest ∧ b.pendingReply = pending
  | .ended =>
    b.served = served ++ [c] ∧ b.current = none ∧ b.backlog = rest ∧ b.pendingReply = none

/-- The replies a client got are those it is due, apart from the one that waits, or from the last
one if that waited when the session ended. -/
def Standing.Settles (c : Client) (due : List UInt8) : Standing → Prop
  | .going pending => c.replies ++ pending.toList = due
  | .ended => c.replies = due ∨ ∃ reply, c.replies ++ [reply] = due

lemma At.clients_eq {standing : Standing} (h : b.At served rest c standing) :
    b.clients = served ++ c :: rest := by
  cases standing with
  | going pending =>
    obtain ⟨hserved, hcurrent, hbacklog, -⟩ := h
    simp [clients, hserved, hcurrent, hbacklog]
  | ended =>
    obtain ⟨hserved, hcurrent, hbacklog, -⟩ := h
    simp [clients, hserved, hcurrent, hbacklog]

/-- What ends the session with a client keeps the client. -/
lemma At.disconnect {pending : Option UInt8} (h : b.At served rest c (.going pending)) :
    b.disconnect.At served rest c .ended := by
  obtain ⟨hserved, hcurrent, hbacklog, -⟩ := h
  simp [At, RemoteBitbang.disconnect, hserved, hcurrent, hbacklog]

/-- The pace and where it stands are the same. -/
def SamePace (b b' : RemoteBitbang) : Prop :=
  b'.period = b.period ∧ b'.countdown = b.countdown

lemma SamePace.trans {b'' : RemoteBitbang} (h : SamePace b b') (h' : SamePace b' b'') :
    SamePace b b'' :=
  ⟨h'.1.trans h.1, h'.2.trans h.2⟩

/-- Sending the reply that waits: the client gets it, or it waits on, or the session ends. -/
lemma flushReply_spec {pending : Option UInt8} {due : List UInt8}
    (h : b.At served rest c (.going pending)) (hdue : c.replies ++ pending.toList = due) :
    SamePace b b.flushReply.2
      ∧ ∃ c' standing, b.flushReply.2.At served rest c' standing ∧ c'.reads = c.reads
        ∧ c.replies <+: c'.replies ∧ standing.Settles c' due
        ∧ (if b.flushReply.1 then standing = .going none ∨ standing = .ended ∧ pending ≠ none
          else standing = .going pending ∧ pending ≠ none) := by
  obtain ⟨hserved, hcurrent, hbacklog, hpending⟩ := id h
  cases pending with
  | none =>
    have hflush : b.flushReply = (true, b) := by simp [flushReply, hpending]
    rw [hflush]
    exact ⟨⟨rfl, rfl⟩, c, .going none, h, rfl, List.prefix_rfl, hdue, .inl rfl⟩
  | some reply =>
    have hdue' : c.replies ++ [reply] = due := hdue
    obtain ⟨sends, hsent | hretry | hgone⟩ := c.reply_cases reply
    · simp only [flushReply, hpending, hcurrent, hsent]
      exact ⟨⟨rfl, rfl⟩, _, .going none, ⟨hserved, rfl, hbacklog, rfl⟩, rfl,
        List.prefix_append _ _, by simpa [Standing.Settles] using hdue', .inl rfl⟩
    · simp only [flushReply, hpending, hcurrent, hretry]
      exact ⟨⟨rfl, rfl⟩, _, .going (some reply), ⟨hserved, rfl, hbacklog, rfl⟩, rfl,
        List.prefix_rfl, hdue', rfl, Option.some_ne_none reply⟩
    · simp only [flushReply, hpending, hcurrent, hgone]
      have hat : At { b with current := some { c with sends }, pendingReply := some reply }
          served rest { c with sends } (.going (some reply)) := ⟨hserved, rfl, hbacklog, rfl⟩
      exact ⟨⟨rfl, rfl⟩, _, .ended, hat.disconnect, rfl, List.prefix_rfl,
        .inr ⟨reply, hdue'⟩, .inr ⟨rfl, Option.some_ne_none reply⟩⟩

/-- A byte that has arrived is read. -/
lemma nextByte_of_byte {pending : Option UInt8} {byte : UInt8} {reads : List ReadOutcome}
    (h : b.At served rest c (.going pending)) (hreads : c.reads = .byte byte :: reads) :
    b.nextByte.1 = some byte := by
  simp [nextByte, h.2.1, hreads]

/-- Reading: at most one byte is gone from the reads, and the session ends only if none is. -/
lemma nextByte_spec (h : b.At served rest c (.going none)) :
    SamePace b b.nextByte.2
      ∧ ∃ c' standing gone, b.nextByte.2.At served rest c' standing ∧ c'.replies = c.replies
        ∧ c.reads = gone ++ c'.reads ∧ bytesOf gone = b.nextByte.1.toList
        ∧ (standing = .going none ∨ standing = .ended ∧ b.nextByte.1 = none) := by
  obtain ⟨hserved, hcurrent, hbacklog, hpending⟩ := id h
  have hat : ∀ c' : Client, At { b with current := some c' } served rest c' (.going none) :=
    fun c' => ⟨hserved, rfl, hbacklog, hpending⟩
  rcases hreads : c.reads with _ | ⟨value | _ | _ | _, reads⟩
  · simp only [nextByte, hcurrent, hreads]
    exact ⟨⟨rfl, rfl⟩, c, .going none, [], h, rfl, hreads.symm, rfl, .inl rfl⟩
  · simp only [nextByte, hcurrent, hreads]
    exact ⟨⟨rfl, rfl⟩, _, .going none, [.byte value], hat _, rfl, rfl, rfl, .inl rfl⟩
  · simp only [nextByte, hcurrent, hreads]
    exact ⟨⟨rfl, rfl⟩, _, .going none, [.interrupted], hat _, rfl, rfl, rfl, .inl rfl⟩
  · simp only [nextByte, hcurrent, hreads]
    exact ⟨⟨rfl, rfl⟩, _, .ended, [.failed], (hat _).disconnect, rfl, rfl, rfl, .inr ⟨rfl, trivial⟩⟩
  · simp only [nextByte, hcurrent, hreads]
    exact ⟨⟨rfl, rfl⟩, _, .ended, [.ended], (hat _).disconnect, rfl, rfl, rfl, .inr ⟨rfl, trivial⟩⟩

/-- What is done with a byte that was read. -/
def obey (b : RemoteBitbang) (byte : UInt8) (tap : TapLevels) (tdo : Bool) :
    RemoteBitbang × TapLevels :=
  match Command.decode byte with
  | some command => b.execute command tap tdo
  | none => (b, tap)

/-- Carrying out a byte: a digit sets the levels, and a read is due its reply. -/
lemma obey_spec (h : b.At served rest c (.going none)) (byte : UInt8) (tap : TapLevels)
    (tdo : Bool) :
    SamePace b (b.obey byte tap tdo).1 ∧ (b.obey byte tap tdo).2 = levelsAfter byte tap
      ∧ ∃ c' standing, (b.obey byte tap tdo).1.At served rest c' standing ∧ c'.reads = c.reads
        ∧ c.replies <+: c'.replies ∧ standing.Settles c' (c.replies ++ dueFor byte tdo) := by
  obtain ⟨hserved, hcurrent, hbacklog, hpending⟩ := id h
  have hcounted : At { b with commands := b.commands + 1 } served rest c (.going none) :=
    ⟨hserved, hcurrent, hbacklog, hpending⟩
  have hsettles : c.replies ++ Option.toList none = c.replies := List.append_nil _
  rcases decode_cases byte tap tdo with
    ⟨hwrite, hdue⟩ | ⟨hread, hlevels, hdue⟩ | ⟨hwrite, hread, hlevels, hdue⟩
  · rw [hdue, List.append_nil]
    simp only [obey, hwrite, execute]
    exact ⟨⟨rfl, rfl⟩, trivial, c, _, hcounted, rfl, List.prefix_rfl, hsettles⟩
  · rw [hdue, hlevels]
    have hreply : (if tdo then '1' else '0').toUInt8 = levelReply tdo := by cases tdo <;> rfl
    simp only [obey, hread, execute, hreply]
    have hat : At { b with commands := b.commands + 1, pendingReply := some (levelReply tdo) }
        served rest c (.going (some (levelReply tdo))) := ⟨hserved, hcurrent, hbacklog, rfl⟩
    obtain ⟨hpace, c', standing, hat', hreads, hprefix, hsettles', -⟩ := flushReply_spec hat rfl
    exact ⟨hpace, trivial, c', standing, hat', hreads, hprefix, hsettles'⟩
  · rw [hdue, hlevels, List.append_nil]
    rcases hdecode : Command.decode byte with _ | levels | _ | ⟨trst, srst⟩ | _ | _
    · simp only [obey, hdecode]
      exact ⟨⟨rfl, rfl⟩, trivial, c, _, h, rfl, List.prefix_rfl, hsettles⟩
    · exact absurd hdecode (hwrite levels)
    · exact absurd hdecode hread
    · simp only [obey, hdecode, execute]
      exact ⟨⟨rfl, rfl⟩, trivial, c, _, hcounted, rfl, List.prefix_rfl, hsettles⟩
    · simp only [obey, hdecode, execute]
      exact ⟨⟨rfl, rfl⟩, trivial, c, _, hcounted, rfl, List.prefix_rfl, hsettles⟩
    · simp only [obey, hdecode, execute]
      exact ⟨⟨rfl, rfl⟩, trivial, c, _, hcounted.disconnect, rfl, List.prefix_rfl, .inl rfl⟩

/-! ## One call -/

/-- The bridge with the next client, if it has none and one waits. -/
def attended (b : RemoteBitbang) : RemoteBitbang :=
  if b.isConnected then b else b.accept

/-- Reading a byte and carrying it out. -/
def takeCommand (b : RemoteBitbang) (tap : TapLevels) (tdo : Bool) : RemoteBitbang × TapLevels :=
  match b.nextByte with
  | (none, b) => (b, tap)
  | (some byte, b) => b.obey byte tap tdo

/-- What a call does once there is a client. -/
def exchange (b : RemoteBitbang) (tap : TapLevels) (tdo : Bool) : RemoteBitbang × TapLevels :=
  match b.flushReply with
  | (false, b) => (b, tap)
  | (true, b) => b.takeCommand tap tdo

lemma serve_eq (b : RemoteBitbang) (tap : TapLevels) (tdo : Bool) :
    b.serve tap tdo = b.attended.exchange tap tdo :=
  rfl

/-- What a call did with a client that was due some replies: it took a byte or none, in the order of
the reads, and a byte only after the client got all it was due. -/
structure Exchanged (served rest : List Client) (c : Client) (due : List UInt8) (tap : TapLevels)
    (tdo : Bool) (taken : Option UInt8) (standing : Standing) (c' : Client)
    (result : RemoteBitbang × TapLevels) : Prop where
  at_client : result.1.At served rest c' standing
  reads_eq : ∃ gone, c.reads = gone ++ c'.reads ∧ bytesOf gone = taken.toList
  settles : standing.Settles c' (due ++ taken.elim [] fun byte => dueFor byte tdo)
  due_prefix : ∀ byte, taken = some byte → due <+: c'.replies
  tap_eq : result.2 = taken.elim tap fun byte => levelsAfter byte tap

/-- A call that took no byte. -/
lemma Exchanged.nothing {standing : Standing} {due : List UInt8} (gone : List ReadOutcome)
    (h : b.At served rest c' standing) (hreads : c.reads = gone ++ c'.reads)
    (hgone : bytesOf gone = []) (hsettles : standing.Settles c' due) (tap : TapLevels)
    (tdo : Bool) : Exchanged served rest c due tap tdo none standing c' (b, tap) where
  at_client := h
  reads_eq := ⟨gone, hreads, hgone⟩
  settles := by rwa [Option.elim_none, List.append_nil]
  due_prefix byte hbyte := by cases hbyte
  tap_eq := rfl

/-- A byte is taken if one has arrived. -/
lemma takeCommand_spec (h : b.At served rest c (.going none)) (tap : TapLevels) (tdo : Bool) :
    SamePace b (b.takeCommand tap tdo).1
      ∧ ∃ taken standing c',
        Exchanged served rest c c.replies tap tdo taken standing c' (b.takeCommand tap tdo)
        ∧ ∀ byte reads, c.reads = .byte byte :: reads → taken = some byte := by
  have harrived : ∀ byte reads, c.reads = .byte byte :: reads → b.nextByte.1 = some byte :=
    fun _ _ hreads => nextByte_of_byte h hreads
  obtain ⟨hpace, c₁, standing, gone, hat, hreplies, hreads, hgone, hstanding⟩ := nextByte_spec h
  obtain ⟨⟨taken, b₁⟩, hnext⟩ : ∃ result, b.nextByte = result := ⟨_, rfl⟩
  rw [hnext] at harrived hpace hat hgone hstanding
  rcases taken with _ | byte
  · simp only [takeCommand, hnext]
    have hsettles : standing.Settles c₁ c.replies := by
      rcases hstanding with rfl | ⟨rfl, -⟩
      · simpa [Standing.Settles] using hreplies
      · exact .inl hreplies
    exact ⟨hpace, none, standing, c₁, .nothing gone hat hreads hgone hsettles tap tdo, harrived⟩
  · simp only [takeCommand, hnext]
    obtain rfl : standing = .going none := by
      rcases hstanding with rfl | ⟨-, hnone⟩
      · rfl
      · cases hnone
    obtain ⟨hpace', htap, c₂, standing, hat', hreads', hprefix, hsettles⟩ :=
      obey_spec hat byte tap tdo
    rw [hreplies] at hprefix hsettles
    refine ⟨hpace.trans hpace', some byte, standing, c₂, ?_, harrived⟩
    exact ⟨hat', ⟨gone, hreads' ▸ hreads, hgone⟩, hsettles, fun _ _ => hprefix, htap⟩

/-- First the reply that waits, and only when none waits any more a byte. -/
lemma exchange_spec {pending : Option UInt8} {due : List UInt8}
    (h : b.At served rest c (.going pending)) (hdue : c.replies ++ pending.toList = due)
    (tap : TapLevels) (tdo : Bool) :
    SamePace b (b.exchange tap tdo).1
      ∧ ∃ taken standing c',
        Exchanged served rest c due tap tdo taken standing c' (b.exchange tap tdo)
        ∧ ∀ byte reads, pending = none → c.reads = .byte byte :: reads → taken = some byte := by
  obtain ⟨hpace, c₁, standing, hat, hreads, -, hsettles, hstanding⟩ := flushReply_spec h hdue
  obtain ⟨⟨flushed, b₁⟩, hflush⟩ : ∃ result, b.flushReply = result := ⟨_, rfl⟩
  rw [hflush] at hpace hat hstanding
  have hnothing := Exchanged.nothing [] hat hreads.symm rfl hsettles tap tdo
  rcases flushed with _ | _
  · obtain ⟨rfl, hwaits⟩ := hstanding
    simp only [exchange, hflush]
    exact ⟨hpace, none, _, c₁, hnothing, fun _ _ hnone => absurd hnone hwaits⟩
  · simp only [exchange, hflush]
    rcases hstanding with rfl | ⟨rfl, hwaited⟩
    · have hgot : c₁.replies = due := by simpa [Standing.Settles] using hsettles
      obtain ⟨hpace', taken, standing, c₂, hexchanged, harrived⟩ := takeCommand_spec hat tap tdo
      refine ⟨hpace.trans hpace', taken, standing, c₂, ?_, ?_⟩
      · rw [hgot] at hexchanged
        exact { hexchanged with reads_eq := hreads ▸ hexchanged.reads_eq }
      · intro byte reads _ hbyte
        exact harrived byte reads (hreads.trans hbyte)
    · -- the client is gone, and there is nobody to read from
      have hnobody : b₁.current = none := hat.2.1
      have htake : b₁.takeCommand tap tdo = (b₁, tap) := by
        simp only [takeCommand, nextByte, hnobody]
      rw [htake]
      exact ⟨hpace, none, _, c₁, hnothing, fun _ _ hnone => absurd hnone hwaited⟩

/-! ## What a call consumed -/

end RemoteBitbang

/-- The bytes that are missing from the reads of a client after a while. -/
def Jtag.Client.given (c c' : Client) : List UInt8 :=
  bytesOf (c.reads.take (c.reads.length - c'.reads.length))

lemma Jtag.Client.given_eq {c c' : Client} {gone : List ReadOutcome}
    (h : c.reads = gone ++ c'.reads) : c.given c' = bytesOf gone := by
  simp [Client.given, h]

lemma Jtag.Client.given_self (c : Client) : c.given c = [] := by
  simp [Client.given, bytesOf]

namespace RemoteBitbang

variable {b b' : RemoteBitbang} {served rest : List Client} {c c' : Client}

/-- The bytes that are missing from the reads of all clients, each with the number of its client. -/
def consumed (b b' : RemoteBitbang) : List (ℕ × UInt8) :=
  (b.clients.zip b'.clients).zipIdx.flatMap fun entry =>
    (entry.1.1.given entry.1.2).map (Prod.mk entry.2)

lemma flatMap_given_self (clients : List Client) (n : ℕ) :
    ((clients.zip clients).zipIdx n).flatMap
      (fun entry => (entry.1.1.given entry.1.2).map (Prod.mk entry.2)) = [] := by
  induction clients generalizing n with
  | nil => rfl
  | cons c clients ih => simp [Client.given_self, ih]

lemma consumed_of_clients_eq (h : b'.clients = b.clients) : consumed b b' = [] := by
  rw [consumed, h]
  exact flatMap_given_self b.clients 0

/-- Where only one client has changed. -/
lemma consumed_eq (h : b.clients = served ++ c :: rest) (h' : b'.clients = served ++ c' :: rest) :
    consumed b b' = (c.given c').map (Prod.mk served.length) := by
  simp only [consumed, h, h', List.zip_append, List.zip_cons_cons, List.zipIdx_append,
    List.zipIdx_cons, List.flatMap_append, List.flatMap_cons, flatMap_given_self]
  simp

/-! ## A call, whatever came before -/

/-- The reply that waits is for the client that is served. -/
def Sound (b : RemoteBitbang) : Prop :=
  b.pendingReply.isSome = true → b.isConnected = true

lemma Sound.pending_eq_none (h : b.Sound) (hcurrent : b.current = none) :
    b.pendingReply = none := by
  rw [← Option.not_isSome_iff_eq_none]
  intro hwaits
  have hconnected := h hwaits
  simp [isConnected, hcurrent] at hconnected

/-- With nobody to serve there is nothing to do. -/
lemma exchange_of_nobody (hcurrent : b.current = none) (hpending : b.pendingReply = none)
    (tap : TapLevels) (tdo : Bool) : b.exchange tap tdo = (b, tap) := by
  have hflush : b.flushReply = (true, b) := by simp [flushReply, hpending]
  simp only [exchange, hflush, takeCommand, nextByte, hcurrent]

/-- Whose turn it is: nobody's, that of the client that is served, or else that of the first that
waits, which is served from now on or dropped. -/
inductive Attended (b : RemoteBitbang) : Prop
  | nobody (current_eq : b.current = none) (pending_eq : b.pendingReply = none)
      (same : b.attended = b)
  | client (c : Client) (rest : List Client) (clients_eq : b.clients = b.served ++ c :: rest)
      (at_client : b.attended.At b.served rest c (.going b.pendingReply))
      (pace : SamePace b b.attended)
  | dropped (c : Client) (rest : List Client) (current_eq : b.current = none)
      (pending_eq : b.pendingReply = none) (clients_eq : b.clients = b.served ++ c :: rest)
      (at_client : b.attended.At b.served rest c .ended) (pace : SamePace b b.attended)

lemma Sound.attended (hsound : b.Sound) : b.Attended := by
  rcases hcurrent : b.current with _ | c
  · have hpending := hsound.pending_eq_none hcurrent
    rcases hbacklog : b.backlog with _ | ⟨c, rest⟩
    · exact .nobody hcurrent hpending
        (by simp [RemoteBitbang.attended, isConnected, accept, hcurrent, hbacklog])
    · have hclients : b.clients = b.served ++ c :: rest := by simp [clients, hcurrent, hbacklog]
      cases husable : c.usable with
      | true =>
        have hattended : b.attended = { b with current := some c, backlog := rest } := by
          simp [RemoteBitbang.attended, isConnected, accept, hcurrent, hbacklog, husable]
        refine .client c rest hclients ?_ ?_ <;> rw [hattended]
        · exact ⟨rfl, rfl, rfl, rfl⟩
        · exact ⟨rfl, rfl⟩
      | false =>
        have hattended : b.attended = { b with served := b.served ++ [c], backlog := rest } := by
          simp [RemoteBitbang.attended, isConnected, accept, hcurrent, hbacklog, husable]
        refine .dropped c rest hcurrent hpending hclients ?_ ?_ <;> rw [hattended]
        · exact ⟨rfl, hcurrent, rfl, hpending⟩
        · exact ⟨rfl, rfl⟩
  · have hattended : b.attended = b := by simp [RemoteBitbang.attended, isConnected, hcurrent]
    refine .client c b.backlog (by simp [clients, hcurrent]) ?_ ?_ <;> rw [hattended]
    · exact ⟨rfl, hcurrent, rfl, rfl⟩
    · exact ⟨rfl, rfl⟩

/-- The sessions are the same. -/
structure SameSessions (b b' : RemoteBitbang) : Prop where
  served_eq : b'.served = b.served
  current_eq : b'.current = b.current
  backlog_eq : b'.backlog = b.backlog
  pending_eq : b'.pendingReply = b.pendingReply

/-- A call leaves the sessions and the levels alone, or it is the turn of a client, `c`.  A byte
that has arrived is taken at once, unless the client is only now accepted and then dropped. -/
inductive Called (b : RemoteBitbang) (tap : TapLevels) (tdo : Bool) : Prop
  | idle (same : SameSessions b (b.call tap tdo).1) (tap_eq : (b.call tap tdo).2 = tap)
      (reason : 0 < b.countdown ∨ b.current = none)
  | turn (c : Client) (rest : List Client) (taken : Option UInt8) (standing : Standing)
      (c' : Client)
      (ready : b.countdown = 0) (clients_eq : b.clients = b.served ++ c :: rest)
      (exchanged : Exchanged b.served rest c (c.replies ++ b.pendingReply.toList) tap tdo taken
        standing c' (b.call tap tdo))
      (eager : ∀ byte reads, b.current = some c → b.pendingReply = none →
        c.reads = .byte byte :: reads → taken = some byte)

lemma call_of_ready (hready : b.countdown = 0) (tap : TapLevels) (tdo : Bool) :
    b.call tap tdo = serve { b with countdown := b.period - 1 } tap tdo := by
  simp [call, hready]

/-- What a call can do, and how it keeps the pace. -/
lemma call_spec (hsound : b.Sound) (tap : TapLevels) (tdo : Bool) :
    (b.call tap tdo).1.period = b.period
      ∧ (b.call tap tdo).1.countdown = (if b.countdown = 0 then b.period else b.countdown) - 1
      ∧ Called b tap tdo := by
  by_cases hready : b.countdown = 0
  · have hcall := call_of_ready hready tap tdo
    rw [if_pos hready]
    obtain ⟨b₀, hb₀⟩ : ∃ b₀, { b with countdown := b.period - 1 } = b₀ := ⟨_, rfl⟩
    have hsound₀ : b₀.Sound := hb₀ ▸ hsound
    have hperiod : b₀.period = b.period := by rw [← hb₀]
    have hcountdown : b₀.countdown = b.period - 1 := by rw [← hb₀]
    have hsame : SameSessions b b₀ := by rw [← hb₀]; exact ⟨rfl, rfl, rfl, rfl⟩
    have hclients : b₀.clients = b.clients := by rw [← hb₀]; rfl
    rw [hb₀, serve_eq] at hcall
    cases hsound₀.attended with
    | nobody current_eq pending_eq same =>
      rw [same, exchange_of_nobody current_eq pending_eq] at hcall
      refine ⟨by rw [hcall, hperiod], by rw [hcall, hcountdown], .idle ?_ ?_ ?_⟩
      · rw [hcall]
        exact hsame
      · rw [hcall]
      · exact .inr (hsame.current_eq ▸ current_eq)
    | client c rest clients_eq at_client pace =>
      rw [hsame.served_eq, hsame.pending_eq] at at_client
      rw [hclients, hsame.served_eq] at clients_eq
      obtain ⟨hpace', taken, standing, c', hexchanged, heager⟩ :=
        exchange_spec at_client rfl tap tdo
      rw [← hcall] at hpace' hexchanged
      refine ⟨?_, ?_, .turn c rest taken standing c' hready clients_eq hexchanged
        fun byte reads _ => heager byte reads⟩
      · rw [hpace'.1, pace.1, hperiod]
      · rw [hpace'.2, pace.2, hcountdown]
    | dropped c rest current_eq pending_eq clients_eq at_client pace =>
      rw [exchange_of_nobody at_client.2.1 at_client.2.2.2] at hcall
      rw [hsame.served_eq] at at_client
      rw [hclients, hsame.served_eq] at clients_eq
      rw [hsame.current_eq] at current_eq
      have hsettles : Standing.ended.Settles c (c.replies ++ b.pendingReply.toList) := by
        rw [← hsame.pending_eq, pending_eq]
        exact .inl (by simp)
      have hnothing := Exchanged.nothing [] at_client rfl rfl hsettles tap tdo
      rw [← hcall] at hnothing
      refine ⟨?_, ?_, .turn c rest none .ended c hready clients_eq hnothing ?_⟩
      · rw [hcall, pace.1, hperiod]
      · rw [hcall, pace.2, hcountdown]
      · intro byte reads hcurrent
        rw [current_eq] at hcurrent
        cases hcurrent
  · have hcall : b.call tap tdo = ({ b with countdown := b.countdown - 1 }, tap) := by
      simp [call, Nat.pos_of_ne_zero hready]
    rw [if_neg hready]
    refine ⟨by rw [hcall], by rw [hcall], .idle ?_ ?_ (.inl (Nat.pos_of_ne_zero hready))⟩
    · rw [hcall]
      exact ⟨rfl, rfl, rfl, rfl⟩
    · rw [hcall]

/-! ## How many commands are counted -/

lemma commands_accept (b : RemoteBitbang) : b.accept.commands = b.commands := by
  unfold accept
  split
  · rfl
  · split <;> rfl

lemma commands_flushReply (b : RemoteBitbang) : b.flushReply.2.commands = b.commands := by
  unfold flushReply
  split
  · rfl
  · rfl
  · split <;> rfl

lemma commands_nextByte (b : RemoteBitbang) : b.nextByte.2.commands = b.commands := by
  unfold nextByte
  split
  · rfl
  · split <;> rfl

lemma commands_execute (b : RemoteBitbang) (command : Command) (tap : TapLevels) (tdo : Bool) :
    (b.execute command tap tdo).1.commands = b.commands + 1 := by
  cases command with
  | read => exact commands_flushReply _
  | _ => rfl

/-- A call counts one command at most. -/
lemma commands_call_le (b : RemoteBitbang) (tap : TapLevels) (tdo : Bool) :
    (b.call tap tdo).1.commands ≤ b.commands + 1 := by
  have hattended (b : RemoteBitbang) : b.attended.commands = b.commands := by
    unfold attended
    split
    · rfl
    · exact b.commands_accept
  have htake (b : RemoteBitbang) : (b.takeCommand tap tdo).1.commands ≤ b.commands + 1 := by
    have hnext := b.commands_nextByte
    unfold takeCommand
    split
    next b' heq =>
      rw [heq] at hnext
      exact hnext.le.trans (Nat.le_succ _)
    next byte b' heq =>
      rw [heq] at hnext
      simp only [obey]
      split
      · rw [commands_execute, hnext]
      · exact hnext.le.trans (Nat.le_succ _)
  have hserve (b : RemoteBitbang) : (b.serve tap tdo).1.commands ≤ b.commands + 1 := by
    have hflush := b.attended.commands_flushReply
    rw [hattended] at hflush
    rw [serve_eq]
    unfold exchange
    split
    next b' heq =>
      rw [heq] at hflush
      exact hflush.le.trans (Nat.le_succ _)
    next b' heq =>
      rw [heq] at hflush
      exact (htake b').trans (by rw [hflush])
  unfold call
  split
  · exact Nat.le_succ _
  · exact hserve _

end RemoteBitbang

end SocBench
