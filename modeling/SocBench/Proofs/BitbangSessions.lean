import Mathlib.Tactic
import SocBench.Proofs.BitbangExchange

/-!
# The sessions of the debug bridge

Clients come and go, their bytes arrive at any time or not at all, a reply is sent, has to be tried
again or finds its client gone, and the bridge is called again and again.  Whatever happens keeps
the account of every client (`History.Account`) and the pace of the calls, so that the main result
(`History.paced_and_ordered`) holds after any history.
-/

namespace SocBench

open Jtag

namespace RemoteBitbang

variable {b b' : RemoteBitbang} {served rest : List Client} {c c' : Client}

/-! ## The clients that are not served -/

/-- Where the session with a client stands, by the number of the client. -/
def standing (b : RemoteBitbang) (index : ℕ) : Standing :=
  if index < b.served.length then .ended
  else if index = b.served.length then .going b.pendingReply
  else .going none

lemma standing_of_lt {index : ℕ} (h : index < b.served.length) : b.standing index = .ended :=
  if_pos h

lemma standing_served (b : RemoteBitbang) : b.standing b.served.length = .going b.pendingReply := by
  simp [standing]

lemma standing_of_gt {index : ℕ} (h : b.served.length < index) :
    b.standing index = .going none := by
  rw [standing, if_neg (by omega), if_neg (by omega)]

lemma At.standing_eq {standing : Standing} (h : b.At served rest c standing) :
    b.standing served.length = standing := by
  cases standing with
  | going pending =>
    obtain ⟨rfl, -, -, rfl⟩ := h
    exact b.standing_served
  | ended => exact standing_of_lt (by simp [h.1])

lemma At.standing_of_lt {standing : Standing} {index : ℕ} (h : b.At served rest c standing)
    (hindex : index < served.length) : b.standing index = .ended := by
  apply RemoteBitbang.standing_of_lt
  cases standing with
  | going pending => rwa [h.1]
  | ended =>
    rw [h.1, List.length_append]
    exact Nat.lt_add_right _ hindex

lemma At.standing_of_gt {standing : Standing} {index : ℕ} (h : b.At served rest c standing)
    (hindex : served.length < index) : b.standing index = .going none := by
  cases standing with
  | going pending => exact RemoteBitbang.standing_of_gt (by rwa [h.1])
  | ended =>
    have hlength : b.served.length = served.length + 1 := by simp [h.1]
    rcases Nat.lt_or_eq_of_le (Nat.succ_le_of_lt hindex) with hgt | rfl
    · exact RemoteBitbang.standing_of_gt (by omega)
    · rw [← Nat.add_one, ← hlength, standing_served, h.2.2.2]

lemma At.sound {standing : Standing} (h : b.At served rest c standing) : b.Sound := by
  intro hwaits
  cases standing with
  | going pending => simp [isConnected, h.2.1]
  | ended => simp [h.2.2.2] at hwaits

/-! ## Histories -/

/-- What may happen: a client connects, whose connection can be used or not; more of the stream of a
client and of what becomes of its replies is settled; or the bridge is called. -/
inductive Happening where
  | connects (usable : Bool) (reads : List ReadOutcome) (sends : List SendOutcome)
  | arrives (index : ℕ) (reads : List ReadOutcome) (sends : List SendOutcome)
  | calls (tap : TapLevels) (tdo : Bool)

/-- A call, with the levels and the bridge before it and after it. -/
structure CallReport where
  before : RemoteBitbang
  after : RemoteBitbang
  tap : TapLevels
  tapAfter : TapLevels
  tdo : Bool

/-- The report of a call. -/
def report (b : RemoteBitbang) (tap : TapLevels) (tdo : Bool) : CallReport :=
  ⟨b, (b.call tap tdo).1, tap, (b.call tap tdo).2, tdo⟩

/-- What a call consumed, each byte with the number of its client. -/
def CallReport.consumed (r : CallReport) : List (ℕ × UInt8) :=
  RemoteBitbang.consumed r.before r.after

/-- The bridge, its calls so far, and the streams of its clients as they arrived. -/
structure History where
  bridge : RemoteBitbang
  calls : List CallReport
  streams : List (List ReadOutcome)

/-- More of a client's stream arrives, and more of what becomes of its replies is settled. -/
def extend (reads : List ReadOutcome) (sends : List SendOutcome) (c : Client) : Client :=
  { c with reads := c.reads ++ reads, sends := c.sends ++ sends }

namespace History

/-- A new bridge. -/
def start (period : ℕ) : History :=
  ⟨.new period, [], []⟩

/-- One more thing happens. -/
def next (s : History) : Happening → History
  | .connects usable reads sends =>
    { s with bridge := s.bridge.connect { usable, reads, sends }, streams := s.streams ++ [reads] }
  | .arrives index reads sends =>
    { s with
      bridge := s.bridge.updateClient index (extend reads sends)
      streams := s.streams.modify index (· ++ reads) }
  | .calls tap tdo =>
    { s with
      bridge := (s.bridge.call tap tdo).1
      calls := s.calls ++ [s.bridge.report tap tdo] }

/-- The history of a new bridge. -/
def of (period : ℕ) (happenings : List Happening) : History :=
  happenings.foldl next (start period)

end History

/-- The bytes that calls consumed of a client. -/
def consumedFrom (index : ℕ) (calls : List CallReport) : List UInt8 :=
  calls.flatMap fun r => r.consumed.flatMap fun entry => if entry.1 = index then [entry.2] else []

/-- The replies that a client is due for what calls consumed of it: the output level at the call
for each read. -/
def dueTo (index : ℕ) (calls : List CallReport) : List UInt8 :=
  calls.flatMap fun r =>
    r.consumed.flatMap fun entry => if entry.1 = index then dueFor entry.2 r.tdo else []

/-! ## What holds of every call -/

/-- A call, by its number, at a bridge that may take a command every `period` calls. -/
structure CallReport.Disciplined (r : CallReport) (period number : ℕ) : Prop where
  one_byte : r.consumed.length ≤ 1
  paced : r.consumed ≠ [] → period ∣ number
  tap_eq_of_byte : ∀ index byte, (index, byte) ∈ r.consumed →
    r.tapAfter = levelsAfter byte r.tap
  tap_eq_of_nothing : r.consumed = [] → r.tapAfter = r.tap
  reply_first : ∀ reply index byte, r.before.pendingReply = some reply →
    (index, byte) ∈ r.consumed → ∃ c c', r.before.clients[index]? = some c
      ∧ r.after.clients[index]? = some c' ∧ c.replies ++ [reply] <+: c'.replies
  eager : ∀ c byte reads, period ∣ number → r.before.current = some c →
    r.before.pendingReply = none → c.reads = .byte byte :: reads →
      r.consumed = [(r.before.served.length, byte)]

/-- What is known of a client: its bytes are consumed in the order of their arrival, and it gets the
replies it is due. -/
structure History.Account (s : History) (index : ℕ) (c : Client) : Prop where
  stream : ∃ stream, s.streams[index]? = some stream
    ∧ bytesOf stream = consumedFrom index s.calls ++ bytesOf c.reads
  settles : (s.bridge.standing index).Settles c (dueTo index s.calls)

/-- What every happening preserves. -/
structure History.Kept (period : ℕ) (s : History) : Prop where
  period_eq : s.bridge.period = period
  aligned : period ∣ s.calls.length + s.bridge.countdown
  countdown_lt : s.bridge.countdown < period
  sound : s.bridge.Sound
  disciplined : ∀ (number : ℕ) (r : CallReport), s.calls[number]? = some r →
    r.Disciplined period number
  length_eq : s.streams.length = s.bridge.clients.length
  account : ∀ index c, s.bridge.clients[index]? = some c → s.Account index c
  unheard : ∀ index, s.bridge.clients.length ≤ index →
    consumedFrom index s.calls = [] ∧ dueTo index s.calls = []
  commands_le : s.bridge.commands ≤ s.calls.length

/-! ## A call preserves it -/

lemma SameSessions.clients_eq (h : SameSessions b b') : b'.clients = b.clients := by
  rw [clients, clients, h.served_eq, h.current_eq, h.backlog_eq]

lemma SameSessions.standing_eq (h : SameSessions b b') (index : ℕ) :
    b'.standing index = b.standing index := by
  rw [RemoteBitbang.standing, RemoteBitbang.standing, h.served_eq, h.pending_eq]

lemma SameSessions.sound (h : SameSessions b b') (hsound : b.Sound) : b'.Sound := by
  rw [Sound, isConnected, h.pending_eq, h.current_eq]
  exact hsound

variable {tap : TapLevels} {tdo : Bool} {taken : Option UInt8} {standing : Standing}
  {due : List UInt8} {result : RemoteBitbang × TapLevels}

/-- What the turn of a client consumed. -/
lemma Exchanged.consumed_eq (h : Exchanged served rest c due tap tdo taken standing c' result)
    (hclients : b.clients = served ++ c :: rest) :
    RemoteBitbang.consumed b result.1 = taken.toList.map (Prod.mk served.length) := by
  obtain ⟨gone, hreads, hgone⟩ := h.reads_eq
  rw [RemoteBitbang.consumed_eq hclients h.at_client.clients_eq, Client.given_eq hreads, hgone]

lemma Exchanged.not_mem_of_ne {index : ℕ}
    (h : Exchanged b.served rest c due tap tdo taken standing c' result)
    (hclients : b.clients = b.served ++ c :: rest) (hother : index ≠ b.served.length)
    (byte : UInt8) :
    (index, byte) ∉ CallReport.consumed ⟨b, result.1, tap, result.2, tdo⟩ := by
  rw [CallReport.consumed, h.consumed_eq hclients]
  cases taken <;> simp [hother]

lemma consumedFrom_concat (index : ℕ) (calls : List CallReport) (r : CallReport) :
    consumedFrom index (calls ++ [r])
      = consumedFrom index calls
        ++ r.consumed.flatMap fun entry => if entry.1 = index then [entry.2] else [] := by
  simp [consumedFrom]

lemma dueTo_concat (index : ℕ) (calls : List CallReport) (r : CallReport) :
    dueTo index (calls ++ [r])
      = dueTo index calls
        ++ r.consumed.flatMap fun entry =>
          if entry.1 = index then dueFor entry.2 r.tdo else [] := by
  simp [dueTo]

/-- A call that leaves the sessions alone. -/
lemma SameSessions.disciplined {period number : ℕ} (h : SameSessions b b')
    (hreason : period ∣ number → b.current = none) :
    CallReport.Disciplined ⟨b, b', tap, tap, tdo⟩ period number := by
  have hnothing : CallReport.consumed ⟨b, b', tap, tap, tdo⟩ = [] :=
    consumed_of_clients_eq h.clients_eq
  constructor
  · simp [hnothing]
  · intro hsome
    exact absurd hnothing hsome
  · intro index byte hmem
    simp [hnothing] at hmem
  · intro _
    rfl
  · intro reply index byte _ hmem
    simp [hnothing] at hmem
  · intro c byte reads hdvd hcurrent
    rw [hreason hdvd] at hcurrent
    cases hcurrent

/-- A call that is the turn of a client. -/
lemma Exchanged.disciplined {period number : ℕ}
    (h : Exchanged b.served rest c (c.replies ++ b.pendingReply.toList) tap tdo taken standing c'
      result)
    (hclients : b.clients = b.served ++ c :: rest) (hdvd : period ∣ number)
    (heager : ∀ byte reads, b.current = some c → b.pendingReply = none →
      c.reads = .byte byte :: reads → taken = some byte) :
    CallReport.Disciplined ⟨b, result.1, tap, result.2, tdo⟩ period number := by
  have hconsumed : CallReport.consumed ⟨b, result.1, tap, result.2, tdo⟩
      = taken.toList.map (Prod.mk b.served.length) := h.consumed_eq hclients
  have htaken : ∀ index byte,
      (index, byte) ∈ CallReport.consumed ⟨b, result.1, tap, result.2, tdo⟩ →
      b.served.length = index ∧ taken = some byte := by
    intro index byte hmem
    rw [hconsumed] at hmem
    simpa [and_comm] using hmem
  constructor
  · rw [hconsumed]
    cases taken <;> simp
  · intro _
    exact hdvd
  · intro index byte hmem
    rw [h.tap_eq, (htaken index byte hmem).2]
    rfl
  · intro hnothing
    rw [hconsumed] at hnothing
    cases taken with
    | none => exact h.tap_eq
    | some byte => simp at hnothing
  · intro reply index byte hpending hmem
    obtain ⟨rfl, hbyte⟩ := htaken index byte hmem
    refine ⟨c, c', by simp [hclients], by simp [h.at_client.clients_eq], ?_⟩
    have hprefix := h.due_prefix byte hbyte
    rwa [show b.pendingReply = some reply from hpending] at hprefix
  · intro d byte reads _ hcurrent hpending hreads
    have hserved : d = c := by
      have hclients' := hclients
      rw [clients, show b.current = some d from hcurrent, List.append_assoc] at hclients'
      simpa using (List.cons.inj (List.append_cancel_left hclients')).1
    subst hserved
    rw [hconsumed, heager byte reads hcurrent hpending hreads]
    rfl

/-- A call that consumed nothing of a client. -/
lemma concat_of_not_mem {index : ℕ} {r : CallReport} (calls : List CallReport)
    (h : ∀ byte, (index, byte) ∉ r.consumed) :
    consumedFrom index (calls ++ [r]) = consumedFrom index calls
      ∧ dueTo index (calls ++ [r]) = dueTo index calls := by
  have hnothing : ∀ f : ℕ × UInt8 → List UInt8,
      (r.consumed.flatMap fun entry => if entry.1 = index then f entry else []) = [] := by
    intro f
    rw [List.flatMap_eq_nil_iff]
    rintro ⟨other, byte⟩ hmem
    refine if_neg ?_
    rintro rfl
    exact h byte hmem
  constructor
  · rw [consumedFrom_concat, hnothing fun entry => [entry.2], List.append_nil]
  · rw [dueTo_concat, hnothing fun entry => dueFor entry.2 r.tdo, List.append_nil]

/-- A client whose turn it is not keeps its account. -/
lemma History.Account.of_unchanged {s s' : History} {index : ℕ} (h : s.Account index c)
    (hstreams : s'.streams = s.streams)
    (hconsumed : consumedFrom index s'.calls = consumedFrom index s.calls)
    (hdue : dueTo index s'.calls = dueTo index s.calls)
    (hstanding : s'.bridge.standing index = s.bridge.standing index) : s'.Account index c where
  stream := by
    rw [hstreams, hconsumed]
    exact h.stream
  settles := by
    rw [hdue, hstanding]
    exact h.settles

/-- The turn of a client keeps all accounts. -/
lemma Exchanged.account {s : History}
    (h : Exchanged s.bridge.served rest c (c.replies ++ s.bridge.pendingReply.toList) tap tdo taken
      standing c' result)
    (hclients : s.bridge.clients = s.bridge.served ++ c :: rest)
    (haccount : ∀ index d, s.bridge.clients[index]? = some d → s.Account index d) :
    ∀ index d, result.1.clients[index]? = some d →
      History.Account ⟨result.1, s.calls ++ [⟨s.bridge, result.1, tap, result.2, tdo⟩], s.streams⟩
        index d := by
  have hconsumed : CallReport.consumed ⟨s.bridge, result.1, tap, result.2, tdo⟩
      = taken.toList.map (Prod.mk s.bridge.served.length) := h.consumed_eq hclients
  have hclients' := h.at_client.clients_eq
  intro index d hd
  rcases eq_or_ne index s.bridge.served.length with rfl | hother
  · -- the client whose turn it was
    obtain rfl : c' = d := by simpa [hclients'] using hd
    obtain ⟨⟨stream, hstream, hbytes⟩, hsettles⟩ :=
      haccount s.bridge.served.length c (by simp [hclients])
    obtain ⟨gone, hreads, hgone⟩ := h.reads_eq
    rw [standing_served] at hsettles
    refine ⟨⟨stream, hstream, ?_⟩, ?_⟩
    · rw [hbytes, hreads, bytesOf_append, hgone, consumedFrom_concat, hconsumed]
      cases taken <;> simp
    · rw [h.at_client.standing_eq, dueTo_concat, hconsumed]
      have hdue : c.replies ++ s.bridge.pendingReply.toList
          = dueTo s.bridge.served.length s.calls := hsettles
      rw [← hdue]
      cases taken with
      | none => simpa using h.settles
      | some byte => simpa using h.settles
  · obtain ⟨hsame, hsameDue⟩ := concat_of_not_mem s.calls (h.not_mem_of_ne hclients hother)
    have hd' : s.bridge.clients[index]? = some d := by
      rw [← hd, hclients, hclients']
      rcases Nat.lt_or_gt_of_ne hother with hlt | hgt
      · rw [List.getElem?_append_left hlt, List.getElem?_append_left hlt]
      · obtain ⟨k, rfl⟩ := Nat.exists_eq_add_of_lt hgt
        simp [List.getElem?_append_right, Nat.add_assoc]
    refine (haccount index d hd').of_unchanged rfl hsame hsameDue ?_
    rcases Nat.lt_or_gt_of_ne hother with hlt | hgt
    · rw [h.at_client.standing_of_lt hlt, standing_of_lt hlt]
    · rw [h.at_client.standing_of_gt hgt, standing_of_gt hgt]

namespace History

variable {s : History} {period : ℕ}

lemma disciplined_concat {calls : List CallReport} {r : CallReport}
    (h : ∀ (number : ℕ) (r : CallReport), calls[number]? = some r → r.Disciplined period number)
    (hr : r.Disciplined period calls.length) :
    ∀ (number : ℕ) (r' : CallReport), (calls ++ [r])[number]? = some r' →
      r'.Disciplined period number := by
  intro number r' hr'
  rcases Nat.lt_trichotomy number calls.length with hlt | rfl | hgt
  · rw [List.getElem?_append_left hlt] at hr'
    exact h number r' hr'
  · obtain rfl : r = r' := by simpa using hr'
    exact hr
  · rw [List.getElem?_eq_none (by simp; omega)] at hr'
    cases hr'

lemma Kept.calls (h : s.Kept period) (tap : TapLevels) (tdo : Bool) :
    (s.next (.calls tap tdo)).Kept period := by
  obtain ⟨hperiod, hcountdown, hcalled⟩ := call_spec h.sound tap tdo
  have haligned := h.aligned
  have hlt := h.countdown_lt
  -- the number of calls so far and the countdown add up to a multiple of the period
  have hpace : period ∣ s.calls.length + 1 + (s.bridge.call tap tdo).1.countdown
      ∧ (s.bridge.call tap tdo).1.countdown < period := by
    rw [hcountdown, h.period_eq]
    split_ifs with hready
    · rw [hready, Nat.add_zero] at haligned
      refine ⟨?_, by omega⟩
      rw [show s.calls.length + 1 + (period - 1) = s.calls.length + period by omega]
      exact Nat.dvd_add haligned dvd_rfl
    · refine ⟨?_, by omega⟩
      rwa [show s.calls.length + 1 + (s.bridge.countdown - 1)
        = s.calls.length + s.bridge.countdown by omega]
  have hcommands : (s.bridge.call tap tdo).1.commands
      ≤ (s.calls ++ [s.bridge.report tap tdo]).length := by
    rw [List.length_append, List.length_singleton]
    exact (commands_call_le _ tap tdo).trans (Nat.succ_le_succ h.commands_le)
  have hready_iff : period ∣ s.calls.length → s.bridge.countdown = 0 := by
    intro hdvd
    exact Nat.eq_zero_of_dvd_of_lt ((Nat.dvd_add_right hdvd).1 haligned) hlt
  cases hcalled with
  | idle same tap_eq reason =>
    have hreason : period ∣ s.calls.length → s.bridge.current = none := by
      intro hdvd
      rcases reason with hwaiting | hnobody
      · rw [hready_iff hdvd] at hwaiting
        exact absurd hwaiting (lt_irrefl 0)
      · exact hnobody
    have hnothing : (s.bridge.report tap tdo).consumed = [] :=
      consumed_of_clients_eq same.clients_eq
    have hreport : (s.bridge.report tap tdo).Disciplined period s.calls.length := by
      rw [report, tap_eq]
      exact same.disciplined hreason
    have hsame : ∀ index,
        consumedFrom index (s.calls ++ [s.bridge.report tap tdo]) = consumedFrom index s.calls
          ∧ dueTo index (s.calls ++ [s.bridge.report tap tdo]) = dueTo index s.calls :=
      fun index => concat_of_not_mem s.calls (by simp [hnothing])
    refine ⟨hperiod.trans h.period_eq, ?_, hpace.2, same.sound h.sound,
      disciplined_concat h.disciplined hreport, ?_, ?_, ?_, hcommands⟩
    · simpa [next] using hpace.1
    · exact h.length_eq.trans (congrArg List.length same.clients_eq.symm)
    · intro index c hc
      have hc' : s.bridge.clients[index]? = some c := by rwa [← same.clients_eq]
      exact (h.account index c hc').of_unchanged rfl (hsame index).1 (hsame index).2
        (same.standing_eq index)
    · intro index hindex
      obtain ⟨hnone, hnoneDue⟩ := h.unheard index (same.clients_eq ▸ hindex)
      exact ⟨(hsame index).1.trans hnone, (hsame index).2.trans hnoneDue⟩
  | turn c rest taken standing c' ready clients_eq exchanged eager =>
    have hdvd : period ∣ s.calls.length := by rwa [ready, Nat.add_zero] at haligned
    have hlength : (s.bridge.call tap tdo).1.clients.length = s.bridge.clients.length := by
      rw [clients_eq, exchanged.at_client.clients_eq]
      simp
    refine ⟨hperiod.trans h.period_eq, ?_, hpace.2, exchanged.at_client.sound,
      disciplined_concat h.disciplined (exchanged.disciplined clients_eq hdvd eager), ?_,
      exchanged.account clients_eq h.account, ?_, hcommands⟩
    · simpa [next] using hpace.1
    · exact h.length_eq.trans hlength.symm
    · intro index hindex
      have hindex' : s.bridge.clients.length ≤ index := hlength ▸ hindex
      have hother : index ≠ s.bridge.served.length := by
        rw [clients_eq, List.length_append, List.length_cons] at hindex'
        omega
      obtain ⟨hsame, hsameDue⟩ :=
        concat_of_not_mem s.calls (exchanged.not_mem_of_ne clients_eq hother)
      obtain ⟨hnone, hnoneDue⟩ := h.unheard index hindex'
      exact ⟨hsame.trans hnone, hsameDue.trans hnoneDue⟩

end History

/-! ## Connections and arrivals preserve it -/

lemma clients_connect (b : RemoteBitbang) (c : Client) :
    (b.connect c).clients = b.clients ++ [c] := by
  simp [clients, connect]

/-- The next client to connect has no reply to wait for. -/
lemma Sound.standing_next (h : b.Sound) : b.standing b.clients.length = .going none := by
  have hlength : b.clients.length
      = b.served.length + b.current.toList.length + b.backlog.length := by
    simp only [clients, List.length_append]
  rcases Nat.eq_or_lt_of_le (show b.served.length ≤ b.clients.length by omega) with heq | hlt
  · have hcurrent : b.current = none := by
      cases hc : b.current with
      | none => rfl
      | some c =>
        simp [hc] at hlength
        omega
    rw [← heq, standing_served, h.pending_eq_none hcurrent]
  · exact standing_of_gt hlt

/-- Changing an entry of the first of two lists that are joined. -/
lemma modify_append_of_lt {clients more : List Client} {index : ℕ} (f : Client → Client)
    (h : index < clients.length) :
    (clients ++ more).modify index f = clients.modify index f ++ more := by
  apply List.ext_getElem?
  intro k
  simp only [List.getElem?_modify, List.getElem?_append, List.length_modify]
  grind

/-- Changing an entry of the second of two lists that are joined. -/
lemma modify_append_of_ge {clients more : List Client} {index : ℕ} (f : Client → Client)
    (h : clients.length ≤ index) :
    (clients ++ more).modify index f = clients ++ more.modify (index - clients.length) f := by
  apply List.ext_getElem?
  intro k
  simp only [List.getElem?_modify, List.getElem?_append]
  grind

/-- What happens to a client happens to no other. -/
lemma clients_updateClient (b : RemoteBitbang) (index : ℕ) (f : Client → Client) :
    (b.updateClient index f).clients = b.clients.modify index f := by
  simp only [updateClient]
  split_ifs with hserved hcurrent
  · rw [clients, clients, List.append_assoc, List.append_assoc, modify_append_of_lt f hserved]
  · rcases hc : b.current with _ | c
    · simp [hc] at hcurrent
      omega
    · obtain rfl : index = b.served.length := by
        simp [hc] at hcurrent
        omega
      rw [clients, clients, List.append_assoc, List.append_assoc, modify_append_of_ge f le_rfl]
      simp [hc]
  · rw [clients, clients, modify_append_of_ge f (by simpa using hcurrent)]
    simp

/-- What happens to a client leaves the pace, the reply that waits and the numbers of commands and
sessions. -/
lemma updateClient_frame (b : RemoteBitbang) (index : ℕ) (f : Client → Client) :
    SamePace b (b.updateClient index f) ∧ (b.updateClient index f).commands = b.commands
      ∧ (b.updateClient index f).pendingReply = b.pendingReply
      ∧ (b.updateClient index f).isConnected = b.isConnected
      ∧ (b.updateClient index f).served.length = b.served.length := by
  simp only [updateClient, SamePace, isConnected]
  split_ifs <;> simp

namespace History

variable {s : History} {period : ℕ}

/-- A client that connects is behind all others and is due nothing. -/
lemma Kept.connects (h : s.Kept period) (usable : Bool) (reads : List ReadOutcome)
    (sends : List SendOutcome) : (s.next (.connects usable reads sends)).Kept period := by
  obtain ⟨fresh, hfresh⟩ : ∃ fresh : Client, fresh = { usable, reads, sends } := ⟨_, rfl⟩
  have hclients : (s.next (.connects usable reads sends)).bridge.clients
      = s.bridge.clients ++ [fresh] := hfresh ▸ s.bridge.clients_connect _
  refine ⟨h.period_eq, h.aligned, h.countdown_lt, h.sound, h.disciplined, ?_, ?_, ?_, h.commands_le⟩
  · rw [hclients]
    simp [next, h.length_eq]
  · intro index c hc
    rw [hclients] at hc
    rcases Nat.lt_trichotomy index s.bridge.clients.length with hlt | rfl | hgt
    · rw [List.getElem?_append_left hlt] at hc
      obtain ⟨⟨stream, hstream, hbytes⟩, hsettles⟩ := h.account index c hc
      refine ⟨⟨stream, ?_, hbytes⟩, hsettles⟩
      exact (List.getElem?_append_left (h.length_eq ▸ hlt)).trans hstream
    · obtain rfl : fresh = c := by simpa using hc
      obtain ⟨hnone, hnoneDue⟩ := h.unheard s.bridge.clients.length le_rfl
      refine ⟨⟨reads, ?_, ?_⟩, ?_⟩
      · simp [next, ← h.length_eq]
      · simp [next, hnone, hfresh]
      · have hstanding : (s.next (.connects usable reads sends)).bridge.standing
            s.bridge.clients.length = .going none := h.sound.standing_next
        rw [hstanding]
        simp [Standing.Settles, next, hnoneDue, hfresh]
    · rw [List.getElem?_eq_none (by simp; omega)] at hc
      cases hc
  · intro index hindex
    rw [hclients, List.length_append] at hindex
    exact h.unheard index (Nat.le_of_add_right_le hindex)

/-- What arrives at a client is behind what arrived before. -/
lemma Kept.arrives (h : s.Kept period) (index : ℕ) (reads : List ReadOutcome)
    (sends : List SendOutcome) : (s.next (.arrives index reads sends)).Kept period := by
  have hclients := s.bridge.clients_updateClient index (extend reads sends)
  obtain ⟨hpace, hcommands, hpending, hconnected, hserved⟩ :=
    s.bridge.updateClient_frame index (extend reads sends)
  refine ⟨hpace.1.trans h.period_eq, ?_, ?_, ?_, h.disciplined, ?_, ?_, ?_,
    hcommands.le.trans h.commands_le⟩
  · simpa [next, hpace.2] using h.aligned
  · simpa [next, hpace.2] using h.countdown_lt
  · simpa [next, Sound, hpending, hconnected] using h.sound
  · simpa [next, hclients] using h.length_eq
  · intro k c hc
    have hc' : (s.bridge.clients.modify index (extend reads sends))[k]? = some c := by
      rwa [← hclients]
    have hstanding : (s.next (.arrives index reads sends)).bridge.standing k
        = s.bridge.standing k := by
      simp only [next, RemoteBitbang.standing, hpending, hserved]
    rw [List.getElem?_modify] at hc'
    obtain ⟨d, hd, hcd⟩ := Option.map_eq_some_iff.1 hc'
    obtain ⟨⟨stream, hstream, hbytes⟩, hsettles⟩ := h.account k d hd
    by_cases hindex : index = k
    · subst hindex
      obtain rfl : extend reads sends d = c := by simpa using hcd
      refine ⟨⟨stream ++ reads, ?_, ?_⟩, ?_⟩
      · simp [next, hstream]
      · simp [next, extend, hbytes]
      · rw [hstanding]
        exact hsettles
    · obtain rfl : d = c := by simpa [hindex] using hcd
      refine ⟨⟨stream, ?_, hbytes⟩, hstanding ▸ hsettles⟩
      simp [next, hindex, hstream]
  · intro k hk
    refine h.unheard k ?_
    simpa [next, hclients] using hk

/-! ## Every history -/

lemma kept_start (period : ℕ) : (start period).Kept (max period 1) where
  period_eq := rfl
  aligned := dvd_zero _
  countdown_lt := lt_max_of_lt_right Nat.one_pos
  sound hwaits := by cases hwaits
  disciplined number r hr := by cases hr
  length_eq := rfl
  account index c hc := by cases hc
  unheard _ _ := ⟨rfl, rfl⟩
  commands_le := le_rfl

lemma Kept.next (h : s.Kept period) (happening : Happening) : (s.next happening).Kept period := by
  cases happening with
  | connects usable reads sends => exact h.connects usable reads sends
  | arrives index reads sends => exact h.arrives index reads sends
  | calls tap tdo => exact h.calls tap tdo

lemma kept_of (period : ℕ) (happenings : List Happening) :
    (of period happenings).Kept (max period 1) := by
  induction happenings using List.reverseRecOn with
  | nil => exact kept_start period
  | append_singleton happenings happening ih =>
    rw [of, List.foldl_append]
    exact ih.next happening

/-- Two calls that may take a command are a period apart. -/
lemma Kept.apart (h : s.Kept period) {k k' : ℕ} {r r' : CallReport} (hr : s.calls[k]? = some r)
    (hr' : s.calls[k']? = some r') (hlt : k < k') (hchange : r.tapAfter ≠ r.tap)
    (hchange' : r'.tapAfter ≠ r'.tap) : k + period ≤ k' := by
  have hdvd : period ∣ k := by
    have hdisciplined := h.disciplined k r hr
    exact hdisciplined.paced fun hnothing => hchange (hdisciplined.tap_eq_of_nothing hnothing)
  have hdvd' : period ∣ k' := by
    have hdisciplined := h.disciplined k' r' hr'
    exact hdisciplined.paced fun hnothing => hchange' (hdisciplined.tap_eq_of_nothing hnothing)
  have hle : period ≤ k' - k := Nat.le_of_dvd (by omega) (Nat.dvd_sub hdvd' hdvd)
  omega

/-- Whatever happens, every call takes at most one byte and only at the pace, the levels change only
by a digit and at the pace, and a byte is taken only after the reply that waited was sent.  Every
client has its bytes taken in the order of their arrival, and gets the output levels of its reads in
order, apart from the last as long as it waits or if the session ended while it waited.  A reply
waits only for a client that is there.  No more commands are counted than there were calls. -/
theorem paced_and_ordered (period : ℕ) (happenings : List Happening) :
    (∀ (number : ℕ) (r : CallReport), (of period happenings).calls[number]? = some r →
        r.Disciplined (max period 1) number)
      ∧ (∀ (k k' : ℕ) (r r' : CallReport), (of period happenings).calls[k]? = some r →
          (of period happenings).calls[k']? = some r' → k < k' → r.tapAfter ≠ r.tap →
            r'.tapAfter ≠ r'.tap → k + max period 1 ≤ k')
      ∧ (∀ index c, (of period happenings).bridge.clients[index]? = some c →
          (of period happenings).Account index c)
      ∧ ((of period happenings).bridge.pendingReply.isSome = true →
          (of period happenings).bridge.isConnected = true)
      ∧ (of period happenings).bridge.commands ≤ (of period happenings).calls.length := by
  have hkept := kept_of period happenings
  refine ⟨hkept.disciplined, ?_, hkept.account, hkept.sound, hkept.commands_le⟩
  intro k k' r r' hr hr' hlt hchange hchange'
  exact hkept.apart hr hr' hlt hchange hchange'

/-- A client asks for the output and then sets all levels, but its reply has to be tried twice. -/
def held : List Happening :=
  [.connects true [.byte 0x52, .byte 0x37] [.retry], .calls {} true, .calls {} false,
    .calls {} false]

/-- The digit is taken by the third call, once the client has the reply. -/
theorem paced_and_ordered_held :
    ∃ r c, (of 2 held).calls[2]? = some r ∧ r.before.pendingReply = some 0x31
      ∧ r.consumed = [(0, 0x37)]
      ∧ r.tapAfter = { tck := true, tms := true, tdi := true }
      ∧ (of 2 held).bridge.clients[0]? = some c ∧ (of 2 held).Account 0 c
      ∧ c.replies = [0x31] := by
  obtain ⟨hcalls, -, haccount, -, -⟩ := paced_and_ordered 2 held
  obtain ⟨r, hr, hpending, hconsumed⟩ :
      ∃ r, (of 2 held).calls[2]? = some r ∧ r.before.pendingReply = some 0x31
        ∧ r.consumed = [(0, 0x37)] := ⟨_, rfl, rfl, rfl⟩
  obtain ⟨c, hc, hreplies⟩ :
      ∃ c, (of 2 held).bridge.clients[0]? = some c ∧ c.replies = [0x31] := ⟨_, rfl, rfl⟩
  refine ⟨r, c, hr, hpending, hconsumed, ?_, hc, haccount 0 c hc, hreplies⟩
  rw [(hcalls 2 r hr).tap_eq_of_byte 0 0x37 (by simp [hconsumed])]
  rfl

end History

end RemoteBitbang

end SocBench
