import Mathlib.Logic.Relation
import SocBench.Proofs.QueueMonitor
import SocBench.Serial.Producer

/-!
# From an input to those who take its bytes

A producer reads an input and pushes its bytes to a queue, while other parties take bytes out of the
queue and may close it at any time.

There are two accounts of this.  In the first one, `Feeding`, everybody acts in one piece: the
producer by `Producer.step`, the others by taking a byte or closing the queue.  In the second one,
`Pipeline`, the queue is behind a lock and the producer is one of the parties of a monitor.  It
reads a byte, calls to have it pushed, sleeps while the queue is full, is told whether the byte was
accepted, and in the end closes the queue in a call of its own; the others move in between, at any
point.  Every run of a pipeline is a run of the first kind (`Pipeline.kept_of_runs`), and what holds
there (`Feeding.kept_of_runs`) is all that is needed for the main result, `Pipeline.delivers_input`.
-/

namespace SocBench

open Relation

/-! ## A step of the producer -/

/-- The bytes that reads give before the first read that ends the input. -/
def inputOf : List ReadOutcome → List UInt8
  | .byte value :: rest => value :: inputOf rest
  | .interrupted :: rest => inputOf rest
  | .failed :: _ | .ended :: _ | [] => []

lemma length_inputOf_le (script : List ReadOutcome) : (inputOf script).length ≤ script.length := by
  fun_induction inputOf script with
  | case1 value rest ih => exact Nat.succ_le_succ ih
  | case2 rest ih => exact ih.trans (Nat.le_succ _)
  | _ => exact Nat.zero_le _

namespace Producer

/-- Whether the next read ends the input. -/
def atEnd (p : Producer) : Bool :=
  match p.script with
  | .failed :: _ | .ended :: _ | [] => true
  | _ => false

lemma inputOf_of_atEnd {p : Producer} (h : p.atEnd = true) : inputOf p.script = [] := by
  rw [atEnd] at h
  split at h
  case h_4 => cases h
  all_goals simp only [*, inputOf]

variable {p : Producer} {q : ByteQueue} {byte : UInt8} {rest : List ReadOutcome}

lemma step_of_done (hdone : p.done = true) : p.step q = (p, q) := by
  rw [step, if_pos hdone]

lemma step_of_interrupted (hgoing : p.done = false) (hread : p.script = .interrupted :: rest) :
    p.step q = ({ p with script := rest }, q) := by
  simp only [step, hgoing, hread, Bool.false_eq_true, if_false]

lemma step_of_atEnd (hgoing : p.done = false) (hend : p.atEnd = true) :
    p.step q = ({ p with done := true }, q.close) := by
  rw [atEnd] at hend
  split at hend
  case h_4 => cases hend
  all_goals simp only [step, finish, *, Bool.false_eq_true, if_false]

lemma step_of_accepted (hgoing : p.done = false) (hread : p.script = .byte byte :: rest)
    (hopen : q.closed = false) (hroom : q.isFull = false) :
    p.step q = ({ p with script := rest, pushed := p.pushed + 1 },
      { q with contents := q.contents ++ [byte] }) := by
  simp only [step, hgoing, hread, ByteQueue.push, hopen, hroom, Bool.false_eq_true, if_false]

lemma step_of_refused (hgoing : p.done = false) (hread : p.script = .byte byte :: rest)
    (hclosed : q.closed = true) : p.step q = ({ p with done := true }, q.close) := by
  simp only [step, hgoing, hread, ByteQueue.push, hclosed, Bool.false_eq_true, if_false, if_true,
    finish]

lemma step_of_full (hread : p.script = .byte byte :: rest)
    (hopen : q.closed = false) (hfull : q.isFull = true) : p.step q = (p, q) := by
  cases hdone : p.done with
  | true => exact step_of_done hdone
  | false =>
    simp only [step, hdone, hread, ByteQueue.push, hopen, hfull, Bool.false_eq_true, if_false,
      if_true]

/-- What a step can do: nothing, pass over an interrupted read, push a byte, or end. -/
lemma step_cases (p : Producer) (q : ByteQueue) :
    p.step q = (p, q)
      ∨ (∃ rest, p.script = .interrupted :: rest ∧ p.done = false
          ∧ p.step q = ({ p with script := rest }, q))
      ∨ (∃ byte rest, p.script = .byte byte :: rest ∧ p.done = false ∧ q.closed = false
          ∧ p.step q = ({ p with script := rest, pushed := p.pushed + 1 },
              { q with contents := q.contents ++ [byte] }))
      ∨ p.done = false ∧ (q.closed = true ∨ p.atEnd = true)
          ∧ p.step q = ({ p with done := true }, q.close) := by
  rcases Bool.eq_false_or_eq_true p.done with hdone | hgoing
  · exact .inl (step_of_done hdone)
  obtain ⟨script, hread⟩ : ∃ script, p.script = script := ⟨_, rfl⟩
  rcases script with _ | ⟨byte | _ | _ | _, rest⟩
  case cons.byte =>
    rcases Bool.eq_false_or_eq_true q.closed with hclosed | hopen
    · exact .inr (.inr (.inr ⟨hgoing, .inl hclosed, step_of_refused hgoing hread hclosed⟩))
    rcases Bool.eq_false_or_eq_true q.isFull with hfull | hroom
    · exact .inl (step_of_full hread hopen hfull)
    · exact .inr (.inr (.inl ⟨byte, rest, hread, hgoing, hopen,
        step_of_accepted hgoing hread hopen hroom⟩))
  case cons.interrupted =>
    exact .inr (.inl ⟨rest, hread, hgoing, step_of_interrupted hgoing hread⟩)
  all_goals
    have hend : p.atEnd = true := by simp only [atEnd, hread]
    exact .inr (.inr (.inr ⟨hgoing, .inr hend, step_of_atEnd hgoing hend⟩))

end Producer

/-! ## Everybody acts in one piece -/

/-- A producer and a queue, the bytes that others have taken, and whether another party closed the
queue before the producer was done. -/
structure Feeding where
  producer : Producer
  queue : ByteQueue
  taken : List UInt8 := []
  shut : Bool := false

namespace Feeding

/-- One act of one party. -/
inductive Step : Feeding → Feeding → Prop
  | produce (f : Feeding) :
      Step f { f with
        producer := (f.producer.step f.queue).1
        queue := (f.producer.step f.queue).2 }
  | pop (f : Feeding) :
      Step f { f with queue := f.queue.pop.2, taken := f.taken ++ f.queue.pop.1.toList }
  | close (f : Feeding) :
      Step f { f with queue := f.queue.close, shut := f.shut || !f.producer.done }

/-- The input has gone into the queue in order, and some of it is still to come.  A producer that is
done has closed the queue, and it left nothing out unless another party closed the queue before. -/
structure Kept (input : List UInt8) (f : Feeding) : Prop where
  input_eq : f.taken ++ f.queue.contents ++ inputOf f.producer.script = input
  pushed_eq : f.producer.pushed = (f.taken ++ f.queue.contents).length
  closed_of_done : f.producer.done = true → f.queue.closed = true
  complete_or_shut : f.producer.done = true → inputOf f.producer.script = [] ∨ f.shut = true
  done_or_shut : f.queue.closed = true → f.producer.done = true ∨ f.shut = true

variable {f f' : Feeding} {input : List UInt8}

lemma Kept.produce (h : f.Kept input) :
    Kept input { f with
      producer := (f.producer.step f.queue).1
      queue := (f.producer.step f.queue).2 } := by
  obtain ⟨hinput, hpushed, hclosed, hcomplete, hdone⟩ := h
  rcases f.producer.step_cases f.queue with
    hstep | ⟨rest, hread, hgoing, hstep⟩ | ⟨byte, rest, hread, hgoing, hopen, hstep⟩
      | ⟨hgoing, hends, hstep⟩
  · rw [hstep]
    exact ⟨hinput, hpushed, hclosed, hcomplete, hdone⟩
  · rw [hstep]
    rw [hread, inputOf] at hinput hcomplete
    exact ⟨hinput, hpushed, hclosed, hcomplete, hdone⟩
  · rw [hstep]
    rw [hread, inputOf] at hinput
    refine ⟨?_, ?_, ?_, ?_, ?_⟩
    · simpa using hinput
    · simp only [List.length_append, List.length_singleton] at hpushed ⊢
      omega
    · intro hdone'
      rw [hgoing] at hdone'
      cases hdone'
    · intro hdone'
      rw [hgoing] at hdone'
      cases hdone'
    · intro hclosed'
      rw [hopen] at hclosed'
      cases hclosed'
  · rw [hstep]
    refine ⟨hinput, hpushed, fun _ => rfl, fun _ => ?_, fun _ => .inl rfl⟩
    rcases hends with hshut | hend
    · -- the queue was closed and the producer was not done, so it was somebody else
      rcases hdone hshut with hdone' | hshut'
      · rw [hgoing] at hdone'
        cases hdone'
      · exact .inr hshut'
    · exact .inl (Producer.inputOf_of_atEnd hend)

lemma Kept.step (h : f.Kept input) (hstep : Step f f') : f'.Kept input := by
  cases hstep with
  | produce => exact h.produce
  | pop =>
    have hcontents : f.taken ++ f.queue.pop.1.toList ++ f.queue.pop.2.contents
        = f.taken ++ f.queue.contents := by
      rw [List.append_assoc, ByteQueue.contents_pop]
    have hclosed : f.queue.pop.2.closed = f.queue.closed := by
      rw [ByteQueue.pop_eq]
    refine ⟨?_, ?_, ?_, h.complete_or_shut, ?_⟩
    · rw [hcontents]
      exact h.input_eq
    · rw [hcontents]
      exact h.pushed_eq
    · rw [hclosed]
      exact h.closed_of_done
    · rw [hclosed]
      exact h.done_or_shut
  | close =>
    refine ⟨h.input_eq, h.pushed_eq, fun _ => rfl, fun hdone => ?_, fun _ => ?_⟩
    · exact (h.complete_or_shut hdone).imp id fun hshut => by simp [hshut]
    · cases hdone : f.producer.done with
      | true => exact .inl rfl
      | false => exact .inr (by simp)

/-- A producer that starts on an input, and an empty and open queue. -/
lemma kept_of_runs {script : List ReadOutcome} {depth : ℕ}
    (h : ReflTransGen Step ⟨{ script }, .ofDepth depth, [], false⟩ f) :
    f.Kept (inputOf script) := by
  induction h with
  | refl =>
    refine ⟨?_, ?_, ?_, ?_, ?_⟩
    · simp [ByteQueue.contents_ofDepth]
    · simp [ByteQueue.contents_ofDepth]
    · rintro ⟨⟩
    · rintro ⟨⟩
    · intro hclosed
      rw [ByteQueue.closed_ofDepth] at hclosed
      cases hclosed
  | tail _ hstep ih => exact ih.step hstep

/-- No more bytes are pushed than the input has. -/
lemma Kept.pushed_le (h : f.Kept input) : f.producer.pushed ≤ input.length := by
  rw [h.pushed_eq, ← h.input_eq]
  exact (List.prefix_append _ _).length_le

end Feeding

/-! ## The call that a party has underway -/

/-- The call that has no answer yet. -/
def Stage.underway : Stage → Option QueueCall
  | .entering call | .asleep call | .woken call => some call
  | .away | .leaving _ => none

lemma Stage.underway_of_pending {stage : Stage} {call : QueueCall}
    (h : stage.pending = some call) : stage.underway = some call := by
  cases stage with
  | entering | woken => exact h
  | away | asleep | leaving => cases h

lemma Stage.underway_wake (stage : Stage) : stage.wake.underway = stage.underway := by
  cases stage <;> rfl

namespace Monitor

variable {ι : Type} [DecidableEq ι] {m m' : Monitor ι} {new : List (ι × QueueAnswer)}

lemma underway_move (m : Monitor ι) (i j : ι) (stage : Stage) :
    ((m.move i stage).stage j).underway
      = if j = i then stage.underway else (m.stage j).underway := by
  simp only [move, Function.update_apply]
  split_ifs <;> rfl

/-- A party moves on and its call is what it was. -/
lemma underway_move_of_eq {i : ι} {stage : Stage} (h : stage.underway = (m.stage i).underway)
    (j : ι) : ((m.move i stage).stage j).underway = (m.stage j).underway := by
  rw [underway_move]
  split_ifs with hji
  · rw [hji, h]
  · rfl

/-- What a move means for one of the parties: it calls, it gets the answer to its call, or its call
is what it was. -/
lemma Step.underway_cases (h : Step m new m') (i : ι) :
    (∃ call, m.stage i = .away ∧ m'.stage i = .entering call ∧ new = [])
      ∨ (∃ answer, new = [(i, answer)] ∧ (m.stage i).underway = some answer.call
          ∧ (m'.stage i).underway = none)
      ∨ (∀ answer, (i, answer) ∉ new) ∧ (m'.stage i).underway = (m.stage i).underway := by
  have hsilent : ∀ answer, (i, answer) ∉ ([] : List (ι × QueueAnswer)) := by simp
  cases h with
  | call j call hstage =>
    by_cases hij : i = j
    · subst hij
      exact .inl ⟨call, hstage, Function.update_self .., rfl⟩
    · exact .inr (.inr ⟨hsilent, (underway_move m j i _).trans (if_neg hij)⟩)
  | @answer j timeUp call answer queue hstage hturn =>
    by_cases hij : i = j
    · subst hij
      have hfits := m.queue.turn_fits timeUp call
      rw [hturn] at hfits
      refine .inr (.inl ⟨answer, rfl, ?_, (underway_move m i i _).trans (if_pos rfl)⟩)
      rw [hfits.1]
      exact Stage.underway_of_pending hstage
    · exact .inr (.inr ⟨by simp [hij], (underway_move m j i _).trans (if_neg hij)⟩)
  | sleep j timeUp hstage hturn =>
    refine .inr (.inr ⟨hsilent, underway_move_of_eq ?_ i⟩)
    rw [Stage.underway_of_pending hstage]
    rfl
  | wake j hstage =>
    exact .inr (.inr ⟨hsilent, underway_move_of_eq (by rw [hstage]; rfl) i⟩)
  | @signalOne j k condition owed hstage hsleeps =>
    have hpaid : ∀ l, ((m.move j (.leaving owed)).stage l).underway = (m.stage l).underway :=
      underway_move_of_eq (by rw [hstage]; rfl)
    refine .inr (.inr ⟨hsilent, ?_⟩)
    rw [underway_move_of_eq ((Stage.underway_wake _).trans (hpaid k).symm), hpaid]
  | signalNobody j hstage =>
    exact .inr (.inr ⟨hsilent, underway_move_of_eq (by rw [hstage]; rfl) i⟩)
  | @signalAll j condition owed hstage =>
    have hpaid : ((m.move j (.leaving owed)).stage i).underway = (m.stage i).underway :=
      underway_move_of_eq (by rw [hstage]; rfl) i
    refine .inr (.inr ⟨hsilent, ?_⟩)
    rw [← hpaid]
    simp only [wakeAll]
    split_ifs
    · exact Stage.underway_wake _
    · rfl
  | leave j hstage =>
    exact .inr (.inr ⟨hsilent, underway_move_of_eq (by rw [hstage]; rfl) i⟩)

omit [DecidableEq ι] in
lemma takenIn_concat (log : List (ι × QueueAnswer)) (i : ι) (answer : QueueAnswer) :
    takenIn (log ++ [(i, answer)]) = takenIn log ++ answer.taken.toList := by
  cases hbyte : answer.taken <;> simp [takenIn, hbyte]

end Monitor

/-! ## The producer among the parties -/

lemma ByteQueue.close_of_closed {q : ByteQueue} (h : q.closed = true) : q.close = q := by
  rw [close, ← h]

/-- What a producer asks of the queue next: to take the byte that it has read, or to be closed, once
the input has ended or a byte was refused. -/
def Producer.Asks (p : Producer) : QueueCall → Prop
  | .push byte => p.done = false ∧ ∃ rest, p.script = .byte byte :: rest
  | .close => p.done = true ∨ p.atEnd = true
  | .tryPop | .waitPop => False

/-- What a producer makes of an answer: a byte that was accepted is counted, and after a refusal it
reads no more. -/
def Producer.hear (p : Producer) : QueueAnswer → Producer
  | .pushed _ true => { p with script := p.script.tail, pushed := p.pushed + 1 }
  | .pushed _ false | .closed => { p with done := true }
  | .tried _ | .waited _ => p

/-- A producer that hears an answer has made a step. -/
lemma Producer.step_eq_hear {p : Producer} {q q' : ByteQueue} {answer : QueueAnswer}
    (hasks : p.Asks answer.call) (hfits : answer.Fits q q')
    (hclosed : p.done = true → q.closed = true) : p.step q = (p.hear answer, q') := by
  rcases answer with ⟨byte, _ | _⟩ | byte | byte | _
  · obtain ⟨hgoing, rest, hread⟩ := hasks
    obtain ⟨hshut, rfl⟩ := hfits
    rw [Producer.step_of_refused hgoing hread hshut, ByteQueue.close_of_closed hshut, Producer.hear]
  · obtain ⟨hgoing, rest, hread⟩ := hasks
    obtain ⟨hopen, hroom, rfl⟩ := hfits
    rw [Producer.step_of_accepted hgoing hread hopen hroom, Producer.hear, hread, List.tail_cons]
  · exact hasks.elim
  · exact hasks.elim
  · obtain rfl : q' = q.close := hfits
    rcases Bool.eq_false_or_eq_true p.done with hdone | hgoing
    · -- it was refused before, and closes a queue that is closed
      rw [Producer.step_of_done hdone, ByteQueue.close_of_closed (hclosed hdone), Producer.hear,
        ← hdone]
    · have hend : p.atEnd = true := hasks.resolve_left (by simp [hgoing])
      rw [Producer.step_of_atEnd hgoing hend, Producer.hear]

/-- A producer takes nothing out of the queue. -/
lemma Producer.Asks.taken_eq_none {p : Producer} {answer : QueueAnswer} (h : p.Asks answer.call) :
    answer.taken = none := by
  rcases answer with ⟨byte, accepted⟩ | byte | byte | _
  · rfl
  · exact h.elim
  · exact h.elim
  · rfl

lemma Producer.hear_of_done {p : Producer} {answer : QueueAnswer} (hasks : p.Asks answer.call)
    (hdone : p.done = true) : p.hear answer = p := by
  rcases answer with ⟨byte, accepted⟩ | byte | byte | _
  · rw [hasks.1] at hdone
    cases hdone
  · rfl
  · rfl
  · rw [hear, ← hdone]

/-- The parties that use a queue, among them, as `none`, a producer, and the log of all answers. -/
structure Pipeline (ι : Type) where
  monitor : Monitor (Option ι)
  producer : Producer
  log : List (Option ι × QueueAnswer) := []

namespace Pipeline

variable {ι : Type} [DecidableEq ι]

/-- A producer that starts on an input, and a new queue of a depth, zero being no bound. -/
def start (depth : ℕ) (script : List ReadOutcome) : Pipeline ι :=
  { monitor := .start depth, producer := { script } }

/-- One move of one party. -/
inductive Step : Pipeline ι → Pipeline ι → Prop
  /-- The producer reads and is interrupted. -/
  | retry {s : Pipeline ι} {rest : List ReadOutcome} (hstage : s.monitor.stage none = .away)
      (hgoing : s.producer.done = false) (hread : s.producer.script = .interrupted :: rest) :
      Step s { s with producer := { s.producer with script := rest } }
  /-- The producer reads and calls with what it has read, or calls to close, which it does once. -/
  | ask {s : Pipeline ι} (call : QueueCall) (hstage : s.monitor.stage none = .away)
      (hasks : s.producer.Asks call) (hopen : (none, .closed) ∉ s.log) :
      Step s { s with monitor := s.monitor.move none (.entering call) }
  /-- A call of the producer gets its answer. -/
  | hear {s : Pipeline ι} {answer : QueueAnswer} {monitor : Monitor (Option ι)}
      (hmove : s.monitor.Step [(none, answer)] monitor) :
      Step s ⟨monitor, s.producer.hear answer, s.log ++ [(none, answer)]⟩
  /-- Any other move.  The producer does not call, and nobody else pushes. -/
  | other {s : Pipeline ι} {new : List (Option ι × QueueAnswer)} {monitor : Monitor (Option ι)}
      (hmove : s.monitor.Step new monitor) (hnew : ∀ answer, (none, answer) ∉ new)
      (haway : s.monitor.stage none = .away → monitor.stage none = .away)
      (hothers : ∀ i byte, (monitor.stage (some i)).underway ≠ some (.push byte)) :
      Step s ⟨monitor, s.producer, s.log ++ new⟩

/-- The producer has closed the queue and returned the number of bytes it has pushed. -/
def Returned (s : Pipeline ι) (n : ℕ) : Prop :=
  s.monitor.stage none = .away ∧ (none, .closed) ∈ s.log ∧ s.producer.pushed = n

/-- Another party closed the queue before the producer did. -/
def ShutFirst (log : List (Option ι × QueueAnswer)) : Prop :=
  ∃ i before after, log = before ++ (some i, .closed) :: after ∧ (none, .closed) ∉ before

omit [DecidableEq ι] in
lemma ShutFirst.append {log : List (Option ι × QueueAnswer)} (h : ShutFirst log)
    (new : List (Option ι × QueueAnswer)) : ShutFirst (log ++ new) := by
  obtain ⟨i, before, after, rfl, hbefore⟩ := h
  exact ⟨i, before, after ++ new, by simp, hbefore⟩

/-- The producer, the queue and the bytes that came out of it are as if everybody acted in one
piece. -/
def Refines (depth : ℕ) (script : List ReadOutcome) (s : Pipeline ι) (f : Feeding) : Prop :=
  ReflTransGen Feeding.Step ⟨{ script }, .ofDepth depth, [], false⟩ f
    ∧ f.producer = s.producer ∧ f.queue = s.monitor.queue ∧ f.taken = Monitor.takenIn s.log

/-- What holds at every moment. -/
structure Kept (depth : ℕ) (script : List ReadOutcome) (s : Pipeline ι) : Prop where
  refines : ∃ f, s.Refines depth script f ∧ (f.shut = true → ShutFirst s.log)
  asks : ∀ call, (s.monitor.stage none).underway = some call → s.producer.Asks call
  others : ∀ i byte, (s.monitor.stage (some i)).underway ≠ some (.push byte)
  done_of_closed : (none, .closed) ∈ s.log → s.producer.done = true

variable {depth : ℕ} {script : List ReadOutcome} {s s' : Pipeline ι} {f : Feeding}

omit [DecidableEq ι] in
lemma Kept.retry {rest : List ReadOutcome} (h : s.Kept depth script)
    (hstage : s.monitor.stage none = .away) (hgoing : s.producer.done = false)
    (hread : s.producer.script = .interrupted :: rest) :
    Kept depth script { s with producer := { s.producer with script := rest } } := by
  obtain ⟨f, ⟨hruns, hproducer, hqueue, htaken⟩, hshut⟩ := h.refines
  have hstep := Producer.step_of_interrupted (q := f.queue) hgoing hread
  rw [← hproducer] at hstep
  refine ⟨⟨_, ⟨hruns.tail (.produce f), ?_, ?_, htaken⟩, hshut⟩, ?_, h.others, h.done_of_closed⟩
  · rw [hstep, hproducer]
  · rw [hstep]
    exact hqueue
  · intro call hcall
    rw [hstage] at hcall
    cases hcall

lemma Kept.ask {call : QueueCall} (h : s.Kept depth script) (hasks : s.producer.Asks call) :
    Kept depth script { s with monitor := s.monitor.move none (.entering call) } := by
  refine ⟨h.refines, ?_, ?_, h.done_of_closed⟩
  · intro call' hcall
    rw [Monitor.underway_move, if_pos rfl] at hcall
    cases hcall
    exact hasks
  · intro i byte
    rw [Monitor.underway_move, if_neg (by simp)]
    exact h.others i byte

/-- An answer that the producer hears is one to what it asked. -/
lemma Kept.asks_answer {answer : QueueAnswer} {monitor : Monitor (Option ι)}
    (h : s.Kept depth script) (hmove : s.monitor.Step [(none, answer)] monitor) :
    s.producer.Asks answer.call ∧ (monitor.stage none).underway = none := by
  rcases hmove.underway_cases none with
    ⟨call, -, -, hnew⟩ | ⟨other, hnew, hcall, hafter⟩ | ⟨hnew, -⟩
  · cases hnew
  · cases hnew
    exact ⟨h.asks _ hcall, hafter⟩
  · exact absurd (List.mem_singleton_self _) (hnew answer)

lemma Kept.hear {answer : QueueAnswer} {monitor : Monitor (Option ι)} (h : s.Kept depth script)
    (hmove : s.monitor.Step [(none, answer)] monitor) :
    Kept depth script ⟨monitor, s.producer.hear answer, s.log ++ [(none, answer)]⟩ := by
  obtain ⟨f, ⟨hruns, hproducer, hqueue, htaken⟩, hshut⟩ := h.refines
  obtain ⟨hasks, hafter⟩ := h.asks_answer hmove
  have hstep : f.producer.step f.queue = (s.producer.hear answer, monitor.queue) := by
    have hclosed := (Feeding.kept_of_runs hruns).closed_of_done
    rw [hproducer, hqueue] at hclosed ⊢
    exact Producer.step_eq_hear hasks hmove.fits hclosed
  refine ⟨⟨_, ⟨hruns.tail (.produce f), ?_, ?_, ?_⟩, fun hs => (hshut hs).append _⟩, ?_, ?_, ?_⟩
  · rw [hstep]
  · rw [hstep]
  · rw [Monitor.takenIn_concat, hasks.taken_eq_none, htaken]
    exact (List.append_nil _).symm
  · intro call hcall
    rw [hafter] at hcall
    cases hcall
  · intro i byte hcall
    rcases hmove.underway_cases (some i) with ⟨call, -, -, hnew⟩ | ⟨other, hnew, -, -⟩ | ⟨-, hsame⟩
    · cases hnew
    · cases hnew
    · exact h.others i byte (hsame.symm.trans hcall)
  · intro hmem
    rcases List.mem_append.mp hmem with hmem | hmem
    · rw [Producer.hear_of_done hasks (h.done_of_closed hmem)]
      exact h.done_of_closed hmem
    · cases List.mem_singleton.mp hmem
      rfl

/-- What another party is told is an act of that party, and a move without an answer is none. -/
lemma Kept.refines_other {new : List (Option ι × QueueAnswer)} {monitor : Monitor (Option ι)}
    (h : s.Kept depth script) (hmove : s.monitor.Step new monitor)
    (hnew : ∀ answer, (none, answer) ∉ new) :
    ∃ f, Refines depth script ⟨monitor, s.producer, s.log ++ new⟩ f
      ∧ (f.shut = true → ShutFirst (s.log ++ new)) := by
  obtain ⟨f, ⟨hruns, hproducer, hqueue, htaken⟩, hshut⟩ := h.refines
  rcases hmove.queue_cases with ⟨rfl, hsame⟩ | ⟨_ | i, answer, rfl, hfits⟩
  · rw [List.append_nil]
    exact ⟨f, ⟨hruns, hproducer, hqueue.trans hsame.symm, htaken⟩, hshut⟩
  · exact absurd (List.mem_singleton_self _) (hnew answer)
  -- a byte that comes out is the first one, whether or not its taker was ready to wait
  have hpop : ∀ byte : Option UInt8, answer.taken = byte → byte = s.monitor.queue.contents.head? →
      monitor.queue = { s.monitor.queue with contents := s.monitor.queue.contents.tail } →
      ∃ f, Refines depth script ⟨monitor, s.producer, s.log ++ [(some i, answer)]⟩ f
        ∧ (f.shut = true → ShutFirst (s.log ++ [(some i, answer)])) := by
    intro byte hbyte hhead htail
    refine ⟨_, ⟨hruns.tail (.pop f), hproducer, ?_, ?_⟩, fun hs => (hshut hs).append _⟩
    · rw [htail, ByteQueue.pop_eq, hqueue]
    · rw [ByteQueue.pop_eq, hqueue, ← hhead, ← hbyte, htaken, Monitor.takenIn_concat]
  rcases hcase : answer with ⟨byte, accepted⟩ | byte | byte | _
  · -- nobody else pushes
    rcases hmove.underway_cases (some i) with
      ⟨-, -, -, hnone⟩ | ⟨other, hother, hcall, -⟩ | ⟨hnone, -⟩
    · cases hnone
    · cases hother
      rw [hcase] at hcall
      exact absurd hcall (h.others i byte)
    · exact absurd (List.mem_singleton_self _) (hnone answer)
  · rw [hcase] at hfits hpop
    exact hpop byte rfl hfits.1 hfits.2
  · rw [hcase] at hfits hpop
    exact hpop byte rfl hfits.1 hfits.2
  · rw [hcase] at hfits
    refine ⟨_, ⟨hruns.tail (.close f), hproducer, ?_, ?_⟩, fun hs => ?_⟩
    · rw [hqueue]
      exact hfits.symm
    · rw [Monitor.takenIn_concat, htaken]
      exact (List.append_nil _).symm
    · rcases Bool.or_eq_true_iff.mp hs with hs | hgoing
      · exact (hshut hs).append _
      · refine ⟨i, s.log, [], rfl, fun hmem => ?_⟩
        rw [hproducer, h.done_of_closed hmem] at hgoing
        cases hgoing

lemma Kept.other {new : List (Option ι × QueueAnswer)} {monitor : Monitor (Option ι)}
    (h : s.Kept depth script) (hmove : s.monitor.Step new monitor)
    (hnew : ∀ answer, (none, answer) ∉ new)
    (haway : s.monitor.stage none = .away → monitor.stage none = .away)
    (hothers : ∀ i byte, (monitor.stage (some i)).underway ≠ some (.push byte)) :
    Kept depth script ⟨monitor, s.producer, s.log ++ new⟩ := by
  refine ⟨h.refines_other hmove hnew, ?_, hothers, ?_⟩
  · intro call hcall
    rcases hmove.underway_cases none with
      ⟨other, hstage, hstage', -⟩ | ⟨answer, rfl, -, -⟩ | ⟨-, hsame⟩
    · rw [haway hstage] at hstage'
      cases hstage'
    · exact absurd (List.mem_singleton_self _) (hnew answer)
    · exact h.asks call (hsame.symm.trans hcall)
  · intro hmem
    rcases List.mem_append.mp hmem with hmem | hmem
    · exact h.done_of_closed hmem
    · exact absurd hmem (hnew .closed)

/-- Every move keeps it. -/
lemma Kept.step (h : s.Kept depth script) (hstep : Step s s') : s'.Kept depth script := by
  cases hstep with
  | retry hstage hgoing hread => exact h.retry hstage hgoing hread
  | ask call hstage hasks hopen => exact h.ask hasks
  | hear hmove => exact h.hear hmove
  | other hmove hnew haway hothers => exact h.other hmove hnew haway hothers

lemma Kept.runs (h : s.Kept depth script) (hruns : ReflTransGen Step s s') :
    s'.Kept depth script := by
  induction hruns with
  | refl => exact h
  | tail _ hstep ih => exact ih.step hstep

lemma kept_of_runs (hruns : ReflTransGen Step (start depth script) s) : s.Kept depth script := by
  refine Kept.runs ⟨⟨_, ⟨.refl, rfl, rfl, rfl⟩, ?_⟩, ?_, ?_, ?_⟩ hruns
  · rintro ⟨⟩
  · rintro call ⟨⟩
  · rintro i byte ⟨⟩
  · intro hmem
    cases hmem

/-! ## After the producer has returned -/

variable {n : ℕ}

/-- A producer that has returned does nothing more. -/
lemma Returned.step (hreturned : s.Returned n) (h : s.Kept depth script) (hstep : Step s s') :
    s'.Returned n := by
  obtain ⟨hstage, hclosed, hpushed⟩ := hreturned
  cases hstep with
  | retry _ hgoing _ =>
    rw [h.done_of_closed hclosed] at hgoing
    cases hgoing
  | ask _ _ _ hopen => exact absurd hclosed hopen
  | @hear answer monitor hmove =>
    rcases hmove.underway_cases none with ⟨call, -, -, hnew⟩ | ⟨other, -, hcall, -⟩ | ⟨hnew, -⟩
    · cases hnew
    · rw [hstage] at hcall
      cases hcall
    · exact absurd (List.mem_singleton_self _) (hnew answer)
  | other _ _ haway _ => exact ⟨haway hstage, List.mem_append_left _ hclosed, hpushed⟩

lemma Returned.runs (hreturned : s.Returned n) (h : s.Kept depth script)
    (hruns : ReflTransGen Step s s') : s'.Returned n := by
  induction hruns with
  | refl => exact hreturned
  | tail hbefore hstep ih => exact ih.step (h.runs hbefore) hstep

omit [DecidableEq ι] in
/-- What there is to say once the producer has returned. -/
lemma Returned.account (hreturned : s.Returned n) (h : s.Kept depth script) :
    s.monitor.queue.closed = true
      ∧ Monitor.takenIn s.log ++ s.monitor.queue.contents = (inputOf script).take n
      ∧ n ≤ (inputOf script).length
      ∧ (n ≠ (inputOf script).length → ShutFirst s.log) := by
  obtain ⟨-, hclosed, hpushed⟩ := hreturned
  obtain ⟨f, ⟨hruns, hproducer, hqueue, htaken⟩, hshut⟩ := h.refines
  obtain ⟨hinput, hcount, hclosed', hcomplete, -⟩ := Feeding.kept_of_runs hruns
  have hdone := h.done_of_closed hclosed
  rw [hproducer, hqueue, htaken] at hinput hcount
  rw [hproducer] at hclosed' hcomplete
  rw [hpushed] at hcount
  refine ⟨hqueue ▸ hclosed' hdone, ?_, ?_, ?_⟩
  · rw [← hinput, List.take_left' hcount.symm]
  · rw [← hinput, List.length_append]
    omega
  · intro hless
    refine (hcomplete hdone).elim (fun hnothing => ?_) hshut
    rw [hnothing, List.append_nil] at hinput
    rw [← hinput] at hless
    exact absurd hcount hless

/-- **From the input to those who take its bytes.**  A producer fills a new queue of any depth from
any input, while any other parties take bytes out of the queue and close it as they like.  Whatever
the parties do, they might as well act in one piece, the producer by its steps.  At every moment the
bytes that came out and those in the queue are a first part of the input, in order, and the producer
has counted them, which takes no larger a number than that of the reads.  When the producer has
returned a number, they are that many bytes from then on and the queue is closed, and the number is
that of the whole input unless another party closed the queue first. -/
theorem delivers_input (depth : ℕ) (script : List ReadOutcome)
    (hruns : ReflTransGen Step (start depth script) s) :
    (∃ f, s.Refines depth script f)
      ∧ Monitor.takenIn s.log ++ s.monitor.queue.contents <+: inputOf script
      ∧ s.producer.pushed = (Monitor.takenIn s.log ++ s.monitor.queue.contents).length
      ∧ s.producer.pushed ≤ script.length
      ∧ ∀ n, s.Returned n → n ≤ (inputOf script).length
        ∧ (n ≠ (inputOf script).length → ShutFirst s.log)
        ∧ ∀ s', ReflTransGen Step s s' → s'.Returned n ∧ s'.monitor.queue.closed = true
          ∧ Monitor.takenIn s'.log ++ s'.monitor.queue.contents = (inputOf script).take n := by
  have hkept := kept_of_runs hruns
  obtain ⟨f, hrefines, -⟩ := hkept.refines
  have hacts := Feeding.kept_of_runs hrefines.1
  refine ⟨⟨f, hrefines⟩, ?_⟩
  obtain ⟨-, hproducer, hqueue, htaken⟩ := hrefines
  rw [← hproducer, ← hqueue, ← htaken]
  refine ⟨⟨_, hacts.input_eq⟩, hacts.pushed_eq, hacts.pushed_le.trans (length_inputOf_le _), ?_⟩
  intro n hreturned
  obtain ⟨-, -, hle, hshut⟩ := hreturned.account hkept
  refine ⟨hle, hshut, fun s' hlater => ?_⟩
  have hreturned' := hreturned.runs hkept hlater
  obtain ⟨hclosed, hbytes, -⟩ := hreturned'.account (hkept.runs hlater)
  exact ⟨hreturned', hclosed, hbytes⟩

/-- A move of the only other party, or one of the producer in its call. -/
lemma Step.unit {s : Pipeline Unit} {new : List (Option Unit × QueueAnswer)}
    {monitor : Monitor (Option Unit)} (hmove : s.monitor.Step new monitor)
    (hnew : new.all (·.1.isSome) = true)
    (haway : s.monitor.stage none = .away → monitor.stage none = .away)
    (hother : ∀ byte, (monitor.stage (some ())).underway ≠ some (.push byte)) :
    Step s ⟨monitor, s.producer, s.log ++ new⟩ := by
  refine .other hmove (fun answer hmem => ?_) haway fun _ => hother
  cases List.all_eq_true.mp hnew _ hmem

/-- There is room for one byte only.  The producer sleeps with its second byte until the queue is
closed, is refused, and returns one. -/
lemma runs_shut : ∃ s : Pipeline Unit,
    ReflTransGen Step (start 1 [.byte 7, .interrupted, .byte 8, .ended]) s ∧ s.Returned 1 := by
  have haccepted := ((((ReflTransGen.refl (r := Step)
    (a := (start 1 [.byte 7, .interrupted, .byte 8, .ended] : Pipeline Unit))).tail
      (.ask (.push 7) rfl ⟨rfl, _, rfl⟩ (by simp [start]))).tail
      (.hear (.answer none false rfl rfl))).tail
      (.unit (.signalNobody none rfl (by rintro (_ | _) <;> rfl)) rfl nofun nofun)).tail
      (.unit (.leave none rfl) rfl nofun nofun)
  have hasleep := ((haccepted.tail (.retry rfl rfl rfl)).tail
      (.ask (.push 8) rfl ⟨rfl, _, rfl⟩ (by simp [start]))).tail
      (.unit (.sleep none false rfl rfl) rfl nofun nofun)
  have hshut := (((hasleep.tail (.unit (.call (some ()) .close rfl) rfl nofun nofun)).tail
      (.unit (.answer (some ()) false rfl rfl) rfl nofun nofun)).tail
      (.unit (.signalAll (some ()) rfl) rfl nofun nofun)).tail
      (.unit (.signalAll (some ()) rfl) rfl nofun nofun)
  have hrefused := ((hshut.tail (.hear (.answer none false rfl rfl))).tail
      (.unit (.leave none rfl) rfl nofun nofun)).tail
      (.ask .close rfl (.inl rfl) (by simp [start]))
  have hreturned := (((hrefused.tail (.hear (.answer none false rfl rfl))).tail
      (.unit (.signalAll none rfl) rfl nofun nofun)).tail
      (.unit (.signalAll none rfl) rfl nofun nofun)).tail
      (.unit (.leave none rfl) rfl nofun nofun)
  exact ⟨_, hreturned, rfl, by simp, rfl⟩

/-- The run in which the producer is refused, as an instance. -/
theorem delivers_input_shut : ∃ s : Pipeline Unit,
    ReflTransGen Step (start 1 [.byte 7, .interrupted, .byte 8, .ended]) s
      ∧ s.Returned 1
      ∧ ShutFirst s.log
      ∧ ∀ s', ReflTransGen Step s s' →
        Monitor.takenIn s'.log ++ s'.monitor.queue.contents = [7] := by
  obtain ⟨s, hruns, hreturned⟩ := runs_shut
  obtain ⟨-, -, -, -, haccount⟩ := delivers_input 1 _ hruns
  obtain ⟨-, hshut, hlater⟩ := haccount 1 hreturned
  exact ⟨s, hruns, hreturned, hshut (by decide), fun s' hrun => (hlater s' hrun).2.2⟩

end Pipeline

end SocBench
