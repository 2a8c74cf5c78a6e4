import Mathlib.Logic.Function.Basic
import Mathlib.Tactic
import SocBench.Serial.ByteQueue

/-!
# A queue that many parties share

Any number of parties push to a queue, take bytes out of it and close it, all at the same time.  The
queue is behind a lock, and a call does its work in one turn with the lock: it gets its answer, or
it has to sleep.  A push sleeps while the queue is full and open, and a patient pop while it is
empty and open.  A call that got its answer has released the lock and still owes signals to the
sleepers.  A sleeper may also wake without a signal, because its time is up or for no reason at all;
it then wants a turn again.

`Monitor.Step` has one constructor for each of these moves, and a run is any sequence of moves by
any parties.  Its log has the answers in the order in which they were given under the lock.  The
main result (`Monitor.fifo`) says that the log is that of one queue used by one party after the
other: what was accepted is what was taken, in the same order, followed by what is still there.
-/

namespace SocBench

/-! ## One turn with the lock -/

/-- What a party may ask for. -/
inductive QueueCall where
  | push (byte : UInt8)
  | tryPop
  | waitPop
  | close
  deriving DecidableEq

/-- What a call is told. -/
inductive QueueAnswer where
  | pushed (byte : UInt8) (accepted : Bool)
  | tried (byte : Option UInt8)
  | waited (byte : Option UInt8)
  | closed
  deriving DecidableEq

/-- What a party can sleep for. -/
inductive Condition where
  | notEmpty
  | notFull
  deriving DecidableEq

/-- A signal to one of those that sleep for a condition, or to all of them. -/
inductive Signal where
  | one (condition : Condition)
  | all (condition : Condition)
  deriving DecidableEq

/-- How a turn with the lock ends: with an answer and the queue after it, or with sleep. -/
inductive Turn where
  | answered (answer : QueueAnswer) (queue : ByteQueue)
  | asleep

/-- The turn of a call.  Only a patient pop looks at the time, and only when it would sleep. -/
def ByteQueue.turn (q : ByteQueue) (timeUp : Bool) : QueueCall → Turn
  | .push byte =>
    match q.push byte with
    | .accepted q' => .answered (.pushed byte true) q'
    | .refused => .answered (.pushed byte false) q
    | .full => .asleep
  | .tryPop => .answered (.tried q.pop.1) q.pop.2
  | .waitPop =>
    if q.pop.1 = none ∧ q.closed = false ∧ timeUp = false then .asleep
    else .answered (.waited q.pop.1) q.pop.2
  | .close => .answered .closed q.close

/-- The call that an answer is for. -/
def QueueAnswer.call : QueueAnswer → QueueCall
  | .pushed byte _ => .push byte
  | .tried _ => .tryPop
  | .waited _ => .waitPop
  | .closed => .close

/-- The byte that went in. -/
def QueueAnswer.accepted : QueueAnswer → Option UInt8
  | .pushed byte true => some byte
  | _ => none

/-- The byte that came out. -/
def QueueAnswer.taken : QueueAnswer → Option UInt8
  | .tried byte | .waited byte => byte
  | _ => none

/-- The signals that are owed for an answer once the lock is released. -/
def QueueAnswer.owed : QueueAnswer → List Signal
  | .pushed _ true => [.one .notEmpty]
  | .tried (some _) | .waited (some _) => [.one .notFull]
  | .closed => [.all .notEmpty, .all .notFull]
  | .pushed _ false | .tried none | .waited none => []

/-- What an answer means for the queue it was given by: `q` before it and `q'` after it. -/
def QueueAnswer.Fits (q q' : ByteQueue) : QueueAnswer → Prop
  | .pushed byte true =>
    q.closed = false ∧ q.isFull = false ∧ q' = { q with contents := q.contents ++ [byte] }
  | .pushed _ false => q.closed = true ∧ q' = q
  | .tried byte | .waited byte =>
    byte = q.contents.head? ∧ q' = { q with contents := q.contents.tail }
  | .closed => q' = q.close

/-- What there is to wait for: a push waits for room and a patient pop for a byte, and both only
while the queue is open. -/
def QueueCall.Waits (q : ByteQueue) : QueueCall → Prop
  | .push _ => q.closed = false ∧ q.isFull = true
  | .waitPop => q.closed = false ∧ q.contents = []
  | .tryPop | .close => False

/-- A turn ends with an answer to the call that fits, or there is something to wait for. -/
def Turn.Fits (q : ByteQueue) (call : QueueCall) : Turn → Prop
  | .answered answer q' => answer.call = call ∧ answer.Fits q q'
  | .asleep => call.Waits q

namespace ByteQueue

/-- A pop takes the first byte. -/
lemma pop_eq (q : ByteQueue) :
    q.pop = (q.contents.head?, { q with contents := q.contents.tail }) := by
  unfold pop
  rcases q with ⟨_ | ⟨byte, rest⟩, capacity, closed⟩ <;> rfl

lemma contents_ofDepth (depth : ℕ) : (ofDepth depth).contents = [] := by
  rw [ofDepth]
  split_ifs <;> rfl

lemma closed_ofDepth (depth : ℕ) : (ofDepth depth).closed = false := by
  rw [ofDepth]
  split_ifs <;> rfl

lemma capacity_ofDepth (depth : ℕ) :
    (ofDepth depth).capacity = if depth = 0 then none else some depth := by
  rw [ofDepth]
  split_ifs with hdepth
  · rfl
  · exact congrArg some (max_eq_left (Nat.one_le_iff_ne_zero.2 hdepth))

/-- What a turn can do. -/
lemma turn_fits (q : ByteQueue) (timeUp : Bool) (call : QueueCall) :
    (q.turn timeUp call).Fits q call := by
  cases call with
  | push byte =>
    simp only [turn, push]
    split_ifs with hclosed hfull
    · exact ⟨rfl, hclosed, rfl⟩
    · exact ⟨Bool.eq_false_iff.2 hclosed, hfull⟩
    · exact ⟨rfl, Bool.eq_false_iff.2 hclosed, Bool.eq_false_iff.2 hfull, rfl⟩
  | tryPop =>
    rw [turn, pop_eq]
    exact ⟨rfl, rfl, rfl⟩
  | waitPop =>
    rw [turn, pop_eq]
    split_ifs with hwaits
    · obtain ⟨hnone, hopen, -⟩ := hwaits
      exact ⟨hopen, List.head?_eq_none_iff.1 hnone⟩
    · exact ⟨rfl, rfl, rfl⟩
  | close => exact ⟨rfl, rfl⟩

end ByteQueue

/-! ## The parties -/

/-- What a call sleeps for, if it ever sleeps. -/
def QueueCall.condition : QueueCall → Option Condition
  | .push _ => some .notFull
  | .waitPop => some .notEmpty
  | .tryPop | .close => none

/-- Where a party stands: it asks for nothing, or its call wants the lock for the first time,
sleeps, wants the lock again, or has its answer and still owes signals. -/
inductive Stage where
  | away
  | entering (call : QueueCall)
  | asleep (call : QueueCall)
  | woken (call : QueueCall)
  | leaving (owed : List Signal)

/-- Whether a party sleeps for a condition. -/
def Stage.sleepsFor (condition : Condition) : Stage → Bool
  | .asleep call => call.condition == some condition
  | _ => false

/-- The call that wants a turn with the lock. -/
def Stage.pending : Stage → Option QueueCall
  | .entering call | .woken call => some call
  | _ => none

/-- A sleeper that wakes wants the lock again. -/
def Stage.wake : Stage → Stage
  | .asleep call => .woken call
  | stage => stage

/-- A queue and the parties that use it. -/
structure Monitor (ι : Type) where
  queue : ByteQueue
  stage : ι → Stage

namespace Monitor

variable {ι : Type} [DecidableEq ι]

/-- A new queue of a depth, zero being no bound, that nobody uses yet. -/
def start (depth : ℕ) : Monitor ι :=
  ⟨.ofDepth depth, fun _ => .away⟩

/-- One party moves on. -/
def move (m : Monitor ι) (i : ι) (stage : Stage) : Monitor ι :=
  { m with stage := Function.update m.stage i stage }

/-- All that sleep for a condition wake. -/
def wakeAll (m : Monitor ι) (condition : Condition) : Monitor ι :=
  { m with stage := fun j =>
      if (m.stage j).sleepsFor condition then (m.stage j).wake else m.stage j }

/-- One move of one party, with the answer it gives. -/
inductive Step : Monitor ι → List (ι × QueueAnswer) → Monitor ι → Prop
  /-- A party calls. -/
  | call {m : Monitor ι} (i : ι) (call : QueueCall) (hstage : m.stage i = .away) :
      Step m [] (m.move i (.entering call))
  /-- A call has a turn with the lock and gets its answer. -/
  | answer {m : Monitor ι} (i : ι) (timeUp : Bool) {call : QueueCall} {answer : QueueAnswer}
      {queue : ByteQueue}
      (hstage : (m.stage i).pending = some call)
      (hturn : m.queue.turn timeUp call = .answered answer queue) :
      Step m [(i, answer)] { m.move i (.leaving answer.owed) with queue }
  /-- A call has a turn with the lock and must sleep; it gives the lock back as it falls asleep. -/
  | sleep {m : Monitor ι} (i : ι) (timeUp : Bool) {call : QueueCall}
      (hstage : (m.stage i).pending = some call)
      (hturn : m.queue.turn timeUp call = .asleep) : Step m [] (m.move i (.asleep call))
  /-- A sleeper wakes without a signal. -/
  | wake {m : Monitor ι} (i : ι) {call : QueueCall} (hstage : m.stage i = .asleep call) :
      Step m [] (m.move i (.woken call))
  /-- A signal wakes one of those that sleep for it. -/
  | signalOne {m : Monitor ι} (i j : ι) {condition : Condition} {owed : List Signal}
      (hstage : m.stage i = .leaving (.one condition :: owed))
      (hsleeps : (m.stage j).sleepsFor condition = true) :
      Step m [] ((m.move i (.leaving owed)).move j (m.stage j).wake)
  /-- A signal that nobody sleeps for is lost. -/
  | signalNobody {m : Monitor ι} (i : ι) {condition : Condition} {owed : List Signal}
      (hstage : m.stage i = .leaving (.one condition :: owed))
      (hnobody : ∀ j, (m.stage j).sleepsFor condition = false) :
      Step m [] (m.move i (.leaving owed))
  /-- A signal to all. -/
  | signalAll {m : Monitor ι} (i : ι) {condition : Condition} {owed : List Signal}
      (hstage : m.stage i = .leaving (.all condition :: owed)) :
      Step m [] ((m.move i (.leaving owed)).wakeAll condition)
  /-- A call that owes nothing returns. -/
  | leave {m : Monitor ι} (i : ι) (hstage : m.stage i = .leaving []) :
      Step m [] (m.move i .away)

/-- Any number of moves by any parties, with the log of the answers. -/
inductive Runs (m : Monitor ι) : List (ι × QueueAnswer) → Monitor ι → Prop
  | refl : Runs m [] m
  | tail {log new : List (ι × QueueAnswer)} {m' m'' : Monitor ι} (hrun : Runs m log m')
      (hstep : Step m' new m'') : Runs m (log ++ new) m''

/-- The bytes that a log says went in. -/
def acceptedIn (log : List (ι × QueueAnswer)) : List UInt8 :=
  log.filterMap fun entry => entry.2.accepted

/-- The bytes that a log says came out. -/
def takenIn (log : List (ι × QueueAnswer)) : List UInt8 :=
  log.filterMap fun entry => entry.2.taken

end Monitor

/-! ## What goes in and what comes out -/

/-- A queue `q` becomes `q'` as bytes go in and come out, and is shut on the way or not. -/
structure ByteQueue.Exchange (q : ByteQueue) (put taken : List UInt8) (shut : Bool)
    (q' : ByteQueue) : Prop where
  contents_eq : q.contents ++ put = taken ++ q'.contents
  closed_eq : q'.closed = (q.closed || shut)
  put_eq_nil : q.closed = true → put = []
  capacity_eq : q'.capacity = q.capacity
  length_le : ∀ c, q.capacity = some c → q.contents.length ≤ c → q'.contents.length ≤ c

namespace ByteQueue.Exchange

variable {q q' q'' : ByteQueue} {put put' taken taken' : List UInt8} {shut shut' : Bool}

lemma refl (q : ByteQueue) : q.Exchange [] [] false q where
  contents_eq := List.append_nil _
  closed_eq := (Bool.or_false _).symm
  put_eq_nil _ := rfl
  capacity_eq := rfl
  length_le _ _ hle := hle

lemma trans (h : q.Exchange put taken shut q') (h' : q'.Exchange put' taken' shut' q'') :
    q.Exchange (put ++ put') (taken ++ taken') (shut || shut') q'' where
  contents_eq := by
    rw [← List.append_assoc, h.contents_eq, List.append_assoc, h'.contents_eq, List.append_assoc]
  closed_eq := by rw [h'.closed_eq, h.closed_eq, Bool.or_assoc]
  put_eq_nil hclosed := by
    have hclosed' : q'.closed = true := by simp [h.closed_eq, hclosed]
    rw [h.put_eq_nil hclosed, h'.put_eq_nil hclosed', List.append_nil]
  capacity_eq := h'.capacity_eq.trans h.capacity_eq
  length_le c hc hle := h'.length_le c (h.capacity_eq.trans hc) (h.length_le c hc hle)

end ByteQueue.Exchange

/-- Taking out the first byte, if there is one. -/
lemma ByteQueue.exchange_tail (q : ByteQueue) :
    q.Exchange [] q.contents.head?.toList false { q with contents := q.contents.tail } where
  contents_eq := by cases q.contents <;> simp
  closed_eq := (Bool.or_false _).symm
  put_eq_nil _ := rfl
  capacity_eq := rfl
  length_le c _ hle := by
    have hlength : q.contents.tail.length = q.contents.length - 1 := List.length_tail
    exact hlength.trans_le ((Nat.sub_le _ _).trans hle)

/-- What an answer that fits puts in and takes out. -/
lemma QueueAnswer.Fits.exchange {q q' : ByteQueue} {answer : QueueAnswer} (h : answer.Fits q q') :
    q.Exchange answer.accepted.toList answer.taken.toList (answer = .closed) q' := by
  rcases answer with ⟨byte, _ | _⟩ | byte | byte | _
  · obtain ⟨-, rfl⟩ := h
    exact .refl q'
  · obtain ⟨hopen, hroom, rfl⟩ := h
    refine ⟨rfl, (Bool.or_false _).symm, fun hclosed => ?_, rfl, fun c hc _ => ?_⟩
    · rw [hopen] at hclosed
      cases hclosed
    · simp only [ByteQueue.isFull, hc, ByteQueue.size] at hroom
      have hlt : q.contents.length < c := not_le.1 (of_decide_eq_false hroom)
      simpa using hlt
  · obtain ⟨rfl, rfl⟩ := h
    exact q.exchange_tail
  · obtain ⟨rfl, rfl⟩ := h
    exact q.exchange_tail
  · cases h
    exact ⟨List.append_nil _, (Bool.or_true _).symm, fun _ => rfl, rfl, fun _ _ hle => hle⟩

namespace Monitor

variable {ι : Type} [DecidableEq ι]

/-! ## One move -/

variable {m m' : Monitor ι} {i : ι} {answer : QueueAnswer} {log new : List (ι × QueueAnswer)}

/-- A move gives no answer and leaves the queue alone, or gives one answer that fits. -/
lemma Step.queue_cases (h : Step m new m') :
    (new = [] ∧ m'.queue = m.queue)
      ∨ ∃ i answer, new = [(i, answer)] ∧ answer.Fits m.queue m'.queue := by
  cases h with
  | @answer i timeUp call answer queue hstage hturn =>
    have hfits := m.queue.turn_fits timeUp call
    rw [hturn] at hfits
    exact .inr ⟨i, answer, rfl, hfits.2⟩
  | call | sleep | wake | signalOne | signalNobody | signalAll | leave => exact .inl ⟨rfl, rfl⟩

/-- The answer of a move fits. -/
lemma Step.fits (h : Step m [(i, answer)] m') : answer.Fits m.queue m'.queue := by
  obtain ⟨hnew, -⟩ | ⟨j, other, hnew, hfits⟩ := h.queue_cases
  · cases hnew
  · cases hnew
    exact hfits

/-- A call whose turn it is gets its answer or has something to wait for. -/
lemma answered_or_waits {call : QueueCall} (hstage : (m.stage i).pending = some call) :
    (∃ answer m', answer.call = call ∧ Step m [(i, answer)] m') ∨ call.Waits m.queue := by
  have hfits := m.queue.turn_fits false call
  obtain ⟨turn, hturn⟩ : ∃ turn, m.queue.turn false call = turn := ⟨_, rfl⟩
  rw [hturn] at hfits
  cases turn with
  | answered answer queue => exact .inl ⟨answer, _, hfits.1, .answer i false hstage hturn⟩
  | asleep => exact .inr hfits

/-! ## Any number of moves -/

/-- What the log says went in and came out is what did. -/
lemma Runs.exchange (h : Runs m log m') :
    m.queue.Exchange (acceptedIn log) (takenIn log) (log.any fun entry => entry.2 = .closed)
      m'.queue := by
  induction h with
  | refl => exact .refl m.queue
  | @tail log new m' m'' hrun hstep ih =>
    obtain ⟨rfl, hqueue⟩ | ⟨i, answer, rfl, hfits⟩ := hstep.queue_cases
    · rw [List.append_nil, hqueue]
      exact ih
    · have hput : acceptedIn [(i, answer)] = answer.accepted.toList := by
        cases hbyte : answer.accepted <;> simp [acceptedIn, hbyte]
      have htaken : takenIn [(i, answer)] = answer.taken.toList := by
        cases hbyte : answer.taken <;> simp [takenIn, hbyte]
      have hall := ih.trans hfits.exchange
      rw [← hput, ← htaken] at hall
      simpa [acceptedIn, takenIn] using hall

/-- A queue that was open at first is closed if somebody closed it. -/
lemma Runs.closed_iff (h : Runs m log m') (hopen : m.queue.closed = false) :
    m'.queue.closed = true ↔ ∃ j, (j, .closed) ∈ log := by
  simp [h.exchange.closed_eq, hopen]

/-- In every state that any parties can bring a new queue to, what went in is what came out and
after it what is there, in order, and a bounded queue is within its bound.  Once it is closed,
nothing goes in and what is there comes out in order.  A push that is refused changes nothing and
comes after a close, a pop gives the first byte and gives none only if there is none, and closing
removes nothing.  A call whose turn it is gets its answer unless it has something to wait for. -/
theorem fifo (depth : ℕ) (h : Runs (start depth) log m) :
    acceptedIn log = takenIn log ++ m.queue.contents
      ∧ m.queue.capacity = (if depth = 0 then none else some depth)
      ∧ (depth ≠ 0 → m.queue.contents.length ≤ depth)
      ∧ ((∃ j, (j, .closed) ∈ log) → ∀ later m', Runs m later m' →
          acceptedIn later = [] ∧ m.queue.contents = takenIn later ++ m'.queue.contents)
      ∧ (∀ i byte m', Step m [(i, .pushed byte false)] m' →
          m'.queue = m.queue ∧ ∃ j, (j, .closed) ∈ log)
      ∧ (∀ i byte m', Step m [(i, .tried byte)] m' ∨ Step m [(i, .waited byte)] m' →
          byte = m.queue.contents.head?)
      ∧ (∀ i m', Step m [(i, .waited none)] m' → m.queue.contents = [])
      ∧ (∀ i m', Step m [(i, .closed)] m' → m'.queue.contents = m.queue.contents)
      ∧ ∀ i call, (m.stage i).pending = some call →
          (∃ answer m', answer.call = call ∧ Step m [(i, answer)] m') ∨ call.Waits m.queue := by
  have hexchange := h.exchange
  have hclosed := h.closed_iff (ByteQueue.closed_ofDepth depth)
  have hcapacity : m.queue.capacity = if depth = 0 then none else some depth :=
    hexchange.capacity_eq.trans (ByteQueue.capacity_ofDepth depth)
  refine ⟨?_, hcapacity, fun hdepth => ?_, ?_, ?_, ?_, ?_, ?_, ?_⟩
  · simpa [start, ByteQueue.contents_ofDepth] using hexchange.contents_eq
  · refine hexchange.length_le depth ?_ (by simp [start, ByteQueue.contents_ofDepth])
    rw [start, ByteQueue.capacity_ofDepth, if_neg hdepth]
  · intro hsomebody later m' hlater
    have hnothing := hlater.exchange.put_eq_nil (hclosed.2 hsomebody)
    refine ⟨hnothing, ?_⟩
    rw [← hlater.exchange.contents_eq, hnothing, List.append_nil]
  · intro i byte m' hstep
    obtain ⟨hshut, hqueue⟩ := hstep.fits
    exact ⟨hqueue, hclosed.1 hshut⟩
  · rintro i byte m' (hstep | hstep)
    · exact hstep.fits.1
    · exact hstep.fits.1
  · intro i m' hstep
    exact List.head?_eq_none_iff.1 hstep.fits.1.symm
  · intro i m' hstep
    rw [show m'.queue = m.queue.close from hstep.fits, ByteQueue.contents_close]
  · intro i call hstage
    exact answered_or_waits hstage

/-- A push to a full queue sleeps until a pop makes room and signals it, and then goes in; the queue
is closed after that, and the next push is refused. -/
lemma runs_held_push :
    ∃ m : Monitor ℕ, Runs (start 1)
        [(0, .pushed 7 true), (2, .tried (some 7)), (1, .pushed 8 true), (2, .closed),
          (3, .pushed 9 false)] m
      ∧ m.queue.contents = [8] := by
  have hpush := ((Runs.refl (m := (start 1 : Monitor ℕ))).tail (.call 0 (.push 7) rfl)).tail
    (.answer 0 false rfl rfl)
  have hheld := (hpush.tail (.call 1 (.push 8) rfl)).tail (.sleep 1 false rfl rfl)
  have hpop := ((hheld.tail (.call 2 .tryPop rfl)).tail (.answer 2 false rfl rfl)).tail
    (.signalOne 2 1 rfl rfl)
  have hclose := (((hpop.tail (.answer 1 false rfl rfl)).tail (.leave 2 rfl)).tail
    (.call 2 .close rfl)).tail (.answer 2 false rfl rfl)
  have hrefused := (hclose.tail (.call 3 (.push 9) rfl)).tail (.answer 3 false rfl rfl)
  exact ⟨_, hrefused, rfl⟩

/-- The run in which a push is held up, as an instance. -/
theorem fifo_held_push :
    ∃ m : Monitor ℕ, Runs (start 1)
        [(0, .pushed 7 true), (2, .tried (some 7)), (1, .pushed 8 true), (2, .closed),
          (3, .pushed 9 false)] m
      ∧ m.queue.contents = [8]
      ∧ m.queue.contents.length ≤ 1
      ∧ ∀ later m', Runs m later m' → [8] = takenIn later ++ m'.queue.contents := by
  obtain ⟨m, hrun, hcontents⟩ := runs_held_push
  obtain ⟨-, -, hbound, hdrains, -⟩ := fifo 1 hrun
  refine ⟨m, hrun, hcontents, hbound one_ne_zero, fun later m' hlater => ?_⟩
  rw [← hcontents]
  exact (hdrains ⟨2, by simp⟩ later m' hlater).2

end Monitor

end SocBench
