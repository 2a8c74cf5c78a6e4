import Mathlib.Data.Set.Card
import SocBench.Proofs.QueueMonitor

/-!
# Signals that are owed

Calls that wait at a shared queue sleep until they are signalled.  A signal is sent after the lock
is given back, so that other calls may come first and take what it announces, and then the sleeper
that it wakes has to sleep again.

What keeps the sleepers safe is a balance (`Monitor.Alert`).  While somebody sleeps, there are at
most as many free places, or bytes, as there are calls that were woken and have not had their turn
and signals that are still owed; and if the queue is closed, the signal to all is still owed.  Every
move keeps it (`Monitor.Step.alert`), and so it holds in every state that a new queue can come to
(`Monitor.Runs.alert`).
-/

namespace SocBench

/-! ## What sleepers wait for -/

/-- How much there is of what calls wait for: bytes, or free places in a bounded queue. -/
def ByteQueue.stock (q : ByteQueue) : Condition → ℕ
  | .notEmpty => q.contents.length
  | .notFull => q.capacity.elim 0 (· - q.contents.length)

/-- A bounded queue that is not full has a free place. -/
lemma ByteQueue.stock_notFull_pos {q : ByteQueue} (hbounded : q.capacity ≠ none)
    (hroom : q.isFull = false) : 0 < q.stock .notFull := by
  obtain ⟨capacity, hcapacity⟩ := Option.ne_none_iff_exists'.1 hbounded
  simp only [isFull, hcapacity, size] at hroom
  simpa [stock, hcapacity] using not_le.1 (of_decide_eq_false hroom)

/-- Only pushes wait for a place. -/
lemma QueueCall.condition_eq_notFull {call : QueueCall} :
    call.condition = some .notFull ↔ ∃ byte, call = .push byte := by
  cases call <;> simp [condition]

/-- Only patient pops wait for a byte. -/
lemma QueueCall.condition_eq_notEmpty {call : QueueCall} :
    call.condition = some .notEmpty ↔ call = .waitPop := by
  cases call <;> simp [condition]

/-- There is nothing left of what a call waits for. -/
lemma QueueCall.Waits.stock_eq {q : ByteQueue} {call : QueueCall} {c : Condition}
    (h : call.Waits q) (hcall : call.condition = some c) :
    q.closed = false ∧ q.stock c = 0 ∧ (c = .notFull → q.capacity ≠ none) := by
  cases call with
  | push byte =>
    cases hcall
    obtain ⟨hopen, hfull⟩ := h
    cases hcapacity : q.capacity with
    | none => simp [ByteQueue.isFull, hcapacity] at hfull
    | some capacity =>
      simp only [ByteQueue.isFull, hcapacity, ByteQueue.size] at hfull
      refine ⟨hopen, ?_, fun _ => Option.some_ne_none capacity⟩
      simpa [ByteQueue.stock, hcapacity] using Nat.sub_eq_zero_of_le (of_decide_eq_true hfull)
  | waitPop =>
    cases hcall
    obtain ⟨hopen, hempty⟩ := h
    exact ⟨hopen, by simp [ByteQueue.stock, hempty], fun hfull => by cases hfull⟩
  | tryPop => cases hcall
  | close => cases hcall

/-- A byte that comes out leaves a place, and a signal is owed for it. -/
lemma ByteQueue.stock_tail_le (q : ByteQueue) (c : Condition) :
    { q with contents := q.contents.tail }.stock c
      ≤ q.stock c + (decide (.one c ∈ (QueueAnswer.waited q.contents.head?).owed)).toNat := by
  rcases q with ⟨_ | ⟨byte, rest⟩, capacity, closed⟩
  · exact Nat.le_add_right _ _
  · cases c with
    | notEmpty => exact Nat.le_add_right_of_le (Nat.le_succ rest.length)
    | notFull =>
      cases capacity with
      | none => exact Nat.zero_le _
      | some capacity =>
        simp only [stock, QueueAnswer.owed, List.tail_cons, List.head?_cons, Option.elim_some,
          List.length_cons, List.mem_singleton, decide_true, Bool.toNat_true]
        omega

namespace ByteQueue

variable {q q' : ByteQueue} {timeUp : Bool} {call : QueueCall} {answer : QueueAnswer}

lemma fits_of_turn (h : q.turn timeUp call = .answered answer q') :
    answer.call = call ∧ answer.Fits q q' := by
  have hfits := q.turn_fits timeUp call
  rwa [h] at hfits

lemma waits_of_turn (h : q.turn timeUp call = .asleep) : call.Waits q := by
  have hfits := q.turn_fits timeUp call
  rwa [h] at hfits

end ByteQueue

namespace QueueAnswer.Fits

variable {q q' : ByteQueue} {answer : QueueAnswer} {c : Condition}

/-- Whatever an answer adds to the stock, it owes a signal for. -/
lemma stock_le (h : answer.Fits q q') (c : Condition) :
    q'.stock c ≤ q.stock c + (decide (.one c ∈ answer.owed)).toNat := by
  rcases answer with ⟨byte, _ | _⟩ | byte | byte | _
  · obtain ⟨-, rfl⟩ := h
    exact Nat.le_add_right _ _
  · obtain ⟨-, -, rfl⟩ := h
    cases c with
    | notEmpty => simp [ByteQueue.stock, owed]
    | notFull =>
      cases hcapacity : q.capacity with
      | none => simp [ByteQueue.stock, hcapacity]
      | some capacity =>
        simp only [ByteQueue.stock, hcapacity, Option.elim_some, List.length_append]
        omega
  · obtain ⟨rfl, rfl⟩ := h
    have howed : (tried q.contents.head?).owed = (waited q.contents.head?).owed := by
      cases q.contents.head? <;> rfl
    rw [howed]
    exact q.stock_tail_le c
  · obtain ⟨rfl, rfl⟩ := h
    exact q.stock_tail_le c
  · cases h
    cases c <;> exact Nat.le_add_right _ _

/-- A call that waited for something takes one of it.  Bytes are taken from a closed queue too. -/
lemma stock_lt (h : answer.Fits q q') (hcall : answer.call.condition = some c)
    (hopen : c = .notFull → q.closed = false) (hstock : 0 < q.stock c) :
    q'.stock c < q.stock c := by
  rcases answer with ⟨byte, _ | _⟩ | byte | byte | _
  · cases hcall
    -- a push is refused only by a closed queue
    exact absurd h.1 (by simp [hopen rfl])
  · cases hcall
    obtain ⟨-, -, rfl⟩ := h
    cases hcapacity : q.capacity with
    | none => simp [ByteQueue.stock, hcapacity] at hstock
    | some capacity =>
      simp only [ByteQueue.stock, hcapacity, Option.elim_some, List.length_append,
        List.length_singleton] at hstock ⊢
      omega
  · cases hcall
  · cases hcall
    obtain ⟨-, rfl⟩ := h
    simp only [ByteQueue.stock, List.length_tail] at hstock ⊢
    omega
  · cases hcall

/-- A queue stays closed, and only the answer to a close closes it, which owes the signals to
all. -/
lemma closed_cases (h : answer.Fits q q') (hclosed : q'.closed = true) (c : Condition) :
    q.closed = true ∨ .all c ∈ answer.owed := by
  have heq := h.exchange.closed_eq
  rw [hclosed] at heq
  rcases Bool.or_eq_true_iff.1 heq.symm with hbefore | hanswer
  · exact .inl hbefore
  · obtain rfl : answer = .closed := of_decide_eq_true hanswer
    cases c <;> exact .inr (by simp [owed])

end QueueAnswer.Fits

/-! ## Kinds of stages -/

namespace Stage

/-- Whether a party was woken from its sleep for a condition and has not had its turn. -/
def wokenFor (condition : Condition) : Stage → Bool
  | .woken call => call.condition == some condition
  | _ => false

/-- Whether a party still has to send a signal. -/
def owes (signal : Signal) : Stage → Bool
  | .leaving owed => decide (signal ∈ owed)
  | _ => false

/-- Whether a party can go on by itself. -/
def busy : Stage → Bool
  | .away | .asleep _ => false
  | .entering _ | .woken _ | .leaving _ => true

section Kinds

variable (c : Condition) (signal : Signal) (call : QueueCall) (owed : List Signal)

@[simp] lemma sleepsFor_away : away.sleepsFor c = false := rfl
@[simp] lemma sleepsFor_entering : (entering call).sleepsFor c = false := rfl
@[simp] lemma sleepsFor_asleep : (asleep call).sleepsFor c = (call.condition == some c) := rfl
@[simp] lemma sleepsFor_woken : (woken call).sleepsFor c = false := rfl
@[simp] lemma sleepsFor_leaving : (leaving owed).sleepsFor c = false := rfl

@[simp] lemma wokenFor_away : away.wokenFor c = false := rfl
@[simp] lemma wokenFor_entering : (entering call).wokenFor c = false := rfl
@[simp] lemma wokenFor_asleep : (asleep call).wokenFor c = false := rfl
@[simp] lemma wokenFor_woken : (woken call).wokenFor c = (call.condition == some c) := rfl
@[simp] lemma wokenFor_leaving : (leaving owed).wokenFor c = false := rfl

@[simp] lemma owes_away : away.owes signal = false := rfl
@[simp] lemma owes_entering : (entering call).owes signal = false := rfl
@[simp] lemma owes_asleep : (asleep call).owes signal = false := rfl
@[simp] lemma owes_woken : (woken call).owes signal = false := rfl
@[simp] lemma owes_leaving : (leaving owed).owes signal = decide (signal ∈ owed) := rfl

end Kinds

lemma sleepsFor_iff {stage : Stage} {c : Condition} :
    stage.sleepsFor c = true ↔ ∃ call, stage = .asleep call ∧ call.condition = some c := by
  cases stage <;> simp

lemma wokenFor_iff {stage : Stage} {c : Condition} :
    stage.wokenFor c = true ↔ ∃ call, stage = .woken call ∧ call.condition = some c := by
  cases stage <;> simp

lemma owes_iff {stage : Stage} {signal : Signal} :
    stage.owes signal = true ↔ ∃ owed, stage = .leaving owed ∧ signal ∈ owed := by
  cases stage <;> simp

/-- A call that wants a turn neither sleeps nor owes anything, and was woken only for its own
condition. -/
lemma kinds_of_pending {stage : Stage} {call : QueueCall} (h : stage.pending = some call)
    (c : Condition) :
    stage.sleepsFor c = false ∧ (∀ signal, stage.owes signal = false)
      ∧ (stage.wokenFor c = true → call.condition = some c) := by
  cases stage with
  | entering other => exact ⟨rfl, fun _ => rfl, fun hwoken => by cases hwoken⟩
  | woken other =>
    cases h
    exact ⟨rfl, fun _ => rfl, eq_of_beq⟩
  | away | asleep | leaving => cases h

end Stage

namespace Monitor

variable {ι : Type} {m m' : Monitor ι} {i : ι} {c d : Condition}

/-! ## Numbers of parties -/

/-- How many parties are at a stage of a kind. -/
noncomputable def tally (m : Monitor ι) (kind : Stage → Bool) : ℕ :=
  {i | kind (m.stage i) = true}.ncard

/-- Only so many parties use the queue. -/
def Finitely (m : Monitor ι) : Prop :=
  {i | m.stage i ≠ .away}.Finite

lemma Finitely.kind (h : m.Finitely) {kind : Stage → Bool} (haway : kind .away = false) :
    {i | kind (m.stage i) = true}.Finite := by
  refine h.subset fun i hi hstage => ?_
  have hkind : kind (m.stage i) = true := hi
  rw [hstage, haway] at hkind
  cases hkind

lemma tally_pos_iff (h : m.Finitely) (kind : Stage → Bool) (haway : kind .away = false) :
    0 < m.tally kind ↔ ∃ i, kind (m.stage i) = true :=
  Set.ncard_pos (h.kind haway)

lemma exists_owing (hfin : m.Finitely) {signal : Signal} (h : 0 < m.tally (Stage.owes signal)) :
    ∃ k owed, m.stage k = .leaving owed ∧ signal ∈ owed := by
  obtain ⟨k, hk⟩ := (tally_pos_iff hfin _ rfl).1 h
  exact ⟨k, Stage.owes_iff.1 hk⟩

lemma tally_congr {kind : Stage → Bool} (h : ∀ i, kind (m'.stage i) = kind (m.stage i)) :
    m'.tally kind = m.tally kind := by
  simp only [tally, h]

/-- With one party left out, and then with it. -/
lemma tally_eq (h : m.Finitely) {kind : Stage → Bool} (haway : kind .away = false) (i : ι) :
    m.tally kind
      = ({j | kind (m.stage j) = true} \ {i}).ncard + (kind (m.stage i)).toNat := by
  cases hi : kind (m.stage i) with
  | true =>
    have hmem : i ∈ {j | kind (m.stage j) = true} := hi
    exact (Set.ncard_sdiff_singleton_add_one hmem (h.kind haway)).symm
  | false =>
    rw [Set.sdiff_singleton_eq_self (by simp [hi])]
    rfl

lemma Finitely.wakeAll (h : m.Finitely) (c : Condition) : (m.wakeAll c).Finitely := by
  refine h.subset fun i hi haway => hi ?_
  simp [Monitor.wakeAll, haway]

/-- Nobody sleeps for a condition after the signal to all. -/
lemma sleepsFor_wakeAll (m : Monitor ι) (c : Condition) (i : ι) :
    ((m.wakeAll c).stage i).sleepsFor c = false := by
  by_cases hsleeps : (m.stage i).sleepsFor c = true
  · obtain ⟨call, hasleep, hcall⟩ := Stage.sleepsFor_iff.1 hsleeps
    simp [Monitor.wakeAll, hasleep, hcall, Stage.wake]
  · simp [Monitor.wakeAll, hsleeps]

variable [DecidableEq ι]

lemma Finitely.update (h : m.Finitely) {stage : Stage}
    (hstages : m'.stage = Function.update m.stage i stage) : m'.Finitely := by
  refine (h.insert i).subset fun j hj => ?_
  by_cases hji : j = i
  · exact .inl hji
  · refine .inr fun haway => hj ?_
    rw [hstages, Function.update_of_ne hji, haway]

/-- A party that moves leaves the kinds of its old stage and joins those of its new one. -/
lemma tally_update (h : m.Finitely) {stage : Stage}
    (hstages : m'.stage = Function.update m.stage i stage) (kind : Stage → Bool)
    (haway : kind .away = false) :
    m'.tally kind + (kind (m.stage i)).toNat = m.tally kind + (kind stage).toNat := by
  have hothers : {j | kind (m'.stage j) = true} \ {i} = {j | kind (m.stage j) = true} \ {i} := by
    ext j
    by_cases hji : j = i
    · simp [hji]
    · simp [hstages, hji]
  rw [tally_eq h haway i, tally_eq (h.update hstages) haway i, hothers, hstages,
    Function.update_self]
  omega

/-- A signal moves two parties: the one that owed it and the one that it wakes. -/
lemma tally_signalOne (h : m.Finitely) {j : ι} {call : QueueCall} {signal : Signal}
    {owed : List Signal} (hi : m.stage i = .leaving (signal :: owed))
    (hj : m.stage j = .asleep call) (kind : Stage → Bool) (haway : kind .away = false) :
    ((m.move i (.leaving owed)).move j (m.stage j).wake).tally kind
        + (kind (.asleep call)).toNat + (kind (.leaving (signal :: owed))).toNat
      = m.tally kind + (kind (.woken call)).toNat + (kind (.leaving owed)).toNat := by
  have hji : j ≠ i := by
    rintro rfl
    rw [hi] at hj
    cases hj
  have hfirst : (m.move i (.leaving owed)).stage = Function.update m.stage i (.leaving owed) := rfl
  have howner := tally_update h hfirst kind haway
  have hsleeper := tally_update (h.update hfirst)
    (show ((m.move i (.leaving owed)).move j (m.stage j).wake).stage = _ from rfl) kind haway
  rw [hi] at howner
  rw [hfirst, Function.update_of_ne hji, hj, Stage.wake] at hsleeper
  rw [hj, Stage.wake]
  omega

/-! ## The balance -/

/-- What holds while somebody sleeps for a condition.  If the queue is closed, the signal to all is
still owed.  There is no more of what the sleepers wait for than calls that were woken for it and
signals for it that are owed; free places count only while the queue is open. -/
structure Balance (m : Monitor ι) (c : Condition) : Prop where
  bounded : c = .notFull → m.queue.capacity ≠ none
  owed_all : m.queue.closed = true → 0 < m.tally (Stage.owes (.all c))
  stock_le : (c = .notFull → m.queue.closed = false) →
    m.queue.stock c ≤ m.tally (Stage.wokenFor c) + m.tally (Stage.owes (.one c))

/-- If somebody sleeps for a condition, the balance holds. -/
def Alert (m : Monitor ι) (c : Condition) : Prop :=
  0 < m.tally (Stage.sleepsFor c) → m.Balance c

omit [DecidableEq ι] in
lemma Alert.balance (h : m.Alert c) (hfin : m.Finitely)
    (hsleeps : (m.stage i).sleepsFor c = true) : m.Balance c :=
  h ((tally_pos_iff hfin (Stage.sleepsFor c) rfl).2 ⟨i, hsleeps⟩)

omit [DecidableEq ι] in
/-- Without a change to the queue, the balance holds on if there are no fewer helpers. -/
lemma Alert.of_le (h : m.Alert c) (hqueue : m'.queue = m.queue)
    (hasleep : m'.tally (Stage.sleepsFor c) ≤ m.tally (Stage.sleepsFor c))
    (hall : m.tally (Stage.owes (.all c)) ≤ m'.tally (Stage.owes (.all c)))
    (hhelp : m.tally (Stage.wokenFor c) + m.tally (Stage.owes (.one c))
      ≤ m'.tally (Stage.wokenFor c) + m'.tally (Stage.owes (.one c))) : m'.Alert c := by
  intro hsleeper
  obtain ⟨hbounded, howed, hstock⟩ := h (hsleeper.trans_le hasleep)
  rw [← hqueue] at hbounded howed hstock
  exact ⟨hbounded, fun hclosed => (howed hclosed).trans_le hall,
    fun hopen => (hstock hopen).trans hhelp⟩

/-- A party that moves and is no less of a helper than before. -/
lemma Alert.move (h : m.Alert c) (hfin : m.Finitely) (i : ι) (stage : Stage)
    (hasleep : (stage.sleepsFor c).toNat ≤ ((m.stage i).sleepsFor c).toNat)
    (hall : ((m.stage i).owes (.all c)).toNat ≤ (stage.owes (.all c)).toNat)
    (hhelp : ((m.stage i).wokenFor c).toNat + ((m.stage i).owes (.one c)).toNat
      ≤ (stage.wokenFor c).toNat + (stage.owes (.one c)).toNat) : (m.move i stage).Alert c := by
  have hstages : (m.move i stage).stage = Function.update m.stage i stage := rfl
  have hsleepers := tally_update hfin hstages (Stage.sleepsFor c) rfl
  have howing := tally_update hfin hstages (Stage.owes (.all c)) rfl
  have hwoken := tally_update hfin hstages (Stage.wokenFor c) rfl
  have hones := tally_update hfin hstages (Stage.owes (.one c)) rfl
  exact h.of_le rfl (by omega) (by omega) (by omega)

/-- The turn of a call that gets its answer. -/
lemma Alert.answer (h : m.Alert c) (hfin : m.Finitely) {answer : QueueAnswer}
    (hstage : (m.stage i).pending = some answer.call)
    (hstages : m'.stage = Function.update m.stage i (.leaving answer.owed))
    (hfits : answer.Fits m.queue m'.queue) : m'.Alert c := by
  obtain ⟨hawake, hnothing, hwokenfor⟩ := Stage.kinds_of_pending hstage c
  have hsleepers := tally_update hfin hstages (Stage.sleepsFor c) rfl
  have howing := tally_update hfin hstages (Stage.owes (.all c)) rfl
  have hwoken := tally_update hfin hstages (Stage.wokenFor c) rfl
  have hones := tally_update hfin hstages (Stage.owes (.one c)) rfl
  simp only [hawake, hnothing, Stage.sleepsFor_leaving, Stage.wokenFor_leaving, Stage.owes_leaving,
    Bool.toNat_false, Nat.add_zero] at hsleepers howing hwoken hones
  intro hsleeper
  obtain ⟨hbounded, howed, hstock⟩ := h (hsleepers ▸ hsleeper)
  refine ⟨fun hc => ?_, fun hclosed => ?_, fun hopen => ?_⟩
  · exact hfits.exchange.capacity_eq.trans_ne (hbounded hc)
  · -- the queue was closed before, or is closed now by one who owes the signals to all
    rcases hfits.closed_cases hclosed c with hbefore | hmem
    · exact (howed hbefore).trans_le (howing ▸ Nat.le_add_right _ _)
    · simp only [hmem, decide_true, Bool.toNat_true] at howing
      omega
  · have hopenBefore : c = .notFull → m.queue.closed = false := by
      intro hc
      have hclosed := hfits.exchange.closed_eq
      rw [hopen hc] at hclosed
      exact (Bool.or_eq_false_iff.1 hclosed.symm).1
    have hle := hfits.stock_le c
    have hbalance := hstock hopenBefore
    by_cases hcall : answer.call.condition = some c
    · -- a call that waited for it may have been counted as woken, and takes one of the stock
      have hone := Bool.toNat_le ((m.stage i).wokenFor c)
      rcases Nat.eq_zero_or_pos (m.queue.stock c) with hzero | hpos
      · omega
      · have hlt := hfits.stock_lt hcall hopenBefore hpos
        omega
    · rw [Bool.eq_false_iff.2 fun hw => hcall (hwokenfor hw), Bool.toNat_false] at hwoken
      omega

/-- The turn of a call that falls asleep. -/
lemma Alert.sleep (h : m.Alert c) (hfin : m.Finitely) {call : QueueCall}
    (hstage : (m.stage i).pending = some call) (hwaits : call.Waits m.queue) :
    (m.move i (.asleep call)).Alert c := by
  obtain ⟨-, hnothing, hwokenfor⟩ := Stage.kinds_of_pending hstage c
  by_cases hcall : call.condition = some c
  · -- the queue has nothing to wake the new sleeper for
    obtain ⟨hopen, hstock, hbounded⟩ := hwaits.stock_eq hcall
    exact fun _ => ⟨hbounded, fun hclosed => absurd (hopen.symm.trans hclosed) Bool.false_ne_true,
      fun _ => hstock.trans_le (Nat.zero_le _)⟩
  · have hwoken : (m.stage i).wokenFor c = false :=
      Bool.eq_false_iff.2 fun hw => hcall (hwokenfor hw)
    refine h.move hfin i _ ?_ ?_ ?_
    · simp [beq_eq_false_iff_ne.2 hcall]
    · simp [hnothing]
    · simp [hnothing, hwoken]

omit [DecidableEq ι] in
/-- Waking all that sleep for one condition does nothing to the balance of the other, and leaves
nobody asleep for the one. -/
lemma Alert.wakeAll (h : c ≠ d → m.Alert c) (hfin : m.Finitely) : (m.wakeAll d).Alert c := by
  by_cases hcd : c = d
  · intro hsleeper
    obtain ⟨i, hi⟩ := (tally_pos_iff (hfin.wakeAll d) _ rfl).1 hsleeper
    rw [hcd, sleepsFor_wakeAll] at hi
    cases hi
  · have hsame : ∀ i, ((m.wakeAll d).stage i).sleepsFor c = (m.stage i).sleepsFor c
        ∧ ((m.wakeAll d).stage i).wokenFor c = (m.stage i).wokenFor c
        ∧ ∀ signal, ((m.wakeAll d).stage i).owes signal = (m.stage i).owes signal := by
      intro i
      by_cases hsleeps : (m.stage i).sleepsFor d = true
      · obtain ⟨call, hasleep, hcall⟩ := Stage.sleepsFor_iff.1 hsleeps
        simp [Monitor.wakeAll, hasleep, hcall, Stage.wake, Ne.symm hcd]
      · simp [Monitor.wakeAll, hsleeps]
    exact (h hcd).of_le rfl (tally_congr fun i => (hsame i).1).le
      (tally_congr fun i => (hsame i).2.2 _).ge
      (Nat.add_le_add (tally_congr fun i => (hsame i).2.1).ge
        (tally_congr fun i => (hsame i).2.2 _).ge)

/-- A signal that wakes one sleeper: the woken call stands for the signal that was owed. -/
lemma Alert.signalOne (h : m.Alert c) (hfin : m.Finitely) {j : ι} {owed : List Signal}
    (hstage : m.stage i = .leaving (.one d :: owed)) (hsleeps : (m.stage j).sleepsFor d = true) :
    ((m.move i (.leaving owed)).move j (m.stage j).wake).Alert c := by
  obtain ⟨call, hasleep, hcall⟩ := Stage.sleepsFor_iff.1 hsleeps
  have hsleepers := tally_signalOne hfin hstage hasleep (Stage.sleepsFor c) rfl
  have howing := tally_signalOne hfin hstage hasleep (Stage.owes (.all c)) rfl
  have hwoken := tally_signalOne hfin hstage hasleep (Stage.wokenFor c) rfl
  have hones := tally_signalOne hfin hstage hasleep (Stage.owes (.one c)) rfl
  simp only [Stage.sleepsFor_woken, Stage.sleepsFor_leaving, Stage.wokenFor_asleep,
    Stage.wokenFor_leaving, Stage.wokenFor_woken, Stage.owes_asleep, Stage.owes_woken,
    Stage.owes_leaving, Bool.toNat_false, Nat.add_zero, List.mem_cons, reduceCtorEq, false_or]
    at hsleepers howing hwoken hones
  refine h.of_le rfl (by omega) (by omega) ?_
  by_cases hcd : c = d
  · subst hcd
    simp only [hcall, beq_self_eq_true, Bool.toNat_true] at hwoken
    have hone := Bool.toNat_le (decide (Signal.one c = .one c ∨ Signal.one c ∈ owed))
    omega
  · simp only [Signal.one.injEq, hcd, false_or] at hones
    omega

/-! ## Every move keeps the balance -/

variable {new log : List (ι × QueueAnswer)}

lemma Step.finitely (h : Step m new m') (hfin : m.Finitely) : m'.Finitely := by
  cases h with
  | call | answer | sleep | wake | signalNobody | leave => exact hfin.update rfl
  | @signalOne i j condition owed hstage hsleeps =>
    have hfirst : (m.move i (.leaving owed)).Finitely := hfin.update rfl
    exact hfirst.update rfl
  | @signalAll i condition owed hstage =>
    have hfirst : (m.move i (.leaving owed)).Finitely := hfin.update rfl
    exact hfirst.wakeAll condition

lemma Step.alert (h : Step m new m') (hfin : m.Finitely) (halert : m.Alert c) : m'.Alert c := by
  cases h with
  | call i call hstage => exact halert.move hfin i _ (by simp) (by simp [hstage]) (by simp [hstage])
  | @answer i timeUp call answer queue hstage hturn =>
    obtain ⟨rfl, hfits⟩ := ByteQueue.fits_of_turn hturn
    exact halert.answer hfin hstage rfl hfits
  | sleep i timeUp hstage hturn =>
    exact halert.sleep hfin hstage (ByteQueue.waits_of_turn hturn)
  | wake i hstage => exact halert.move hfin i _ (by simp) (by simp [hstage]) (by simp [hstage])
  | signalOne i j hstage hsleeps => exact halert.signalOne hfin hstage hsleeps
  | @signalNobody i condition owed hstage hnobody =>
    by_cases hc : c = condition
    · -- the signal is lost, and there is nobody to miss it
      intro hsleeper
      obtain ⟨j, hj⟩ := (tally_pos_iff (hfin.update rfl) _ rfl).1 hsleeper
      by_cases hji : j = i
      · simp [move, hji] at hj
      · simp [move, hji, hc, hnobody] at hj
    · exact halert.move hfin i _ (by simp) (by simp [hstage]) (by simp [hstage, hc])
  | @signalAll i condition owed hstage =>
    refine .wakeAll (fun hc => ?_) (hfin.update rfl)
    exact halert.move hfin i _ (by simp) (by simp [hstage, hc]) (by simp [hstage])
  | leave i hstage => exact halert.move hfin i _ (by simp) (by simp [hstage]) (by simp [hstage])

omit [DecidableEq ι] in
lemma finitely_start (depth : ℕ) : (start depth : Monitor ι).Finitely := by
  simp [Finitely, start]

/-- In every state that a new queue can come to, finitely many use it and the balance holds. -/
lemma Runs.alert {depth : ℕ} (h : Runs (start depth) log m) : m.Finitely ∧ ∀ c, m.Alert c := by
  induction h with
  | refl =>
    refine ⟨finitely_start depth, fun c hsleeper => ?_⟩
    obtain ⟨i, hi⟩ := (tally_pos_iff (finitely_start depth) _ rfl).1 hsleeper
    cases hi
  | tail hrun hstep ih =>
    obtain ⟨hfin, halert⟩ := ih
    exact ⟨hstep.finitely hfin, fun c => hstep.alert hfin (halert c)⟩

end Monitor

end SocBench
