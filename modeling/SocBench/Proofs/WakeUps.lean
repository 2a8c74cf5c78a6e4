import SocBench.Proofs.OwedSignals

/-!
# No wake-up is lost

A signal to a sleeper is sent after the lock is given back, and who is woken by it may find that
others were faster.  In any run in which every party that can go on does so at some time
(`Monitor.FairRun`), nobody sleeps forever beside what they wait for all the same.

At a closed queue the signal to all is owed, and is sent at some time.  At an open queue the
argument has three numbers that come to rest one after the other: how many sleep, how many signals
are owed, and how much there is of what they wait for.  By the balance (`Monitor.Balance`) somebody
was woken then, and the turn of that call takes one more.  The main result,
`Monitor.no_lost_wake_up`, states the balance and this consequence.
-/

namespace SocBench

namespace Monitor

variable {ι : Type} [DecidableEq ι] {m m' : Monitor ι} {i : ι} {c : Condition}
  {new log : List (ι × QueueAnswer)}

/-! ## What becomes of a party -/

/-- What a signal does: one sleeper less unless nobody sleeps, or nobody asleep any more. -/
def Sent (m m' : Monitor ι) : Signal → Prop
  | .one c => (∀ j, (m.stage j).sleepsFor c = false)
      ∨ m'.tally (Stage.sleepsFor c) < m.tally (Stage.sleepsFor c)
  | .all c => ∀ j, (m'.stage j).sleepsFor c = false

/-- A party that can go on and whose stage changes has its turn, sends a signal, or returns. -/
lemma Step.busy_cases (h : Step m new m') (hfin : m.Finitely) {k : ι}
    (hbusy : (m.stage k).busy = true) (hmoves : m'.stage k ≠ m.stage k) :
    (∃ call, (m.stage k).pending = some call
        ∧ (call.Waits m.queue
          ∨ ∃ answer : QueueAnswer, answer.call = call ∧ answer.Fits m.queue m'.queue))
      ∨ m.stage k = .leaving []
      ∨ ∃ signal rest, m.stage k = .leaving (signal :: rest) ∧ m'.stage k = .leaving rest
          ∧ Sent m m' signal := by
  -- whoever is not the one that moves stays where it is
  have hmover : ∀ {i stage}, m'.stage = Function.update m.stage i stage → k = i := by
    intro i stage hstages
    by_contra hki
    exact hmoves (by rw [hstages, Function.update_of_ne hki])
  cases h with
  | call i call hstage =>
    obtain rfl := hmover rfl
    simp [hstage, Stage.busy] at hbusy
  | @answer i timeUp call answer queue hstage hturn =>
    obtain rfl := hmover rfl
    exact .inl ⟨call, hstage, .inr ⟨answer, ByteQueue.fits_of_turn hturn⟩⟩
  | @sleep i timeUp call hstage hturn =>
    obtain rfl := hmover rfl
    exact .inl ⟨call, hstage, .inl (ByteQueue.waits_of_turn hturn)⟩
  | wake i hstage =>
    obtain rfl := hmover rfl
    simp [hstage, Stage.busy] at hbusy
  | @signalOne i j condition owed hstage hsleeps =>
    obtain ⟨call, hasleep, hcall⟩ := Stage.sleepsFor_iff.1 hsleeps
    have hkj : k ≠ j := by
      rintro rfl
      simp [hasleep, Stage.busy] at hbusy
    by_cases hki : k = i
    · subst hki
      have hsleepers := tally_signalOne hfin hstage hasleep (Stage.sleepsFor condition) rfl
      simp only [Stage.sleepsFor_asleep, Stage.sleepsFor_woken, Stage.sleepsFor_leaving, hcall,
        beq_self_eq_true, Bool.toNat_true, Bool.toNat_false] at hsleepers
      refine .inr (.inr ⟨.one condition, owed, hstage, by simp [move, hkj], .inr ?_⟩)
      omega
    · exact absurd (by simp [move, hkj, hki]) hmoves
  | @signalNobody i condition owed hstage hnobody =>
    obtain rfl := hmover rfl
    exact .inr (.inr ⟨.one condition, owed, hstage, by simp [move], .inl hnobody⟩)
  | @signalAll i condition owed hstage =>
    by_cases hki : k = i
    · subst hki
      exact .inr (.inr ⟨.all condition, owed, hstage, by simp [move, wakeAll],
        sleepsFor_wakeAll _ condition⟩)
    · have hawake : (m.stage k).sleepsFor condition = false := by
        by_contra hsleeps
        obtain ⟨call, hasleep, -⟩ := Stage.sleepsFor_iff.1 (Bool.not_eq_false _ ▸ hsleeps)
        simp [hasleep, Stage.busy] at hbusy
      exact absurd (by simp [move, wakeAll, hki, hawake]) hmoves
  | leave i hstage =>
    obtain rfl := hmover rfl
    exact .inr (.inl hstage)

/-- Nobody falls asleep beside what they would wait for. -/
lemma Step.sleepers_le (h : Step m new m') (hfin : m.Finitely) (hstock : 0 < m.queue.stock c) :
    m'.tally (Stage.sleepsFor c) ≤ m.tally (Stage.sleepsFor c) := by
  -- it is enough that the party that moves does not come to sleep
  have hle : ∀ {m' : Monitor ι} {i stage}, m'.stage = Function.update m.stage i stage →
      stage.sleepsFor c = false → m'.tally (Stage.sleepsFor c) ≤ m.tally (Stage.sleepsFor c) := by
    intro m' i stage hstages hawake
    have htally := tally_update hfin hstages (Stage.sleepsFor c) rfl
    rw [hawake, Bool.toNat_false] at htally
    omega
  cases h with
  | call | answer | wake | signalNobody | leave => exact hle rfl rfl
  | @sleep i timeUp call hstage hturn =>
    refine hle rfl (beq_eq_false_iff_ne.2 fun hcall => ?_)
    exact hstock.ne' ((ByteQueue.waits_of_turn hturn).stock_eq hcall).2.1
  | @signalOne i j condition owed hstage hsleeps =>
    obtain ⟨call, hasleep, -⟩ := Stage.sleepsFor_iff.1 hsleeps
    have hsleepers := tally_signalOne hfin hstage hasleep (Stage.sleepsFor c) rfl
    simp only [Stage.sleepsFor_woken, Stage.sleepsFor_leaving, Bool.toNat_false] at hsleepers
    omega
  | @signalAll i condition owed hstage =>
    refine (Set.ncard_le_ncard (fun k hk => ?_) (Finitely.kind (hfin.update rfl) rfl)).trans
      (hle (show (m.move i (.leaving owed)).stage = _ from rfl) rfl)
    by_cases hsleeps : ((m.move i (.leaving owed)).stage k).sleepsFor condition = true
    · obtain ⟨call, hasleep, hcall⟩ := Stage.sleepsFor_iff.1 hsleeps
      simp [wakeAll, hasleep, hcall, Stage.wake] at hk
    · simpa [wakeAll, hsleeps] using hk

/-- The stock grows only by the turn of a call that owes a signal for it. -/
lemma Step.stock_le (h : Step m new m') (c : Condition)
    (hnobody : ∀ k, (m'.stage k).owes (.one c) = false) : m'.queue.stock c ≤ m.queue.stock c := by
  cases h with
  | @answer i timeUp call answer queue hstage hturn =>
    have hnothing := hnobody i
    simp only [move, Function.update_self, Stage.owes_leaving] at hnothing
    have hle := (ByteQueue.fits_of_turn hturn).2.stock_le c
    rwa [hnothing] at hle
  | call | sleep | wake | signalOne | signalNobody | signalAll | leave => exact le_rfl

/-! ## Fair runs -/

/-- States at all times: from one to the next a party moves or nothing happens. -/
def Walk (run : ℕ → Monitor ι) : Prop :=
  ∀ t, run (t + 1) = run t ∨ ∃ new, Step (run t) new (run (t + 1))

/-- A walk from a new queue is fair if every party that can go on by itself, being neither away nor
asleep, does so at some time. -/
structure FairRun (depth : ℕ) (run : ℕ → Monitor ι) : Prop where
  start_eq : run 0 = start depth
  walk : Walk run
  fair : ∀ t i, ((run t).stage i).busy = true → ∃ u ≥ t, (run u).stage i ≠ (run t).stage i

/-- A number that never grows comes to rest. -/
lemma exists_settled {f : ℕ → ℕ} {T : ℕ} (h : ∀ t ≥ T, f (t + 1) ≤ f t) :
    ∃ U ≥ T, ∀ t ≥ U, f (t + 1) = f t := by
  -- by induction on the number itself: it is at rest already, or drops at some time
  induction hn : f T using Nat.strong_induction_on generalizing T with
  | _ n ih =>
    subst hn
    by_cases hrest : ∀ t ≥ T, f (t + 1) = f t
    · exact ⟨T, le_rfl, hrest⟩
    · push Not at hrest
      obtain ⟨t, ht, hne⟩ := hrest
      have hanti : f t ≤ f T :=
        Nat.le_induction le_rfl (fun u hu ihu => (h u hu).trans ihu) t ht
      have hdrop : f (t + 1) < f T := (lt_of_le_of_ne (h t ht) hne).trans_le hanti
      obtain ⟨U, hU, hsettled⟩ := ih _ hdrop (fun u hu => h u (by omega)) rfl
      exact ⟨U, by omega, hsettled⟩

namespace FairRun

variable {depth : ℕ} {run : ℕ → Monitor ι}

/-- Every state of a fair run is one that a new queue can come to. -/
lemma runs (h : FairRun depth run) (t : ℕ) : ∃ log, Runs (start depth) log (run t) := by
  induction t with
  | zero => exact ⟨[], h.start_eq ▸ .refl⟩
  | succ t ih =>
    obtain ⟨log, hlog⟩ := ih
    rcases h.walk t with hidle | ⟨new, hstep⟩
    · exact ⟨log, hidle ▸ hlog⟩
    · exact ⟨log ++ new, hlog.tail hstep⟩

lemma finitely (h : FairRun depth run) (t : ℕ) : (run t).Finitely := by
  obtain ⟨log, hlog⟩ := h.runs t
  exact hlog.alert.1

lemma balance (h : FairRun depth run) {t : ℕ} (hsleeps : ((run t).stage i).sleepsFor c = true) :
    (run t).Balance c := by
  obtain ⟨log, hlog⟩ := h.runs t
  exact (hlog.alert.2 c).balance hlog.alert.1 hsleeps

/-- A party that can go on has a last time at its stage and then makes its move. -/
lemma moves (h : FairRun depth run) {t : ℕ} (hbusy : ((run t).stage i).busy = true) :
    ∃ u ≥ t, (run u).stage i = (run t).stage i ∧ (run (u + 1)).stage i ≠ (run u).stage i
      ∧ ∃ new, Step (run u) new (run (u + 1)) := by
  obtain ⟨v, hv, hne⟩ := h.fair t i hbusy
  have hchange : ∃ u ≥ t, (run u).stage i = (run t).stage i
      ∧ (run (u + 1)).stage i ≠ (run u).stage i := by
    by_contra hnone
    push Not at hnone
    exact hne (Nat.le_induction rfl (fun u hu ih => (hnone u hu ih).trans ih) v hv)
  obtain ⟨u, hu, hsame, hmoves⟩ := hchange
  refine ⟨u, hu, hsame, hmoves, ?_⟩
  rcases h.walk u with hidle | hstep
  · exact absurd (by rw [hidle]) hmoves
  · exact hstep

/-- A signal that is owed is sent. -/
lemma sends (h : FairRun depth run) {t : ℕ} {owed : List Signal} {signal : Signal}
    (hstage : (run t).stage i = .leaving owed) (hmem : signal ∈ owed) :
    ∃ u ≥ t, Sent (run u) (run (u + 1)) signal := by
  -- the signals are sent one by one, in order
  induction owed generalizing t with
  | nil => cases hmem
  | cons first rest ih =>
    obtain ⟨u, hu, hsame, hmoves, new, hstep⟩ := h.moves (i := i) (t := t) (by rw [hstage]; rfl)
    rw [hstage] at hsame
    obtain ⟨call, hcall, -⟩ | hnone | ⟨other, rest', hleaving, hnext, hsent⟩ :=
      hstep.busy_cases (h.finitely u) (by rw [hsame]; rfl) hmoves
    · rw [hsame] at hcall
      cases hcall
    · rw [hsame] at hnone
      cases hnone
    · rw [hsame] at hleaving
      cases hleaving
      rcases List.mem_cons.1 hmem with rfl | hlater
      · exact ⟨u, hu, hsent⟩
      · obtain ⟨v, hv, hsent'⟩ := ih hnext hlater
        exact ⟨v, by omega, hsent'⟩

/-- At a closed queue somebody owes the signal to all, and that wakes every sleeper. -/
lemma not_asleep_beside_closed (h : FairRun depth run) {T : ℕ}
    (hsleeps : ∀ t ≥ T, ((run t).stage i).sleepsFor c = true) :
    ∀ t ≥ T, (run t).queue.closed = false := by
  intro t ht
  by_contra hclosed
  have howed := (h.balance (hsleeps t ht)).owed_all (Bool.not_eq_false _ ▸ hclosed)
  obtain ⟨k, owed, hstage, hmem⟩ := exists_owing (h.finitely t) howed
  obtain ⟨u, hu, hsent⟩ := h.sends hstage hmem
  exact absurd (hsleeps (u + 1) (by omega)) (by simp [show _ = false from hsent i])

/-- Nobody sleeps forever beside what they wait for. -/
lemma wakes (h : FairRun depth run) {T : ℕ}
    (hsleeps : ∀ t ≥ T, ((run t).stage i).sleepsFor c = true)
    (hbeside : ∀ t ≥ T, (run t).queue.closed = true ∨ 0 < (run t).queue.stock c) : False := by
  have hopen := h.not_asleep_beside_closed hsleeps
  have hstock : ∀ t ≥ T, 0 < (run t).queue.stock c := fun t ht =>
    (hbeside t ht).resolve_left (by simp [hopen t ht])
  -- nobody new falls asleep, so that the number of sleepers comes to rest
  obtain ⟨U, hU, hsleepers⟩ := exists_settled (f := fun t => (run t).tally (Stage.sleepsFor c))
    (T := T) fun t ht => by
      rcases h.walk t with hidle | ⟨new, hstep⟩
      · exact (congrArg (fun m => m.tally (Stage.sleepsFor c)) hidle).le
      · exact hstep.sleepers_le (h.finitely t) (hstock t ht)
  -- from then on no signal to one is sent, and so none is owed
  have hnobody : ∀ t ≥ U, ∀ k, ((run t).stage k).owes (.one c) = false := by
    intro t ht k
    by_contra howes
    obtain ⟨owed, hstage, hmem⟩ := Stage.owes_iff.1 (Bool.not_eq_false _ ▸ howes)
    obtain ⟨u, hu, hlost | hfewer⟩ := h.sends hstage hmem
    · exact absurd (hsleeps u (by omega)) (by simp [hlost i])
    · exact hfewer.ne (hsleepers u (by omega))
  -- without signals that are owed the stock does not grow, and comes to rest too
  obtain ⟨V, hV, hrest⟩ := exists_settled (f := fun t => (run t).queue.stock c) (T := U)
    fun t ht => by
      rcases h.walk t with hidle | ⟨new, hstep⟩
      · exact (congrArg (fun m => m.queue.stock c) hidle).le
      · exact hstep.stock_le c (hnobody (t + 1) (by omega))
  -- by the balance somebody was woken, whose turn takes one of the stock
  have hfin := h.finitely V
  have hbalance := (h.balance (hsleeps V (by omega))).stock_le fun _ => hopen V (by omega)
  have hnone : (run V).tally (Stage.owes (.one c)) = 0 := by
    by_contra hsome
    obtain ⟨k, hk⟩ := (tally_pos_iff hfin _ rfl).1 (Nat.pos_of_ne_zero hsome)
    simp [hnobody V hV k] at hk
  have hpos := hstock V (by omega)
  obtain ⟨k, hk⟩ := (tally_pos_iff hfin (Stage.wokenFor c) rfl).1 (by omega)
  obtain ⟨call, hwoken, hcall⟩ := Stage.wokenFor_iff.1 hk
  obtain ⟨u, hu, hsame, hmoves, new, hstep⟩ := h.moves (i := k) (t := V) (by rw [hwoken]; rfl)
  rw [hwoken] at hsame
  obtain ⟨other, hother, hturn⟩ | hleaving | ⟨_, _, hleaving, -⟩ :=
    hstep.busy_cases (h.finitely u) (by rw [hsame]; rfl) hmoves
  · rw [hsame] at hother
    cases hother
    have hleft := hstock u (by omega)
    rcases hturn with hwaits | ⟨answer, rfl, hfits⟩
    · exact hleft.ne' (hwaits.stock_eq hcall).2.1
    · have htakes := hfits.stock_lt hcall (fun _ => hopen u (by omega)) hleft
      exact htakes.ne (hrest u hu)
  · rw [hsame] at hleaving
    cases hleaving
  · rw [hsame] at hleaving
    cases hleaving

end FairRun

/-- A walk that has come to rest goes on with any run from there. -/
lemma Runs.extend {path : ℕ → Monitor ι} {N : ℕ} (h : Runs m log m') (hpath : Walk path)
    (hrest : ∀ t ≥ N, path t = m) :
    ∃ path' N', (∀ t ≤ N, path' t = path t) ∧ Walk path' ∧ ∀ t ≥ N', path' t = m' := by
  induction h with
  | refl => exact ⟨path, N, fun _ _ => rfl, hpath, hrest⟩
  | @tail log new m' m'' hrun hstep ih =>
    obtain ⟨path', N', hsame, hwalk, hend⟩ := ih
    -- the new move comes at a time when both the old walk and this one are over
    refine ⟨fun t => if t ≤ max N N' then path' t else m'', max N N' + 1, ?_, ?_, ?_⟩
    · intro t ht
      simp [ht, hsame t ht]
    · intro t
      beta_reduce
      rcases lt_trichotomy t (max N N') with hlt | rfl | hgt
      · have hle : t + 1 ≤ max N N' := hlt
        simpa only [if_pos hle, if_pos hlt.le] using hwalk t
      · rw [if_neg (Nat.not_succ_le_self _), if_pos le_rfl, hend _ (le_max_right N N')]
        exact .inr ⟨new, hstep⟩
      · rw [if_neg (not_le.2 hgt), if_neg (not_le.2 (Nat.lt_succ_of_lt hgt))]
        exact .inl rfl
    · intro t ht
      exact if_neg (not_le.2 ht)

/-- A state from which everybody can come to rest is one that a fair run passes through. -/
lemma Runs.exists_fairRun {depth : ℕ} {later : List (ι × QueueAnswer)}
    (h : Runs (start depth) log m) (hlater : Runs m later m')
    (hrest : ∀ i, (m'.stage i).busy = false) :
    ∃ run : ℕ → Monitor ι, FairRun depth run ∧ ∃ t, run t = m := by
  have hidle : Walk fun _ => (start depth : Monitor ι) := fun _ => .inl rfl
  obtain ⟨path, N, hfirst, hpath, hstay⟩ := h.extend (N := 0) hidle fun _ _ => rfl
  obtain ⟨run, N', hsame, hrun, hend⟩ := hlater.extend hpath hstay
  refine ⟨run, ⟨?_, hrun, fun t i hbusy => ?_⟩, N, (hsame N le_rfl).trans (hstay N le_rfl)⟩
  · exact (hsame 0 (Nat.zero_le N)).trans (hfirst 0 le_rfl)
  · refine ⟨max t N', le_max_left t N', fun hstage => ?_⟩
    rw [← hstage, hend _ (le_max_right t N'), hrest] at hbusy
    cases hbusy

/-! ## The main result -/

/-- In every state that any parties can bring a new queue to, only finitely many of them use it.  If
a push sleeps, the queue is bounded; if it is closed, somebody still has to send the signal to all;
and if it is open, there are at most as many free places as pushes that were woken and have not had
their turn and pops that still have to send their signal.  If a patient pop sleeps, there are at
most as many bytes as patient pops that were woken and pushes that still have to send their signal,
and if the queue is closed, somebody still has to send the signal to all.

In every fair run, then, no push sleeps forever beside room or a closed queue, and no patient pop
beside a byte or a closed queue. -/
theorem no_lost_wake_up (depth : ℕ) :
    (∀ (log : List (ι × QueueAnswer)) (m : Monitor ι), Runs (start depth) log m →
      {i | m.stage i ≠ .away}.Finite
        ∧ ((∃ i byte, m.stage i = .asleep (.push byte)) →
            depth ≠ 0
              ∧ (m.queue.closed = true →
                  ∃ k owed, m.stage k = .leaving owed ∧ .all .notFull ∈ owed)
              ∧ (m.queue.closed = false →
                  depth - m.queue.contents.length
                    ≤ {i | ∃ byte, m.stage i = .woken (.push byte)}.ncard
                      + {i | ∃ owed, m.stage i = .leaving owed ∧ .one .notFull ∈ owed}.ncard))
        ∧ ((∃ i, m.stage i = .asleep .waitPop) →
            m.queue.contents.length
                ≤ {i | m.stage i = .woken .waitPop}.ncard
                  + {i | ∃ owed, m.stage i = .leaving owed ∧ .one .notEmpty ∈ owed}.ncard
              ∧ (m.queue.closed = true →
                  ∃ k owed, m.stage k = .leaving owed ∧ .all .notEmpty ∈ owed)))
      ∧ ∀ run : ℕ → Monitor ι, FairRun depth run → ∀ T i,
          (∀ byte, ¬ ∀ t ≥ T, (run t).stage i = .asleep (.push byte)
            ∧ ((run t).queue.closed = true ∨ (run t).queue.isFull = false))
          ∧ ¬ ∀ t ≥ T, (run t).stage i = .asleep .waitPop
            ∧ ((run t).queue.closed = true ∨ (run t).queue.contents ≠ []) := by
  constructor
  · intro log m hrun
    obtain ⟨hfin, halert⟩ := hrun.alert
    refine ⟨hfin, ?_, ?_⟩
    · rintro ⟨i, byte, hasleep⟩
      have hsleeps : (m.stage i).sleepsFor .notFull = true :=
        Stage.sleepsFor_iff.2 ⟨_, hasleep, rfl⟩
      obtain ⟨hbounded, howed, hstock⟩ := (halert .notFull).balance hfin hsleeps
      have hcapacity := hrun.exchange.capacity_eq.trans (ByteQueue.capacity_ofDepth depth)
      have hdepth : depth ≠ 0 := by
        rintro rfl
        exact hbounded rfl hcapacity
      rw [if_neg hdepth] at hcapacity
      refine ⟨hdepth, fun hclosed => exists_owing hfin (howed hclosed), fun hopen => ?_⟩
      simpa [tally, Stage.wokenFor_iff, Stage.owes_iff, QueueCall.condition_eq_notFull,
        ByteQueue.stock, hcapacity] using hstock fun _ => hopen
    · rintro ⟨i, hasleep⟩
      have hsleeps : (m.stage i).sleepsFor .notEmpty = true :=
        Stage.sleepsFor_iff.2 ⟨_, hasleep, rfl⟩
      obtain ⟨-, howed, hstock⟩ := (halert .notEmpty).balance hfin hsleeps
      refine ⟨?_, fun hclosed => exists_owing hfin (howed hclosed)⟩
      simpa [tally, Stage.wokenFor_iff, Stage.owes_iff, QueueCall.condition_eq_notEmpty,
        ByteQueue.stock] using hstock fun hc => by cases hc
  · intro run hrun T i
    constructor
    · intro byte hforever
      have hsleeps : ∀ t ≥ T, ((run t).stage i).sleepsFor .notFull = true := fun t ht =>
        Stage.sleepsFor_iff.2 ⟨_, (hforever t ht).1, rfl⟩
      refine hrun.wakes hsleeps fun t ht => (hforever t ht).2.imp_right fun hroom => ?_
      exact ByteQueue.stock_notFull_pos ((hrun.balance (hsleeps t ht)).bounded rfl) hroom
    · intro hforever
      have hsleeps : ∀ t ≥ T, ((run t).stage i).sleepsFor .notEmpty = true := fun t ht =>
        Stage.sleepsFor_iff.2 ⟨_, (hforever t ht).1, rfl⟩
      exact hrun.wakes hsleeps fun t ht => (hforever t ht).2.imp_right List.length_pos_iff.2

/-- A push sleeps at a queue of one place, and the pop that made room still owes its signal, as does
the push before. -/
def owedSignal : Monitor (Fin 3) where
  queue := ⟨[], some 1, false⟩
  stage := ![.leaving [.one .notEmpty], .asleep (.push 8), .leaving [.one .notFull]]

lemma runs_owedSignal :
    Runs (start 1) [(0, .pushed 7 true), (2, .tried (some 7))] owedSignal := by
  have hfull := ((Runs.refl (m := (start 1 : Monitor (Fin 3)))).tail (.call 0 (.push 7) rfl)).tail
    (.answer 0 false rfl rfl)
  have hheld := (hfull.tail (.call 1 (.push 8) rfl)).tail (.sleep 1 false rfl rfl)
  have hroom := (hheld.tail (.call 2 .tryPop rfl)).tail (.answer 2 false rfl rfl)
  refine (congrArg (Runs (start 1) _) ?_).mp hroom
  exact congrArg (Monitor.mk _) (funext fun i => by fin_cases i <;> rfl)

/-- From there everybody can come to rest. -/
lemma exists_rest_owedSignal :
    ∃ log m, Runs owedSignal log m ∧ ∀ i, (m.stage i).busy = false := by
  have hwoken := ((Runs.refl (m := owedSignal)).tail (.signalOne 2 1 rfl rfl)).tail (.leave 2 rfl)
  have hpushed := hwoken.tail (.answer 1 false rfl rfl)
  have hsent := (hpushed.tail (.signalNobody 0 rfl (by decide))).tail
    (.signalNobody 1 rfl (by decide))
  have hover := (hsent.tail (.leave 0 rfl)).tail (.leave 1 rfl)
  exact ⟨_, _, hover, by decide⟩

/-- The push that sleeps while a signal is owed, as an instance: the one free place is accounted
for, and in a fair run that comes to this state the push does not sleep on beside it. -/
theorem no_lost_wake_up_owed_signal :
    1 ≤ {i | ∃ byte, owedSignal.stage i = .woken (.push byte)}.ncard
        + {i | ∃ owed, owedSignal.stage i = .leaving owed ∧ .one .notFull ∈ owed}.ncard
      ∧ ∃ run, FairRun 1 run ∧ (∃ t, run t = owedSignal)
        ∧ ∀ T, ¬ ∀ t ≥ T, (run t).stage 1 = .asleep (.push 8)
            ∧ ((run t).queue.closed = true ∨ (run t).queue.isFull = false) := by
  obtain ⟨later, m, hlater, hrest⟩ := exists_rest_owedSignal
  obtain ⟨run, hfair, hpasses⟩ := runs_owedSignal.exists_fairRun hlater hrest
  obtain ⟨hstates, hforever⟩ := no_lost_wake_up (ι := Fin 3) 1
  obtain ⟨-, hpush, -⟩ := hstates _ _ runs_owedSignal
  exact ⟨(hpush ⟨1, 8, rfl⟩).2.2 rfl, run, hfair, hpasses, fun T => (hforever run hfair T 1).1 8⟩

end Monitor

end SocBench
