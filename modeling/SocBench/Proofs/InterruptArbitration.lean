import SocBench.Proofs.SourceSettings

/-!
# Arbitration in the interrupt controller

The interrupt controller keeps the enable bits, the priorities, the vectors and the arguments of its
sources in one block of bytes, next to the two words it latches for the core.

Whatever was called before, an update selects the source that asks, is enabled and beats all others
of that kind (`Plic.Beats`), and latches what the tables hold for it; no other call but a reset
touches the selection or the latched words (`Plic.Leaves`).  The main result, `Plic.arbitrates`,
says so in terms of what the calls have said about the sources (`SourceSettings.after`).
-/

namespace SocBench

namespace Plic

/-! ## The best source -/

/-- A source asks for an interrupt and may have one. -/
def IsActive (p : Plic) (s : Source) : Prop :=
  p.isPending s = true ∧ p.isEnabled s = true

/-- A source is served before another: its priority is higher, or it is the same and the source
comes first. -/
def Beats (p : Plic) (s t : Source) : Prop :=
  p.priority t < p.priority s ∨ (p.priority t = p.priority s ∧ s.id < t.id)

/-- Of some sources this one is active and beats all other active ones. -/
structure IsBest (p : Plic) (among : List Source) (s : Source) : Prop where
  mem : s ∈ among
  active : p.IsActive s
  beats : ∀ t ∈ among, t ≠ s → p.IsActive t → p.Beats s t

variable {p : Plic}

lemma Beats.asymm {s t : Source} (hst : p.Beats s t) : ¬ p.Beats t s := by
  simp only [Beats, UInt8.lt_iff_toNat_lt, ← UInt8.toNat_inj] at hst ⊢
  omega

lemma IsBest.unique {among : List Source} {s t : Source} (hs : p.IsBest among s)
    (ht : p.IsBest among t) : s = t := by
  by_contra hne
  exact (hs.beats t ht.mem (Ne.symm hne) ht.active).asymm (ht.beats s hs.mem hne hs.active)

lemma better_of_not_active {best : Option Source} {s : Source} (h : ¬ p.IsActive s) :
    p.better best s = best := by
  unfold better
  rw [if_neg (by simpa [IsActive] using h)]

lemma better_none {s : Source} (h : p.IsActive s) : p.better none s = some s := by
  unfold better
  rw [if_pos (by simpa [IsActive] using h)]

lemma better_some {b s : Source} (h : p.IsActive s) :
    p.better (some b) s = if p.priority b < p.priority s then some s else some b := by
  unfold better
  rw [if_pos (by simpa [IsActive] using h)]

/-- One more source, which comes after all the others, and how the best of them changes. -/
lemma IsBest.better {before : List Source} {b s : Source} (h : p.IsBest before b)
    (hlast : ∀ t ∈ before, t.id < s.id) (hs : p.IsActive s) :
    p.IsBest (before ++ [s]) (if p.priority b < p.priority s then s else b) := by
  by_cases hlt : p.priority b < p.priority s
  · rw [if_pos hlt]
    refine ⟨by simp, hs, ?_⟩
    intro t ht hne hactive
    have hbefore : t ∈ before := by simpa [hne] using ht
    -- whoever the best one beats is beaten by a higher priority too
    by_cases hsame : t = b
    · exact .inl (hsame ▸ hlt)
    · have hbeats := h.beats t hbefore hsame hactive
      simp only [Beats, UInt8.lt_iff_toNat_lt, ← UInt8.toNat_inj] at hlt hbeats ⊢
      omega
  · rw [if_neg hlt]
    refine ⟨by simp [h.mem], h.active, ?_⟩
    intro t ht hne hactive
    rcases List.mem_append.1 ht with hbefore | hnew
    · exact h.beats t hbefore hne hactive
    · obtain rfl : t = s := by simpa using hnew
      have hid := hlast b h.mem
      simp only [Beats, UInt8.lt_iff_toNat_lt, ← UInt8.toNat_inj] at hlt ⊢
      omega

/-- What the controller has found after looking at some of the sources. -/
def Found (p : Plic) (before : List Source) : Option Source → Prop
  | none => ∀ t ∈ before, ¬ p.IsActive t
  | some s => p.IsBest before s

/-- A source that is not active is passed over. -/
lemma Found.skip {before : List Source} {best : Option Source} {s : Source}
    (h : p.Found before best) (hs : ¬ p.IsActive s) : p.Found (before ++ [s]) best := by
  have hold : ∀ t ∈ before ++ [s], p.IsActive t → t ∈ before := by
    intro t ht hactive
    rcases List.mem_append.1 ht with hbefore | hnew
    · exact hbefore
    · obtain rfl : t = s := by simpa using hnew
      exact absurd hactive hs
  cases best with
  | none => exact fun t ht hactive => h t (hold t ht hactive) hactive
  | some b =>
    refine ⟨by simp [h.mem], h.active, ?_⟩
    intro t ht hne hactive
    exact h.beats t (hold t ht hactive) hne hactive

/-- An active source is compared with the best one so far. -/
lemma Found.better {before : List Source} {best : Option Source} {s : Source}
    (h : p.Found before best) (hlast : ∀ t ∈ before, t.id < s.id) (hs : p.IsActive s) :
    p.Found (before ++ [s]) (p.better best s) := by
  cases best with
  | none =>
    rw [better_none hs]
    refine ⟨by simp, hs, ?_⟩
    intro t ht hne hactive
    -- there was no active source before this one
    have hbefore : t ∈ before := by simpa [hne] using ht
    exact absurd hactive (h t hbefore)
  | some b =>
    have hnext := IsBest.better h hlast hs
    rw [better_some hs]
    split_ifs at hnext ⊢ <;> exact hnext

/-- Going through sources in their order finds the best of them. -/
lemma found_foldl {before : List Source} (hsorted : before.Pairwise (·.id < ·.id)) :
    p.Found before (before.foldl p.better none) := by
  induction before using List.reverseRecOn with
  | nil => simp [Found]
  | append_singleton before s ih =>
    obtain ⟨hbefore, -, hlast⟩ := List.pairwise_append.1 hsorted
    rw [List.foldl_append, List.foldl_cons, List.foldl_nil]
    by_cases hactive : p.IsActive s
    · exact (ih hbefore).better (fun t ht => hlast t ht s (by simp)) hactive
    · rw [better_of_not_active hactive]
      exact (ih hbefore).skip hactive

lemma Source.mem_all (s : Source) : s ∈ Source.all := by
  cases s <;> simp [Source.all]

lemma found_choose (p : Plic) : p.Found Source.all p.choose :=
  found_foldl (by decide)

lemma choose_eq_some_iff (p : Plic) (s : Source) :
    p.choose = some s ↔ p.IsBest Source.all s := by
  have hfound := p.found_choose
  constructor
  · intro hchoose
    rw [hchoose] at hfound
    exact hfound
  · intro hbest
    cases hchoose : p.choose with
    | none =>
      rw [hchoose] at hfound
      exact absurd hbest.active (hfound s hbest.mem)
    | some t =>
      rw [hchoose] at hfound
      rw [IsBest.unique hfound hbest]

lemma choose_eq_none_iff (p : Plic) : p.choose = none ↔ ∀ s, ¬ p.IsActive s := by
  have hfound := p.found_choose
  constructor
  · intro hchoose s
    rw [hchoose] at hfound
    exact hfound s s.mem_all
  · intro hnone
    cases hchoose : p.choose with
    | none => rfl
    | some t =>
      rw [hchoose] at hfound
      exact absurd hfound.active (hnone t)

/-! ## What an update latches -/

lemma word_update_vector (p : Plic) :
    p.update.regs.word vectorOffset = p.choose.elim 0 p.vector := by
  rw [update]
  exact (RegisterBlock.word_setWord_ne _ (by decide) _).trans
    (RegisterBlock.word_setWord_same _ (by decide) _)

lemma word_update_argument (p : Plic) :
    p.update.regs.word argumentOffset = p.choose.elim 0 p.argument := by
  rw [update]
  exact RegisterBlock.word_setWord_same _ (by decide) _

/-! ## What the other calls leave alone -/

/-- The enable word has no bit without a source. -/
def EnablesSources (p : Plic) : Prop :=
  (p.regs.word enableOffset).toNat < 2 ^ sources

/-- What a call other than an update and a reset does not touch: the selected source and everything
between the enable word and the tables, where the latched words stand.  Of the enable word only bits
of sources change. -/
structure Leaves (p q : Plic) : Prop where
  selected_eq : q.selected = p.selected
  byte_eq : ∀ offset, enableOffset + 4 ≤ offset → offset < priorityTable →
    q.regs.byte offset = p.regs.byte offset
  enables : p.EnablesSources → q.EnablesSources

lemma Leaves.refl (p : Plic) : p.Leaves p :=
  ⟨rfl, fun _ _ _ => rfl, id⟩

lemma Leaves.word_eq {q : Plic} (h : p.Leaves q) {offset : ℕ} (hlow : enableOffset + 4 ≤ offset)
    (hhigh : offset + 4 ≤ priorityTable) : q.regs.word offset = p.regs.word offset := by
  rw [RegisterBlock.word, RegisterBlock.word]
  congr 1
  refine RegisterBlock.peek_congr _ fun i hi => ?_
  exact h.byte_eq _ (by omega) (by omega)

/-- A write to the enable word that sets no bit without a source. -/
lemma leaves_enable (p : Plic) {word : UInt32}
    (hword : p.EnablesSources → word.toNat < 2 ^ sources) :
    p.Leaves { p with regs := p.regs.setWord enableOffset word } := by
  refine ⟨rfl, ?_, ?_⟩
  · intro offset hlow _
    exact RegisterBlock.byte_poke_outside _ (.inr hlow) _
  · intro h
    rw [EnablesSources, RegisterBlock.word_setWord_same _ (by decide)]
    exact hword h

/-- A write to the tables, of any number of bytes. -/
lemma leaves_table (p : Plic) {offset : ℕ} (hoffset : priorityTable ≤ offset) (width value : ℕ) :
    p.Leaves { p with regs := p.regs.poke width offset value } := by
  have hfar : enableOffset + 4 ≤ offset := le_trans (by decide) hoffset
  refine ⟨rfl, ?_, ?_⟩
  · intro other _ hhigh
    exact RegisterBlock.byte_poke_outside _ (.inl (by omega)) _
  · intro h
    rw [EnablesSources, RegisterBlock.word, RegisterBlock.peek_poke_disjoint _ (.inl hfar)]
    exact h

lemma Leaves.trans {q r : Plic} (hpq : p.Leaves q) (hqr : q.Leaves r) : p.Leaves r := by
  refine ⟨hqr.selected_eq.trans hpq.selected_eq, ?_, fun h => hqr.enables (hpq.enables h)⟩
  intro offset hlow hhigh
  rw [hqr.byte_eq offset hlow hhigh, hpq.byte_eq offset hlow hhigh]

lemma toNat_sourceBit_lt (s : Source) : (sourceBit s).toNat < 2 ^ sources := by
  cases s <;> decide

/-- Clearing any enable bits and setting some of sources. -/
lemma leaves_updateWord (p : Plic) (clear : UInt32) {set : UInt32}
    (hset : set.toNat < 2 ^ sources) :
    p.Leaves { p with regs := p.regs.updateWord enableOffset clear set } := by
  refine p.leaves_enable fun h => ?_
  rw [RegisterBlock.maskWord, UInt32.toNat_or, UInt32.toNat_and]
  exact Nat.or_lt_two_pow (lt_of_le_of_lt Nat.and_le_left h) hset

lemma leaves_setByte (p : Plic) {offset : ℕ} (hoffset : priorityTable ≤ offset) (value : UInt8) :
    p.Leaves { p with regs := p.regs.setByte offset value } := by
  have hbyte : p.regs.setByte offset value = p.regs.poke 1 offset value.toNat := by
    rw [RegisterBlock.poke, RegisterBlock.poke, UInt8.ofNat_toNat]
  rw [hbyte]
  exact p.leaves_table hoffset _ _

lemma leaves_writeByte (p : Plic) (offset : ℕ) (value : UInt8) :
    p.Leaves (p.writeByte offset value).2 := by
  rcases p.writeByte_cases offset value with ⟨⟨hlow, -⟩, hwrite⟩ | ⟨-, hwrite⟩
  · rw [hwrite]
    exact p.leaves_setByte hlow value
  · rw [hwrite]
    exact Leaves.refl p

lemma leaves_writeWord (p : Plic) (offset : ℕ) (value : UInt32) :
    p.Leaves (p.writeWord offset value).2 := by
  rcases p.writeWord_cases offset value with ⟨-, hwrite⟩ | ⟨-, hwrite⟩ | ⟨⟨-, -, htable⟩, hwrite⟩
    | ⟨-, e, hwrite⟩
  · rw [hwrite]
    exact Leaves.refl p
  · -- the mask of the enable word has one bit for each source
    rw [hwrite]
    refine p.leaves_enable fun _ => ?_
    rw [UInt32.toNat_and]
    exact lt_of_le_of_lt Nat.and_le_right (by decide)
  · rw [hwrite]
    exact p.leaves_table htable _ _
  · rw [hwrite]
    exact Leaves.refl p

lemma leaves_setHandler (p : Plic) (s : Source) (vector argument : UInt32) :
    p.Leaves (p.setHandler s vector argument) := by
  have hvector : priorityTable ≤ vectorTable + 4 * s.id :=
    le_trans (by decide) (Nat.le_add_right _ _)
  have hargument : priorityTable ≤ argumentTable + 4 * s.id :=
    le_trans (by decide) (Nat.le_add_right _ _)
  unfold setHandler RegisterBlock.setWord
  exact (p.leaves_table hvector 4 vector.toNat).trans
    (leaves_table _ hargument 4 argument.toNat)

/-- Every call but an update and a reset. -/
lemma leaves_perform (p : Plic) {call : PlicCall} (hupdate : call ≠ .update)
    (hreset : call ≠ .reset) : p.Leaves (p.perform call).2 := by
  cases call with
  | setLine s level => exact ⟨rfl, fun _ _ _ => rfl, id⟩
  | enable s => exact p.leaves_updateWord 0 (toNat_sourceBit_lt s)
  | disable s => exact p.leaves_updateWord (sourceBit s) (by decide)
  | setPriority s value => exact p.leaves_setByte (Nat.le_add_right _ _) value
  | setHandler s vector argument => exact p.leaves_setHandler s vector argument
  | read width offset => exact Leaves.refl p
  | writeByte offset value => exact p.leaves_writeByte offset value
  | writeWord offset value => exact p.leaves_writeWord offset value
  | update => exact absurd rfl hupdate
  | reset => exact absurd rfl hreset

lemma enablesSources_initial : initial.EnablesSources := by
  rw [EnablesSources, initial, RegisterBlock.word_zero]
  decide

lemma EnablesSources.perform (h : p.EnablesSources) (call : PlicCall) :
    (p.perform call).2.EnablesSources := by
  by_cases hupdate : call = .update
  · rw [hupdate, Plic.perform, EnablesSources, word_update p (by decide)]
    exact h
  · by_cases hreset : call = .reset
    · rw [hreset]
      exact enablesSources_initial
    · exact (p.leaves_perform hupdate hreset).enables h

/-! ## The controller and what it was told -/

variable {s t : Source} {a b : SourceSettings}

lemma Holds.isActive_iff (h : p.Holds s a) : p.IsActive s ↔ a.line = true ∧ a.enabled = true := by
  rw [IsActive, isEnabled_eq, h.line_eq, h.enabled_eq]

lemma Holds.priority (h : p.Holds s a) : p.priority s = a.priority := by
  rw [Plic.priority, s.id_eq_number]
  exact h.priority_eq

lemma Holds.beats_iff (hs : p.Holds s a) (ht : p.Holds t b) :
    p.Beats s t ↔ b.priority < a.priority ∨ (b.priority = a.priority ∧ s.number < t.number) := by
  rw [Beats, hs.priority, ht.priority, s.id_eq_number, t.id_eq_number]

lemma Holds.vector (h : p.Holds s a) : p.vector s = a.vector := by
  rw [Plic.vector, s.id_eq_number]
  exact h.vector_eq

lemma Holds.argument (h : p.Holds s a) : p.argument s = a.argument := by
  rw [Plic.argument, s.id_eq_number]
  exact h.argument_eq

/-- A word of the controller, read from the bus. -/
lemma read_word (p : Plic) {offset : ℕ} (hmapped : isMapped .word offset = true)
    (halign : offset % 4 = 0) (hsize : offset + 4 ≤ size) :
    p.read .word offset = .ok (p.regs.word offset).toNat := by
  rw [read, if_pos hmapped, RegisterBlock.read_word _ halign hsize]

/-- What the bus reads of a source. -/
lemma Holds.reads (h : p.Holds s a) :
    p.read .byte (0x1000 + s.number) = .ok a.priority.toNat
      ∧ p.read .word (0x2000 + 4 * s.number) = .ok a.vector.toNat
      ∧ p.read .word (0x3000 + 4 * s.number) = .ok a.argument.toNat := by
  have hnumber := s.number_lt
  refine ⟨?_, ?_, ?_⟩
  · have hmapped : isMapped .byte (0x1000 + s.number) = true := isMapped_iff.mpr (by omega)
    rw [read, if_pos hmapped, RegisterBlock.read_byte _ (by simp only [size]; omega),
      h.priority_eq]
  · rw [p.read_word (isMapped_iff.mpr (by simp; omega)) (by omega) (by simp only [size]; omega),
      h.vector_eq]
  · rw [p.read_word (isMapped_iff.mpr (by simp; omega)) (by omega) (by simp only [size]; omega),
      h.argument_eq]

/-- **Arbitration and latching.**  The settings of the sources are what the calls to a new
controller have said about them, and the registers and the lines show them.  An update then selects
a source exactly if its line is high and it is enabled and every other source of that kind has a
lower priority, or the same and a higher number; it selects none exactly if there is no such source.
It returns what it selects and latches the vector and the argument of that source, zeros if there is
none, and changes no other byte and no line.  No other call but a reset changes what is selected,
whether there is an interrupt, or what is latched.  The enable word has the bits of the enabled
sources and no others. -/
theorem arbitrates (calls : List PlicCall) :
    let p := Calls.after perform initial calls
    let told := fun s : Source => SourceSettings.after s.number calls
    (∀ s, p.isPending s = (told s).line
        ∧ p.read .byte (0x1000 + s.number) = .ok (told s).priority.toNat
        ∧ p.read .word (0x2000 + 4 * s.number) = .ok (told s).vector.toNat
        ∧ p.read .word (0x3000 + 4 * s.number) = .ok (told s).argument.toNat)
      ∧ (∃ word, p.read .word 0x0000 = .ok word
        ∧ (∀ s, word.testBit s.number = (told s).enabled)
        ∧ ∀ bit, 11 ≤ bit → word.testBit bit = false)
      ∧ (∀ s, p.update.selected = some s ↔
        ((told s).line = true ∧ (told s).enabled = true)
          ∧ ∀ t, t ≠ s → (told t).line = true → (told t).enabled = true →
            (told t).priority < (told s).priority
              ∨ ((told t).priority = (told s).priority ∧ s.number < t.number))
      ∧ (p.update.selected = none ↔
        ∀ s, ¬ ((told s).line = true ∧ (told s).enabled = true))
      ∧ p.perform .update = (.selected p.update.selected, p.update)
      ∧ p.update.read .word 0x0100
          = .ok (p.update.selected.elim 0 fun s => (told s).vector).toNat
      ∧ p.update.read .word 0x0104
          = .ok (p.update.selected.elim 0 fun s => (told s).argument).toNat
      ∧ (∀ offset, offset < 0x100 ∨ 0x108 ≤ offset →
          p.update.regs.byte offset = p.regs.byte offset)
      ∧ p.update.lines = p.lines
      ∧ (∀ call, call ≠ .update → call ≠ .reset →
          let q := (p.perform call).2
          q.selected = p.selected ∧ q.interrupting = p.interrupting
            ∧ q.read .word 0x0100 = p.read .word 0x0100
            ∧ q.read .word 0x0104 = p.read .word 0x0104)
      ∧ p.interrupting = p.selected.isSome := by
  intro p told
  have hholds : ∀ s, p.Holds s (told s) := holds_after calls
  have henables : p.EnablesSources :=
    Calls.after_keeps (fun _ call h => h.perform call) enablesSources_initial calls
  clear_value p told
  have hvector : p.vector = fun s => (told s).vector := funext fun s => (hholds s).vector
  have hargument : p.argument = fun s => (told s).argument := funext fun s => (hholds s).argument
  have hlatched : ∀ (q : Plic) {offset : ℕ}, offset = 0x0100 ∨ offset = 0x0104 →
      q.read .word offset = .ok (q.regs.word offset).toNat := by
    rintro q _ (rfl | rfl) <;> exact q.read_word (by decide) (by decide) (by decide)
  refine ⟨fun s => ⟨(hholds s).line_eq, (hholds s).reads⟩, ?_, ?_, ?_, rfl, ?_, ?_,
    fun offset h => p.byte_update h, p.lines_update, ?_, rfl⟩
  · refine ⟨_, p.read_word (by decide) (by decide) (by decide), fun s => (hholds s).enabled_eq, ?_⟩
    intro bit hbit
    exact Nat.testBit_lt_two_pow
      (lt_of_lt_of_le henables (Nat.pow_le_pow_right (by decide) hbit))
  · intro s
    rw [selected_update, choose_eq_some_iff]
    constructor
    · intro hbest
      refine ⟨(hholds s).isActive_iff.mp hbest.active, fun t hne hline henabled => ?_⟩
      have hactive := (hholds t).isActive_iff.mpr ⟨hline, henabled⟩
      exact ((hholds s).beats_iff (hholds t)).mp (hbest.beats t t.mem_all hne hactive)
    · rintro ⟨hactive, hbeats⟩
      refine ⟨s.mem_all, (hholds s).isActive_iff.mpr hactive, fun t _ hne ht => ?_⟩
      obtain ⟨hline, henabled⟩ := (hholds t).isActive_iff.mp ht
      exact ((hholds s).beats_iff (hholds t)).mpr (hbeats t hne hline henabled)
  · rw [selected_update, choose_eq_none_iff]
    exact forall_congr' fun s => not_congr (hholds s).isActive_iff
  · rw [hlatched _ (.inl rfl), ← hvector, selected_update]
    exact congrArg (fun word => Except.ok (UInt32.toNat word)) p.word_update_vector
  · rw [hlatched _ (.inr rfl), ← hargument, selected_update]
    exact congrArg (fun word => Except.ok (UInt32.toNat word)) p.word_update_argument
  · intro call hupdate hreset
    have hleaves := p.leaves_perform hupdate hreset
    refine ⟨hleaves.selected_eq, ?_, ?_, ?_⟩
    · rw [interrupting, interrupting, hleaves.selected_eq]
    · rw [hlatched _ (.inl rfl), hlatched _ (.inl rfl), hleaves.word_eq (by decide) (by decide)]
    · rw [hlatched _ (.inr rfl), hlatched _ (.inr rfl), hleaves.word_eq (by decide) (by decide)]

/-- Three sources ask.  Two of them have the priority nine, one from a byte and one from a word; the
third has a lower one. -/
def tiedSources : List PlicCall :=
  [.writeWord 0x0000 0xFFFFFFFF, .writeByte 0x1003 9, .writeWord 0x1004 0x05000009,
    .setHandler .timer3 0x80000100 3, .writeWord 0x2010 0x80000200, .writeWord 0x3010 4,
    .setLine .timer3 true, .setLine .spi true, .setLine .uart0 true]

/-- The first of the two is selected; a higher priority selects the other, and when neither of them
asks and is enabled it is the third. -/
theorem arbitrates_tiedSources :
    let p := fun more => Calls.after perform initial (tiedSources ++ more)
    ((p []).update.selected = some .timer3
        ∧ (p []).update.read .word 0x0100 = .ok 0x80000100)
      ∧ ((p [.setPriority .spi 10]).update.selected = some .spi
        ∧ (p [.setPriority .spi 10]).update.read .word 0x0104 = .ok 4)
      ∧ (p [.disable .timer3, .setLine .spi false]).update.selected = some .uart0 := by
  intro p
  obtain ⟨-, -, htied, -, -, hvector, -⟩ := arbitrates (tiedSources ++ [])
  obtain ⟨-, -, hraised, -, -, -, hargument, -⟩ :=
    arbitrates (tiedSources ++ [.setPriority .spi 10])
  obtain ⟨-, -, hlast, -⟩ := arbitrates (tiedSources ++ [.disable .timer3, .setLine .spi false])
  have htimer := (htied .timer3).mpr ⟨by decide, by rintro ⟨⟩ <;> decide⟩
  have hspi := (hraised .spi).mpr ⟨by decide, by rintro ⟨⟩ <;> decide⟩
  have huart := (hlast .uart0).mpr ⟨by decide, by rintro ⟨⟩ <;> decide⟩
  rw [htimer] at hvector
  rw [hspi] at hargument
  exact ⟨⟨htimer, hvector.trans (by decide)⟩, ⟨hspi, hargument.trans (by decide)⟩, huart⟩

end Plic

end SocBench
