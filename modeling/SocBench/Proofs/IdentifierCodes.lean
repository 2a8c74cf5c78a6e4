import Mathlib.Data.Set.Card
import SocBench.Proofs.VcdReader
import SocBench.Text.Blank
import SocBench.Waveform.Vcd

/-!
# Identifier codes are the words over their alphabet

An identifier code is written digit by digit, and between two digits the number that is left is
lowered by one.  Without that step it would be a numeral in base 94, in which `!` is a zero, and
numbers from 94 on would share their codes with others.

With it no word is left over.  `length_idCode_le_iff` says where the codes of at most `k` characters
end, and `exists_idCode_eq` builds the number of a word from its last character to its first.  The
main result is `VcdSink.idCode_enumerates`.
-/

namespace SocBench

/-- A word over the printable characters from `!` to `~`. -/
structure IsIdCode (code : List Char) : Prop where
  ne_nil : code ≠ []
  printable : ∀ c ∈ code, '!' ≤ c ∧ c ≤ '~'

/-! ## Characters -/

lemma printable_idChar (digit : ℕ) : '!' ≤ idChar digit ∧ idChar digit ≤ '~' := by
  have hlt : digit % 94 < 94 := Nat.mod_lt _ (by omega)
  have hnat := toNat_idChar digit
  constructor
  · show 33 ≤ (idChar digit).toNat
    omega
  · show (idChar digit).toNat ≤ 126
    omega

/-- Every printable character is a digit, at any place of the number. -/
lemma idChar_eq {c : Char} (hc : '!' ≤ c ∧ c ≤ '~') (above : ℕ) :
    idChar (c.toNat - 33 + 94 * above) = c := by
  have hlow : 33 ≤ c.toNat := hc.1
  have hhigh : c.toNat ≤ 126 := hc.2
  have hdigit : (c.toNat - 33 + 94 * above) % 94 = c.toNat - 33 := by omega
  rw [← Char.toNat_inj, toNat_idChar, hdigit]
  omega

/-! ## Words -/

lemma isIdCode_idCode (index : ℕ) : IsIdCode (idCode index) := by
  refine ⟨idCode_ne_nil index, ?_⟩
  induction index using Nat.strong_induction_on with
  | _ index ih =>
    rcases idCode_cases index with ⟨-, hcode⟩ | ⟨hge, hcode⟩
    · rw [hcode]
      simpa using printable_idChar index
    · rw [hcode, List.forall_mem_cons]
      exact ⟨printable_idChar index, ih (index / 94 - 1) (by omega)⟩

/-- Every word is a code.  The number of its tail, raised by one, is what stands above its first
digit. -/
lemma exists_idCode_eq {code : List Char} (h : IsIdCode code) : ∃ index, idCode index = code := by
  obtain ⟨hne, hprintable⟩ := h
  induction code with
  | nil => exact absurd rfl hne
  | cons c rest ih =>
    rw [List.forall_mem_cons] at hprintable
    obtain ⟨hc, hrest⟩ := hprintable
    have hlow : 33 ≤ c.toNat := hc.1
    have hhigh : c.toNat ≤ 126 := hc.2
    rcases eq_or_ne rest [] with rfl | hmore
    · refine ⟨c.toNat - 33 + 94 * 0, ?_⟩
      rw [idCode, if_pos (by omega), idChar_eq hc]
    · obtain ⟨above, rfl⟩ := ih hmore hrest
      refine ⟨c.toNat - 33 + 94 * (above + 1), ?_⟩
      have habove : (c.toNat - 33 + 94 * (above + 1)) / 94 - 1 = above := by omega
      rw [idCode, if_neg (by omega), idChar_eq hc, habove]

/-- Numbers and words correspond to each other. -/
lemma bijOn_idCode : Set.BijOn idCode Set.univ {code | IsIdCode code} := by
  refine ⟨?_, idCode_injective.injOn, ?_⟩
  · intro index _
    exact isIdCode_idCode index
  · intro code hcode
    obtain ⟨index, hindex⟩ := exists_idCode_eq hcode
    exact ⟨index, Set.mem_univ index, hindex⟩

/-! ## Lengths -/

/-- How many codes have at most `k` characters. -/
def codesUpTo : ℕ → ℕ
  | 0 => 0
  | k + 1 => 94 * (codesUpTo k + 1)

lemma codesUpTo_succ (k : ℕ) : codesUpTo (k + 1) = codesUpTo k + 94 ^ (k + 1) := by
  induction k with
  | zero => rfl
  | succ k ih =>
    calc codesUpTo (k + 2) = 94 * (codesUpTo (k + 1) + 1) := rfl
      _ = 94 * (codesUpTo k + 1) + 94 * 94 ^ (k + 1) := by rw [ih]; ring
      _ = codesUpTo (k + 1) + 94 ^ (k + 2) := by rw [← pow_succ']; rfl

/-- The codes of at most `k` characters are those of the first numbers. -/
lemma length_idCode_le_iff (index k : ℕ) :
    (idCode index).length ≤ k ↔ index < codesUpTo k := by
  induction k generalizing index with
  | zero => simp [codesUpTo, idCode_ne_nil]
  | succ k ih =>
    rw [codesUpTo]
    rcases idCode_cases index with ⟨hlt, hcode⟩ | ⟨hge, hcode⟩
    · rw [hcode, List.length_singleton]
      omega
    · rw [hcode, List.length_cons, Nat.succ_le_succ_iff, ih]
      omega

lemma length_idCode_eq_iff (index k : ℕ) :
    (idCode index).length = k + 1 ↔ index ∈ Finset.Ico (codesUpTo k) (codesUpTo (k + 1)) := by
  have hshort := length_idCode_le_iff index k
  have hlong := length_idCode_le_iff index (k + 1)
  rw [Finset.mem_Ico]
  omega

/-- There are as many codes of a length as there are words of that length. -/
lemma ncard_codes (k : ℕ) :
    {code | code ∈ Set.range idCode ∧ code.length = k + 1}.ncard = 94 ^ (k + 1) := by
  have himage : {code | code ∈ Set.range idCode ∧ code.length = k + 1}
      = idCode '' (Finset.Ico (codesUpTo k) (codesUpTo (k + 1)) : Set ℕ) := by
    ext code
    constructor
    · rintro ⟨⟨index, rfl⟩, hlength⟩
      exact ⟨index, (length_idCode_eq_iff index k).mp hlength, rfl⟩
    · rintro ⟨index, hindex, rfl⟩
      exact ⟨⟨index, rfl⟩, (length_idCode_eq_iff index k).mpr hindex⟩
  rw [himage, Set.ncard_image_of_injective _ idCode_injective, Set.ncard_coe_finset, Nat.card_Ico,
    codesUpTo_succ, Nat.add_sub_cancel_left]

/-- A longer code is used later. -/
lemma lt_of_length_idCode_lt {i j : ℕ} (h : (idCode i).length < (idCode j).length) : i < j := by
  have hi := (length_idCode_le_iff i (idCode i).length).mp le_rfl
  have hj := mt (length_idCode_le_iff j (idCode i).length).mpr (by omega)
  omega

/-! ## The variables of a header -/

/-- What holds after an attempt and is kept by the next one holds after both, whether or not they
succeed. -/
lemma Attempt.andThen_keeps {α : Type} {P Q : α → Prop} {x : Attempt α} {f : α → Attempt α}
    (hx : P x.2) (hstop : ∀ a, P a → Q a) (hnext : ∀ a, P a → Q (f a).2) : Q (x.andThen f).2 := by
  obtain ⟨result, a⟩ := x
  cases result with
  | ok _ => exact hnext a hx
  | error e => exact hstop a hx

namespace VcdSink

/-- The variables have the codes of the first `count` numbers. -/
def Numbered (count : ℕ) (k : VcdSink) : Prop :=
  k.vars.map VcdVar.code = (List.range count).map fun i => String.ofList (idCode i)

/-- The variables have the codes of the first numbers. -/
def IsNumbered (k : VcdSink) : Prop :=
  ∃ count, k.Numbered count

variable {k : VcdSink} {count : ℕ}

lemma IsNumbered.nodup (h : k.IsNumbered) : (k.vars.map VcdVar.code).Nodup := by
  obtain ⟨count, hcount⟩ := h
  rw [hcount]
  refine List.nodup_range.map ?_
  intro i j hij
  exact idCode_injective (String.ofList_injective hij)

/-- A line of text declares no variable. -/
lemma Numbered.writeLine (h : k.Numbered count) (line : String) :
    (k.writeLine line).2.Numbered count :=
  h

lemma Numbered.writeLines (h : k.Numbered count) (lines : List String) :
    (k.writeLines lines).2.Numbered count := by
  induction lines generalizing k with
  | nil => exact h
  | cons line rest ih =>
    exact Attempt.andThen_keeps (h.writeLine line) (fun _ hk => hk) fun _ hk => ih hk

/-- Variables are declared one by one, up to the first line that cannot be written. -/
lemma Numbered.declare (h : k.Numbered count) (declarations : List (String × ℕ)) :
    (k.declare count declarations).2.IsNumbered := by
  induction declarations generalizing k count with
  | nil => exact ⟨count, h⟩
  | cons declaration rest ih =>
    obtain ⟨name, width⟩ := declaration
    refine Attempt.andThen_keeps (h.writeLine _) (fun _ hk => ⟨count, hk⟩) ?_
    intro k hk
    refine ih ?_
    rw [Numbered] at hk ⊢
    rw [List.map_append, hk, List.range_succ, List.map_append]
    rfl

/-- The variables of a header are numbered from zero on, also if it could not be finished. -/
lemma isNumbered_writeHeader (storage : Storage) (probes : List Probe) :
    (({ storage } : VcdSink).writeHeader probes).2.IsNumbered := by
  have hnew : ({ storage } : VcdSink).Numbered 0 := rfl
  refine Attempt.andThen_keeps (hnew.writeLines preamble) (fun _ hk => ⟨0, hk⟩) ?_
  intro k hk
  refine Attempt.andThen_keeps (hk.declare (declarations probes)) (fun _ hk => hk) ?_
  rintro k ⟨count, hk⟩
  exact ⟨count, Attempt.andThen_keeps (hk.writeLines closing) (fun _ hk => hk) fun _ hk => hk⟩

/-- **Identifier codes.**  Numbers and the words over the 94 printable characters from `!` to `~`
correspond to each other one to one, so the variables of a header have different codes, and no code
has a blank in it.  There are `94 ^ k` codes of every length `k`, and all of them are used before a
longer one. -/
theorem idCode_enumerates :
    Set.BijOn idCode Set.univ {code | IsIdCode code}
      ∧ (∀ storage probes,
          ((({ storage } : VcdSink).writeHeader probes).2.vars.map VcdVar.code).Nodup)
      ∧ (∀ index, ∀ c ∈ idCode index, isBlank c = false)
      ∧ (∀ k, 1 ≤ k → {code | code ∈ Set.range idCode ∧ code.length = k}.ncard = 94 ^ k)
      ∧ ∀ i j, (idCode i).length < (idCode j).length → i < j := by
  refine ⟨bijOn_idCode, ?_, ?_, ?_, ?_⟩
  · intro storage probes
    exact (isNumbered_writeHeader storage probes).nodup
  · intro index c hc
    exact isBlank_of_printable ((isIdCode_idCode index).printable c hc)
  · intro k hk
    obtain ⟨k, rfl⟩ := Nat.exists_eq_succ_of_ne_zero (by omega : k ≠ 0)
    exact ncard_codes k
  · intro i j hlength
    exact lt_of_length_idCode_lt hlength

/-- The last code of one character comes before the first of the 8836 codes of two. -/
theorem idCode_enumerates_pairs :
    idCode 93 = ['~'] ∧ idCode 94 = ['!', '!'] ∧ 93 < 94
      ∧ {code | code ∈ Set.range idCode ∧ code.length = 2}.ncard = 8836 := by
  obtain ⟨-, -, -, hcount, horder⟩ := idCode_enumerates
  have hlast : idCode 93 = ['~'] := by
    rw [idCode, if_pos (by decide)]
    decide
  have hfirst : idCode 94 = ['!', '!'] := by
    rw [idCode, if_neg (by decide), idCode, if_pos (by decide)]
    decide
  refine ⟨hlast, hfirst, horder 93 94 ?_, hcount 2 (by decide)⟩
  rw [hlast, hfirst]
  decide

end VcdSink

end SocBench
