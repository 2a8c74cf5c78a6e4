import Mathlib.Data.List.Forall2
import Mathlib.Data.List.TakeWhile
import SocBench.Proofs.WholeDoubles

/-!
# Whole frequencies in text

A whole number of a unit may be written in many ways: the letters of the unit in either case, blanks
around the text and before the unit, and no unit at all for hertz.  `Frequency.Written` holds one
such text, and every one below `2 ^ 53` hertz is read as exactly the frequency that it denotes, the
same that the bare number gives (`Frequency.read_written`).  The blanks, the letters of the units
and their hertz are written out here, apart from the tables that the reader uses.

The text passes through four functions, and each has its lemma here: trimming (`trimBlanks_append`),
lower case (`map_lowerChar_of_cases`), the split before the unit (`splitUnit_append`), and the
numeral as a double (`Binary64.exists_read?_toDigits`).  Their arithmetic is that of
`Binary64.IsNat`.
-/

namespace SocBench

/-! ## Blanks -/

/-- The characters with the Unicode property `White_Space`. -/
def whiteSpace : List Char :=
  ['\t', '\n', '\u000b', '\u000c', '\r', ' ', '\u0085', '\u00a0', '\u1680', '\u2000', '\u2001',
   '\u2002', '\u2003', '\u2004', '\u2005', '\u2006', '\u2007', '\u2008', '\u2009', '\u200a',
   '\u2028', '\u2029', '\u202f', '\u205f', '\u3000']

/-- The ranges of the table hold these characters and no others. -/
lemma isBlank_iff {c : Char} : isBlank c = true ↔ c ∈ whiteSpace := by
  have hcodes : whiteSpace.map Char.toNat = [0x09, 0x0A, 0x0B, 0x0C, 0x0D, 0x20, 0x85, 0xA0, 0x1680,
      0x2000, 0x2001, 0x2002, 0x2003, 0x2004, 0x2005, 0x2006, 0x2007, 0x2008, 0x2009, 0x200A,
      0x2028, 0x2029, 0x202F, 0x205F, 0x3000] := rfl
  have hinjective : Function.Injective Char.toNat := fun _ _ h => Char.toNat_inj.mp h
  rw [← List.mem_map_of_injective hinjective, hcodes]
  simp only [isBlank, blankRanges, List.any_cons, List.any_nil, Bool.or_false, Bool.or_eq_true,
    Bool.and_eq_true, decide_eq_true_eq, List.mem_cons, List.not_mem_nil, or_false]
  omega

/-! ## Characters of a numeral -/

lemma toNat_of_isDigit {c : Char} (hc : c.isDigit = true) : 48 ≤ c.toNat ∧ c.toNat ≤ 57 := by
  simpa [Char.isDigit, UInt32.le_iff_toNat_le] using hc

lemma isDigit_of_mem_decimal {n : ℕ} {c : Char} (hc : c ∈ Nat.toDigits 10 n) : c.isDigit = true :=
  Nat.isDigit_of_mem_toDigits (by decide) (by decide) hc

lemma isBlank_of_mem_decimal {n : ℕ} {c : Char} (hc : c ∈ Nat.toDigits 10 n) :
    isBlank c = false := by
  obtain ⟨hlow, hhigh⟩ := toNat_of_isDigit (isDigit_of_mem_decimal hc)
  refine isBlank_of_printable ⟨?_, ?_⟩
  · show 33 ≤ c.toNat
    omega
  · show c.toNat ≤ 126
    omega

/-- Lower case changes neither digits nor blanks: no capital letter is one. -/
lemma lowerChar_eq_self {c : Char} (hc : c.isDigit = true ∨ isBlank c = true) :
    lowerChar c = c := by
  rw [lowerChar, if_neg]
  rintro ⟨hlow, hhigh⟩
  have hlow : 65 ≤ c.toNat := hlow
  have hhigh : c.toNat ≤ 90 := hhigh
  rcases hc with hdigit | hblank
  · have hdigit := toNat_of_isDigit hdigit
    omega
  · simp only [isBlank, blankRanges, List.any_cons, List.any_nil, Bool.or_false, Bool.or_eq_true,
      Bool.and_eq_true, decide_eq_true_eq] at hblank
    omega

/-- The case that a letter is written in is lost in lower case. -/
lemma map_lowerChar_of_cases {text : List Char} {letters : List (Char × Char)}
    (h : List.Forall₂ (fun c letter => c = letter.1 ∨ c = letter.2) text letters)
    (hcases : letters.all fun letter =>
      lowerChar letter.1 = letter.1 ∧ lowerChar letter.2 = letter.1) :
    text.map lowerChar = letters.map Prod.fst := by
  induction h with
  | nil => rfl
  | @cons c letter text letters hc _ ih =>
    rw [List.all_cons, Bool.and_eq_true, decide_eq_true_eq] at hcases
    obtain ⟨⟨hsmall, hcapital⟩, hrest⟩ := hcases
    have hletter : lowerChar c = letter.1 := by
      rcases hc with rfl | rfl
      · exact hsmall
      · exact hcapital
    rw [List.map_cons, List.map_cons, hletter, ih hrest]

lemma map_lowerChar_eq_self {cs : List Char} (h : ∀ c ∈ cs, c.isDigit = true ∨ isBlank c = true) :
    cs.map lowerChar = cs :=
  (List.map_congr_left fun c hc => lowerChar_eq_self (h c hc)).trans (List.map_id' cs)

/-! ## Trimming -/

lemma dropWhile_of_head {p : Char → Bool} {core : List Char} (rest : List Char) (hne : core ≠ [])
    (h : ∀ c ∈ core.head?, p c = false) : (core ++ rest).dropWhile p = core ++ rest := by
  cases core with
  | nil => exact absurd rfl hne
  | cons c core =>
    have hc : p c = false := h c rfl
    exact List.dropWhile_cons_of_neg (by simp [hc])

lemma trimBlanks_append {before core after : List Char} (hbefore : ∀ c ∈ before, isBlank c = true)
    (hafter : ∀ c ∈ after, isBlank c = true) (hne : core ≠ [])
    (hfirst : ∀ c ∈ core.head?, isBlank c = false)
    (hlast : ∀ c ∈ core.getLast?, isBlank c = false) :
    trimBlanks (before ++ core ++ after) = core := by
  have hreverse : ∀ c ∈ core.reverse.head?, isBlank c = false := by
    rwa [List.head?_reverse]
  rw [trimBlanks, List.append_assoc, List.dropWhile_append_of_pos hbefore,
    dropWhile_of_head after hne hfirst, List.reverse_append,
    List.dropWhile_append_of_pos (by simpa using hafter)]
  have hkept := dropWhile_of_head [] (List.reverse_ne_nil_iff.mpr hne) hreverse
  rw [List.append_nil] at hkept
  rw [hkept, List.reverse_reverse]

lemma trimBlanks_decimal {before after : List Char} (hbefore : ∀ c ∈ before, isBlank c = true)
    (hafter : ∀ c ∈ after, isBlank c = true) (n : ℕ) :
    trimBlanks (before ++ Nat.toDigits 10 n ++ after) = Nat.toDigits 10 n :=
  trimBlanks_append hbefore hafter Nat.toDigits_ne_nil
    (fun _ hc => isBlank_of_mem_decimal (List.mem_of_mem_head? hc))
    (fun _ hc => isBlank_of_mem_decimal (List.mem_of_mem_getLast? hc))

/-! ## The numeral -/

namespace Binary64

section Digits

variable {digits : List Char} (hne : digits ≠ []) (hdigits : ∀ c ∈ digits, c.isDigit = true)

include hdigits in
lemma splitSign_of_digits : splitSign digits = (false, digits) := by
  unfold splitSign
  split
  · exact absurd (hdigits '-' (by simp)) (by decide)
  · exact absurd (hdigits '+' (by simp)) (by decide)
  · rfl

include hdigits in
/-- Digits are none of the words `inf`, `infinity` and `nan`. -/
lemma read?_of_digits : read? digits = readMagnitude? false digits := by
  have hsame : digits.map lowerChar = digits :=
    map_lowerChar_eq_self fun c hc => .inl (hdigits c hc)
  have hword (c : Char) (rest : List Char) (hc : c.isDigit = false) :
      String.ofList digits ≠ String.ofList (c :: rest) := by
    intro heq
    have hmem : c ∈ digits := by
      rw [String.ofList_injective heq]
      exact List.mem_cons_self
    rw [hdigits c hmem] at hc
    exact absurd hc (by decide)
  simp only [read?, splitSign_of_digits hdigits, hsame]
  split
  next heq => exact absurd heq (hword 'i' ['n', 'f'] (by decide))
  next heq => exact absurd heq (hword 'i' ['n', 'f', 'i', 'n', 'i', 't', 'y'] (by decide))
  next heq => exact absurd heq (hword 'n' ['a', 'n'] (by decide))
  next => rfl

include hne hdigits in
lemma readMagnitude?_of_digits :
    readMagnitude? false digits = some (ofDecimal false (digitsValue digits) 0) := by
  have htake : digits.takeWhile Char.isDigit = digits := List.takeWhile_eq_self_iff.mpr hdigits
  have hdrop : digits.dropWhile Char.isDigit = [] := List.dropWhile_eq_nil_iff.mpr hdigits
  simp [readMagnitude?, htake, hdrop, hne, readExponent?]

end Digits

/-- The digits of a number below `2 ^ 53` are read as a double of its value. -/
lemma exists_read?_toDigits {n : ℕ} (hn : n < 2 ^ 53) :
    ∃ x, read? (Nat.toDigits 10 n) = some x ∧ x.IsNat n := by
  have hdigits : ∀ c ∈ Nat.toDigits 10 n, c.isDigit = true :=
    fun _ hc => isDigit_of_mem_decimal hc
  have hvalue : digitsValue (Nat.toDigits 10 n) = n :=
    Nat.ofDigitChars_toDigits (by decide) (by decide)
  refine ⟨ofDecimal false n 0, ?_, isNat_ofDecimal hn⟩
  rw [read?_of_digits hdigits,
    readMagnitude?_of_digits Nat.toDigits_ne_nil hdigits, hvalue]

end Binary64

/-! ## The unit -/

namespace Frequency

lemma stripSuffix?_append (text suffix : List Char) :
    stripSuffix? suffix (text ++ suffix) = some text := by
  have h : suffix.isSuffixOf (text ++ suffix) = true :=
    List.isSuffixOf_iff_suffix.mpr (List.suffix_append text suffix)
  simp [stripSuffix?, h]

/-- A suffix that differs from the text in one character, counted from the end, is none of it. -/
lemma stripSuffix?_of_ne {a b : Char} (hne : a ≠ b) (front text tail : List Char) :
    stripSuffix? (front ++ a :: tail) (text ++ b :: tail) = none := by
  have h : ¬ (front ++ a :: tail) <:+ (text ++ b :: tail) := by
    rintro ⟨start, heq⟩
    rw [← List.append_assoc] at heq
    have hlength : (a :: tail).length = (b :: tail).length := by simp
    exact hne (List.cons.inj (List.append_inj_right' heq hlength)).1
  simp [stripSuffix?, h]

/-- The letters of a unit, each small and capital, and no letter where there is no unit. -/
def unitLetters : Option FrequencyUnit → List (Char × Char)
  | none => []
  | some .hz => [('h', 'H'), ('z', 'Z')]
  | some .khz => [('k', 'K'), ('h', 'H'), ('z', 'Z')]
  | some .mhz => [('m', 'M'), ('h', 'H'), ('z', 'Z')]
  | some .ghz => [('g', 'G'), ('h', 'H'), ('z', 'Z')]

/-- How many hertz a unit is; no unit means hertz. -/
def unitHertz : Option FrequencyUnit → ℕ
  | none => 1
  | some .hz => 1
  | some .khz => 10 ^ 3
  | some .mhz => 10 ^ 6
  | some .ghz => 10 ^ 9

lemma scale_eq_unitHertz (unit : Option FrequencyUnit) :
    (unit.getD .hz).scale = unitHertz unit := by
  rcases unit with _ | _ | _ | _ | _ <;> rfl

/-- The unit is found whichever it is: `hz` ends them all, but the character before it, a letter of
the longer symbol or the last one of the numeral, tells them apart. -/
lemma splitUnit_append {numeral : List Char} (hne : numeral ≠ [])
    (h : ∀ c ∈ numeral, c.isDigit = true ∨ isBlank c = true) (unit : Option FrequencyUnit) :
    splitUnit (numeral ++ (unitLetters unit).map Prod.fst) = (numeral, unit.getD .hz) := by
  obtain ⟨init, c, rfl⟩ := (List.eq_nil_or_concat numeral).resolve_left hne
  have hletter {a : Char} (ha : ¬ (a.isDigit = true ∨ isBlank a = true)) : c ≠ a := by
    rintro rfl
    exact ha (h c (by simp))
  have hg : c ≠ 'g' := hletter (by decide)
  have hm : c ≠ 'm' := hletter (by decide)
  have hk : c ≠ 'k' := hletter (by decide)
  have hz : c ≠ 'z' := hletter (by decide)
  have hghz : FrequencyUnit.ghz.symbol.toList.map lowerChar = ['g', 'h', 'z'] := by decide
  have hmhz : FrequencyUnit.mhz.symbol.toList.map lowerChar = ['m', 'h', 'z'] := by decide
  have hkhz : FrequencyUnit.khz.symbol.toList.map lowerChar = ['k', 'h', 'z'] := by decide
  have hhz : FrequencyUnit.hz.symbol.toList.map lowerChar = ['h', 'z'] := by decide
  have hstrip := stripSuffix?_append (init ++ [c])
  have hother {a b : Char} (hab : a ≠ b) (text : List Char) :
      stripSuffix? [a, 'h', 'z'] (text ++ [b, 'h', 'z']) = none :=
    stripSuffix?_of_ne hab [] text ['h', 'z']
  simp only [splitUnit, List.findSome?_cons, List.findSome?_nil, hghz, hmhz, hkhz, hhz]
  rcases unit with _ | _ | _ | _ | _
  case none =>
    have hshort : stripSuffix? ['h', 'z'] (init ++ [c]) = none :=
      stripSuffix?_of_ne (Ne.symm hz) ['h'] init []
    have hlong (a : Char) : stripSuffix? [a, 'h', 'z'] (init ++ [c]) = none :=
      stripSuffix?_of_ne (Ne.symm hz) [a, 'h'] init []
    simp [unitLetters, hshort, hlong]
  case some.hz =>
    have hlong {a : Char} (ha : c ≠ a) :
        stripSuffix? [a, 'h', 'z'] (init ++ [c] ++ ['h', 'z']) = none := by
      rw [List.append_assoc]
      exact hother (Ne.symm ha) init
    simp [unitLetters, -List.append_assoc, hlong hg, hlong hm, hlong hk, hstrip]
  case some.khz => simp [unitLetters, -List.append_assoc, hother, hstrip]
  case some.mhz => simp [unitLetters, -List.append_assoc, hother, hstrip]
  case some.ghz => simp [unitLetters, -List.append_assoc, hstrip]

/-! ## Written frequencies -/

/-- How a unit may be spelled: every letter small or capital. -/
def IsSpelling (spelling : List Char) (unit : Option FrequencyUnit) : Prop :=
  List.Forall₂ (fun c letter => c = letter.1 ∨ c = letter.2) spelling (unitLetters unit)

/-- A whole number of a unit as a text: its decimal digits and the unit, with blanks around the two
and between them. -/
structure Written where
  count : ℕ
  unit : Option FrequencyUnit
  spelling : List Char
  before : List Char
  between : List Char
  after : List Char
  spelled : IsSpelling spelling unit
  blank_before : ∀ c ∈ before, c ∈ whiteSpace
  blank_between : ∀ c ∈ between, c ∈ whiteSpace
  blank_after : ∀ c ∈ after, c ∈ whiteSpace

namespace Written

variable (w : Written)

/-- The text itself. -/
def text : String :=
  String.ofList (w.before ++ (toString w.count).toList ++ w.between ++ w.spelling ++ w.after)

/-- The frequency that the text denotes, in hertz. -/
def hertz : ℕ :=
  w.count * unitHertz w.unit

lemma map_lowerChar_spelling : w.spelling.map lowerChar = (unitLetters w.unit).map Prod.fst := by
  refine map_lowerChar_of_cases w.spelled ?_
  rcases w.unit with _ | _ | _ | _ | _ <;> decide

/-- A blank stays itself in lower case, and no unit has a blank. -/
lemma isBlank_of_mem_spelling {c : Char} (hc : c ∈ w.spelling) : isBlank c = false := by
  have hletters : ((unitLetters w.unit).map Prod.fst).any isBlank = false := by
    rcases w.unit with _ | _ | _ | _ | _ <;> decide
  have hmem : lowerChar c ∈ (unitLetters w.unit).map Prod.fst := by
    rw [← w.map_lowerChar_spelling]
    exact List.mem_map_of_mem hc
  by_contra hblank
  rw [Bool.not_eq_false] at hblank
  rw [lowerChar_eq_self (.inr hblank)] at hmem
  exact absurd (List.any_eq_true.mpr ⟨c, hmem, hblank⟩) (by simp [hletters])

/-- The blanks before the unit stay with the numeral; without a unit they go with the blanks at the
end. -/
lemma exists_trimBlanks : ∃ gap, (∀ c ∈ gap, isBlank c = true) ∧
    trimBlanks w.text.toList = Nat.toDigits 10 w.count ++ gap ++ w.spelling := by
  have hne : Nat.toDigits 10 w.count ≠ [] := Nat.toDigits_ne_nil
  have hbefore : ∀ c ∈ w.before, isBlank c = true :=
    fun c hc => isBlank_iff.mpr (w.blank_before c hc)
  have hbetween : ∀ c ∈ w.between, isBlank c = true :=
    fun c hc => isBlank_iff.mpr (w.blank_between c hc)
  have hafter : ∀ c ∈ w.after, isBlank c = true := fun c hc => isBlank_iff.mpr (w.blank_after c hc)
  have htext : w.text.toList
      = w.before ++ Nat.toDigits 10 w.count ++ w.between ++ w.spelling ++ w.after := by
    rw [text, String.toList_ofList, Nat.toString_eq_repr, Nat.toList_repr]
  -- the last character that stays is the unit's if there is one, and a digit if there is none
  rcases List.eq_nil_or_concat w.spelling with hspelling | ⟨init, last, hspelling⟩
  · refine ⟨[], by simp, ?_⟩
    have hend : ∀ c ∈ w.between ++ w.after, isBlank c = true := by
      intro c hc
      rcases List.mem_append.mp hc with hc | hc
      · exact hbetween c hc
      · exact hafter c hc
    rw [htext, hspelling, List.append_nil, List.append_nil, List.append_nil, List.append_assoc]
    exact trimBlanks_decimal hbefore hend w.count
  · refine ⟨w.between, hbetween, ?_⟩
    have hcore : w.text.toList
        = w.before ++ (Nat.toDigits 10 w.count ++ w.between ++ w.spelling) ++ w.after := by
      rw [htext]
      simp only [List.append_assoc]
    rw [hcore]
    refine trimBlanks_append hbefore hafter (by simp [hne]) (fun c hc => ?_)
      (fun c hc => ?_)
    · rw [List.append_assoc, List.head?_append_of_ne_nil _ hne] at hc
      exact isBlank_of_mem_decimal (List.mem_of_mem_head? hc)
    · rw [List.getLast?_append_of_ne_nil _ (by simp [hspelling])] at hc
      exact w.isBlank_of_mem_spelling (List.mem_of_mem_getLast? hc)

/-- Trimmed and in lower case, the text falls into its numeral and its unit. -/
lemma exists_splitUnit : ∃ gap, (∀ c ∈ gap, isBlank c = true) ∧
    splitUnit ((trimBlanks w.text.toList).map lowerChar)
      = (Nat.toDigits 10 w.count ++ gap, w.unit.getD .hz) := by
  obtain ⟨gap, hgap, htrim⟩ := w.exists_trimBlanks
  refine ⟨gap, hgap, ?_⟩
  have hplain : ∀ c ∈ Nat.toDigits 10 w.count ++ gap, c.isDigit = true ∨ isBlank c = true := by
    intro c hc
    rcases List.mem_append.mp hc with hc | hc
    · exact .inl (isDigit_of_mem_decimal hc)
    · exact .inr (hgap c hc)
  rw [htrim, List.map_append, map_lowerChar_eq_self hplain, w.map_lowerChar_spelling]
  exact splitUnit_append (by simp) hplain w.unit

lemma ofNumeral?_eq (h : w.hertz < 2 ^ 53) {gap : List Char} (hgap : ∀ c ∈ gap, isBlank c = true) :
    ofNumeral? (Nat.toDigits 10 w.count ++ gap) (w.unit.getD .hz)
      = some ⟨UInt64.ofNat w.hertz⟩ := by
  have htrim : trimBlanks ([] ++ Nat.toDigits 10 w.count ++ gap) = Nat.toDigits 10 w.count :=
    trimBlanks_decimal (by simp) hgap w.count
  rw [List.nil_append] at htrim
  have hscale : 1 ≤ unitHertz w.unit ∧ unitHertz w.unit < 2 ^ 53 := by
    rcases w.unit with _ | _ | _ | _ | _ <;> decide
  -- the numeral itself is exact because its unit only makes it larger
  have hcount : w.count < 2 ^ 53 := (Nat.le_mul_of_pos_right _ hscale.1).trans_lt h
  obtain ⟨x, hread, hx⟩ := Binary64.exists_read?_toDigits hcount
  have hproduct := hx.mul (Binary64.isNat_ofNat hscale.2) h
  simp only [ofNumeral?, htrim, hread, scale_eq_unitHertz]
  exact hproduct.ofBinary64? (h.trans (by decide))

end Written

/-- **A whole frequency below `2 ^ 53` hertz is read without an error.**  However the text is
spelled and spaced, reading it gives exactly the hertz that it denotes, and in a document the text
and the bare number of hertz are the same frequency. -/
theorem read_written (w : Written) (h : w.hertz < 2 ^ 53) :
    ∃ f : Frequency, f.hz.toNat = w.hertz ∧ read w.text = .ok f
      ∧ ofShape (.text w.text) = .ok f ∧ ofShape (.integer w.hertz) = .ok f := by
  obtain ⟨gap, hgap, hsplit⟩ := w.exists_splitUnit
  have hread : read w.text = .ok ⟨UInt64.ofNat w.hertz⟩ := by
    unfold read
    simp only [hsplit, w.ofNumeral?_eq h hgap]
  refine ⟨⟨UInt64.ofNat w.hertz⟩, ?_, hread, ?_, ?_⟩
  · exact UInt64.toNat_ofNat_of_lt' (h.trans (by decide))
  · unfold ofShape
    simp only [hread]
  · unfold ofShape
    simp only [Int.natCast_nonneg, if_true, Int.toNat_natCast]

/-- A number and its unit between an ideographic space and a line break, with a no-break space
before the unit. -/
def spaced (count : ℕ) {unit : Option FrequencyUnit} {spelling : List Char}
    (spelled : IsSpelling spelling unit) : Written where
  count := count
  unit := unit
  spelling := spelling
  before := ['\u3000']
  between := ['\u00a0']
  after := ['\n']
  spelled := spelled
  blank_before := List.forall_mem_singleton.mpr (by decide)
  blank_between := List.forall_mem_singleton.mpr (by decide)
  blank_after := List.forall_mem_singleton.mpr (by decide)

/-- The largest whole number of each unit below `2 ^ 53` hertz, the units in mixed case. -/
theorem read_largest_of_each_unit :
    (∃ f : Frequency, f.hz.toNat = 9007199254740991
      ∧ read "\u30009007199254740991\u00a0\n" = .ok f ∧ ofShape (.integer 9007199254740991) = .ok f)
    ∧ (∃ f : Frequency, f.hz.toNat = 9007199254740991
      ∧ read "\u30009007199254740991\u00a0hZ\n" = .ok f
      ∧ ofShape (.integer 9007199254740991) = .ok f)
    ∧ (∃ f : Frequency, f.hz.toNat = 9007199254740000
      ∧ read "\u30009007199254740\u00a0kHZ\n" = .ok f ∧ ofShape (.integer 9007199254740000) = .ok f)
    ∧ (∃ f : Frequency, f.hz.toNat = 9007199254000000
      ∧ read "\u30009007199254\u00a0Mhz\n" = .ok f ∧ ofShape (.integer 9007199254000000) = .ok f)
    ∧ ∃ f : Frequency, f.hz.toNat = 9007199000000000
      ∧ read "\u30009007199\u00a0gHz\n" = .ok f ∧ ofShape (.integer 9007199000000000) = .ok f := by
  have hread (count hertz : ℕ) {unit : Option FrequencyUnit} {spelling : List Char} {text : String}
      (spelled : IsSpelling spelling unit) (hhertz : count * unitHertz unit = hertz)
      (hsmall : hertz < 2 ^ 53)
      (htext : String.ofList
        (['\u3000'] ++ (toString count).toList ++ ['\u00a0'] ++ spelling ++ ['\n']) = text) :
      ∃ f : Frequency, f.hz.toNat = hertz ∧ read text = .ok f
        ∧ ofShape (.integer hertz) = .ok f := by
    subst hhertz htext
    obtain ⟨f, hhz, hread, -, hbare⟩ := read_written (spaced count spelled) hsmall
    exact ⟨f, hhz, hread, hbare⟩
  have hhz : IsSpelling ['h', 'Z'] (some .hz) := .cons (.inl rfl) (.cons (.inr rfl) .nil)
  have hkhz : IsSpelling ['k', 'H', 'Z'] (some .khz) :=
    .cons (.inl rfl) (.cons (.inr rfl) (.cons (.inr rfl) .nil))
  have hmhz : IsSpelling ['M', 'h', 'z'] (some .mhz) :=
    .cons (.inr rfl) (.cons (.inl rfl) (.cons (.inl rfl) .nil))
  have hghz : IsSpelling ['g', 'H', 'z'] (some .ghz) :=
    .cons (.inl rfl) (.cons (.inr rfl) (.cons (.inl rfl) .nil))
  have hbare : IsSpelling [] none := .nil
  refine ⟨hread 9007199254740991 9007199254740991 hbare ?_ ?_ ?_,
    hread 9007199254740991 9007199254740991 hhz ?_ ?_ ?_,
    hread 9007199254740 9007199254740000 hkhz ?_ ?_ ?_,
    hread 9007199254 9007199254000000 hmhz ?_ ?_ ?_,
    hread 9007199 9007199000000000 hghz ?_ ?_ ?_⟩
  all_goals decide +kernel

end Frequency

end SocBench
