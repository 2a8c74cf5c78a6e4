import Mathlib.Tactic
import SocBench.Waveform.IdCode

/-!
# Reading value change dumps

A reader for the files that a writer of value change dumps should produce.  It knows nothing of the
writer: a file is a sequence of lines, a line is a sequence of words, the header declares variables
by name, width and identifier code, and every line after it starts a sample, gives a variable of the
current sample a value, or is a mark without meaning.  Whatever does not fit is refused.

The lemmas say how the reader takes a text apart, and that identifier codes are words and tell the
variables apart.
-/

namespace SocBench

/-! ## The reader -/

/-- A declared variable. -/
structure VcdDeclaration where
  name : String
  width : ℕ
  code : List Char
  deriving DecidableEq

/-- A sample: its tick, the variables for which there is a value in it, in order, and the values
that all variables have then, if they have got any yet. -/
structure VcdSample where
  tick : ℕ
  changed : List ℕ
  values : List (Option ℕ)
  deriving DecidableEq

/-- What a file says. -/
structure VcdFile where
  declarations : List VcdDeclaration
  samples : List VcdSample
  deriving DecidableEq

/-- The meaning of a line after the header. -/
inductive VcdLine where
  | mark
  | tick (number : ℕ)
  | value (isBit : Bool) (code : List Char) (value : ℕ)
  deriving DecidableEq

/-- The words of a line. -/
def wordsOf (line : List Char) : List (List Char) :=
  (line.splitOnP Char.isWhitespace).filter (!·.isEmpty)

/-- Reads a number from its digits. -/
def readNumber (base : ℕ) (digits : List Char) : Option ℕ :=
  if !digits.isEmpty && digits.all (fun c => c.isDigit && c.toNat < '0'.toNat + base) then
    some (Nat.ofDigitChars base digits 0)
  else none

namespace VcdFile

/-- Reads a declaration from the words of its line. -/
def readDeclaration : List (List Char) → Option VcdDeclaration
  | [_, _, width, code, name, last] =>
    if last = "$end".toList then
      (readNumber 10 width).map fun width => ⟨String.ofList name, width, code⟩
    else none
  | _ => none

/-- Reads the declarations of a header, up to its end, and gives the lines after it. -/
def readHeader : List (List Char) → Option (List VcdDeclaration × List (List Char))
  | [] => none
  | line :: rest =>
    if wordsOf line = ["$enddefinitions".toList, "$end".toList] then some ([], rest)
    else if (wordsOf line).head? = some "$var".toList then do
      let declaration ← readDeclaration (wordsOf line)
      let (declarations, body) ← readHeader rest
      some (declaration :: declarations, body)
    else readHeader rest

/-- Reads a value in binary and the code of its variable. -/
def readVector (rest : List Char) : Option VcdLine :=
  match wordsOf rest with
  | [digits, code] => (readNumber 2 digits).map (.value false code)
  | _ => none

/-- Reads a line after the header. -/
def readLine : List Char → Option VcdLine
  | [] => some .mark
  | '#' :: digits => (readNumber 10 digits).map .tick
  | '0' :: code => some (.value true code 0)
  | '1' :: code => some (.value true code 1)
  | 'b' :: rest => readVector rest
  | line => if line = "$dumpvars".toList ∨ line = "$end".toList then some .mark else none

/-- Does what a line says, to the samples so far, newest first. -/
def replay (declarations : List VcdDeclaration) (samples : List VcdSample) :
    VcdLine → Option (List VcdSample)
  | .mark => some samples
  | .tick number =>
    let values := samples.head?.elim (declarations.map fun _ => none) VcdSample.values
    some (⟨number, [], values⟩ :: samples)
  | .value isBit code value =>
    match samples, declarations.findIdx? (·.code = code) with
    | sample :: older, some i =>
      if declarations[i]?.any fun d => (isBit = decide (d.width = 1)) ∧ value < 2 ^ d.width then
        some (⟨sample.tick, sample.changed ++ [i], sample.values.set i (some value)⟩ :: older)
      else none
    | _, _ => none

/-- Reads the lines after the header. -/
def readBody (declarations : List VcdDeclaration) (samples : List VcdSample)
    (lines : List (List Char)) : Option (List VcdSample) :=
  lines.foldlM (fun samples line => (readLine line).bind (replay declarations samples)) samples

@[simp] lemma readBody_nil (declarations : List VcdDeclaration) (samples : List VcdSample) :
    readBody declarations samples [] = some samples :=
  rfl

lemma readBody_cons (declarations : List VcdDeclaration) (samples : List VcdSample)
    (line : List Char) (lines : List (List Char)) :
    readBody declarations samples (line :: lines)
      = ((readLine line).bind (replay declarations samples)).bind
          (readBody declarations · lines) :=
  List.foldlM_cons ..

lemma readBody_append (declarations : List VcdDeclaration) (samples : List VcdSample)
    (lines more : List (List Char)) :
    readBody declarations samples (lines ++ more)
      = (readBody declarations samples lines).bind (readBody declarations · more) :=
  List.foldlM_append ..

/-- Reads a file. -/
def read (text : String) : Option VcdFile := do
  let (declarations, body) ← readHeader (text.toList.splitOn '\n')
  let samples ← readBody declarations [] body
  some ⟨declarations, samples.reverse⟩

end VcdFile

/-! ## Lines and words -/

/-- A text made of lines. -/
def unlines (lines : List String) : List Char :=
  lines.flatMap fun line => line.toList ++ ['\n']

@[simp] lemma unlines_append (lines more : List String) :
    unlines (lines ++ more) = unlines lines ++ unlines more :=
  List.flatMap_append

lemma splitOn_unlines {lines : List String} (hlines : ∀ line ∈ lines, '\n' ∉ line.toList) :
    (unlines lines).splitOn '\n' = lines.map String.toList ++ [[]] := by
  induction lines with
  | nil => rfl
  | cons line rest ih =>
    have hline : '\n' ∉ line.toList := hlines line (by simp)
    have hcons : unlines (line :: rest) = line.toList ++ '\n' :: unlines rest := by
      simp [unlines]
    rw [hcons, List.splitOn_append_cons_self_of_not_mem hline,
      ih fun l hl => hlines l (List.mem_cons_of_mem _ hl)]
    rfl

/-- A text that is one word. -/
structure IsWord (word : List Char) : Prop where
  ne_nil : word ≠ []
  noBlank : ∀ c ∈ word, c.isWhitespace = false

instance (word : List Char) : Decidable (IsWord word) :=
  decidable_of_iff ((!word.isEmpty && word.all fun c => !c.isWhitespace) = true) <| by
    simp only [Bool.and_eq_true, Bool.not_eq_true', List.isEmpty_eq_false_iff, List.all_eq_true]
    exact ⟨fun h => ⟨h.1, h.2⟩, fun h => ⟨h.ne_nil, h.noBlank⟩⟩

namespace IsWord

variable {word : List Char}

lemma newline_notMem (h : IsWord word) : '\n' ∉ word := by
  intro hmem
  exact absurd (h.noBlank _ hmem) (by decide)

lemma wordsOf_self (h : IsWord word) : wordsOf word = [word] := by
  simp [wordsOf, List.splitOnP_eq_singleton h.noBlank, h.ne_nil]

lemma wordsOf_append (h : IsWord word) (rest : List Char) :
    wordsOf (word ++ ' ' :: rest) = word :: wordsOf rest := by
  rw [wordsOf, List.splitOnP_append_cons_of_forall_mem h.noBlank ' ' (by decide),
    List.filter_cons_of_pos (by simpa using h.ne_nil), wordsOf]

end IsWord

/-! ## Numbers -/

lemma mem_toDigits {base n : ℕ} (hbase : 1 < base) {c : Char} (hc : c ∈ Nat.toDigits base n) :
    ∃ d < base, c = d.digitChar := by
  induction n using Nat.strong_induction_on with
  | _ n ih =>
    rw [Nat.toDigits_eq_if hbase] at hc
    split at hc
    case isTrue hlt => exact ⟨n, hlt, List.mem_singleton.mp hc⟩
    case isFalse hle =>
      rcases List.mem_append.mp hc with hc | hc
      · exact ih (n / base) (Nat.div_lt_self (by omega) hbase) hc
      · exact ⟨n % base, Nat.mod_lt _ (by omega), List.mem_singleton.mp hc⟩

lemma readNumber_toDigits {base : ℕ} (hbase : 1 < base) (hten : base ≤ 10) (n : ℕ) :
    readNumber base (Nat.toDigits base n) = some n := by
  have hdigits : ∀ c ∈ Nat.toDigits base n,
      (c.isDigit && c.toNat < '0'.toNat + base) = true := by
    intro c hc
    obtain ⟨d, hd, rfl⟩ := mem_toDigits hbase hc
    have hdigit : d < 10 := by omega
    rw [Nat.isDigit_digitChar, Nat.toNat_digitChar_of_lt_ten hdigit, Bool.and_eq_true,
      decide_eq_true_eq, decide_eq_true_eq]
    exact ⟨hdigit, Nat.add_lt_add_left hd 48⟩
  have hsome : (Nat.toDigits base n).isEmpty = false := by simp
  rw [readNumber, hsome, List.all_eq_true.mpr hdigits, Nat.ofDigitChars_toDigits hbase hten]
  rfl

lemma isWord_toDigits {base : ℕ} (hbase : 1 < base) (hten : base ≤ 10) (n : ℕ) :
    IsWord (Nat.toDigits base n) := by
  refine ⟨Nat.toDigits_ne_nil, fun c hc => ?_⟩
  obtain ⟨d, hd, rfl⟩ := mem_toDigits hbase hc
  have hdigit : d < 10 := by omega
  interval_cases d <;> rfl

/-! ## Identifier codes -/

lemma toNat_idChar (digit : ℕ) : (idChar digit).toNat = 33 + digit % 94 := by
  have hlt : digit % 94 < 94 := Nat.mod_lt _ (by omega)
  have hvalid : (33 + digit % 94).isValidChar := Or.inl (by omega)
  rw [idChar, Char.ofNat, dif_pos hvalid]
  rfl

/-- The code of a small number is one digit, and that of a larger one goes on. -/
lemma idCode_cases (index : ℕ) :
    index < 94 ∧ idCode index = [idChar index] ∨
      94 ≤ index ∧ idCode index = idChar index :: idCode (index / 94 - 1) := by
  rcases Nat.lt_or_ge index 94 with hlt | hge
  · exact Or.inl ⟨hlt, by rw [idCode, if_pos hlt]⟩
  · exact Or.inr ⟨hge, by rw [idCode, if_neg (by omega)]⟩

lemma idCode_ne_nil (index : ℕ) : idCode index ≠ [] := by
  rcases idCode_cases index with ⟨-, hcode⟩ | ⟨-, hcode⟩ <;> simp [hcode]

lemma isWord_idCode (index : ℕ) : IsWord (idCode index) := by
  have hchar : ∀ digit, (idChar digit).isWhitespace = false := by
    intro digit
    have hne : ∀ c : Char, c.toNat < 33 → idChar digit ≠ c := by
      rintro c hc rfl
      rw [toNat_idChar] at hc
      omega
    simp [Char.isWhitespace, hne ' ' (by decide), hne '\t' (by decide), hne '\r' (by decide),
      hne '\n' (by decide)]
  refine ⟨idCode_ne_nil index, ?_⟩
  induction index using Nat.strong_induction_on with
  | _ index ih =>
    rcases idCode_cases index with ⟨-, hcode⟩ | ⟨hge, hcode⟩
    · rw [hcode]
      simpa using hchar index
    · rw [hcode]
      simpa [hchar] using ih (index / 94 - 1) (by omega)

lemma idCode_injective : Function.Injective idCode := by
  intro i
  induction i using Nat.strong_induction_on with
  | _ i ih =>
    intro j hij
    have hdigit : idChar i = idChar j → i % 94 = j % 94 := by
      intro h
      have hnat := congrArg Char.toNat h
      rw [toNat_idChar, toNat_idChar] at hnat
      omega
    rcases idCode_cases i with ⟨hi, hcode⟩ | ⟨hi, hcode⟩ <;>
      rcases idCode_cases j with ⟨hj, hcode'⟩ | ⟨hj, hcode'⟩ <;>
      rw [hcode, hcode'] at hij
    · have := hdigit (List.cons.inj hij).1
      omega
    · exact absurd (List.cons.inj hij).2.symm (idCode_ne_nil _)
    · exact absurd (List.cons.inj hij).2 (idCode_ne_nil _)
    · have hrest := ih (i / 94 - 1) (by omega) (List.cons.inj hij).2
      have := hdigit (List.cons.inj hij).1
      omega

end SocBench
