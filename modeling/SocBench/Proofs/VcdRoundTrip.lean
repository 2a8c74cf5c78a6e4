import SocBench.Proofs.LoopBoundaries
import SocBench.Proofs.VcdReader
import SocBench.Sample.Counter
import SocBench.Waveform.Vcd

/-!
# Value change dumps can be read back

A writer of value change dumps leaves out every value that is the same as in the sample before, and
it tells variables apart by short codes.  That nothing is lost is shown with the reader of
`VcdFile.read`.  First come the lines that the writer writes, then what the reader makes of each of
them.  The two meet in `VcdSink.Recorded`, which every sample preserves: a reader of the file so far
finds the samples so far, and the writer remembers the values of the last one.

The main result is `VcdSink.read_dumps`.
-/

namespace SocBench

/-! ## What the writer writes -/

lemma Storage.text_of_write {w w' : Storage} {text : String} (h : w.write text = .done w') :
    w'.text = w.text ++ text := by
  rw [write] at h
  split at h
  case h_1 =>
    cases h
    rfl
  case h_2 =>
    split at h
    · cases h
      rfl
    · cases h
  case h_3 =>
    split at h
    · cases h
      rfl
    · cases h

lemma Storage.text_of_flush {w w' : Storage} (h : w.flush = .done w') : w'.text = w.text := by
  rw [flush] at h
  split at h
  case h_1 =>
    cases h
    rfl
  case h_2 =>
    split at h
    · cases h
    · cases h
      rfl
  case h_3 =>
    split at h
    · cases h
      rfl
    · cases h

namespace VcdDeclaration

/-- The line that declares a variable. -/
def line (d : VcdDeclaration) : String :=
  "$var wire " ++ toString d.width ++ " " ++ String.ofList d.code ++ " " ++ d.name ++ " $end"

/-- The variable with the value that was written last. -/
def holding (d : VcdDeclaration) (last : Option ℕ) : VcdVar :=
  ⟨String.ofList d.code, d.width, last⟩

/-- The line that gives a variable a value. -/
def valueLine (d : VcdDeclaration) (value : ℕ) : String :=
  (d.holding none).line value

end VcdDeclaration

/-- The lines for the values that differ from those before. -/
def changeLines : List VcdDeclaration → List (Option ℕ) → List ℕ → List String
  | d :: ds, last :: lasts, value :: values =>
    (if last = some value then [] else [d.valueLine value]) ++ changeLines ds lasts values
  | _, _, _ => []

namespace VcdSink

/-- The declarations of some variables, with codes from `index` on. -/
def declarationsFrom (index : ℕ) (vars : List (String × ℕ)) : List VcdDeclaration :=
  (vars.zipIdx index).map fun (var, i) => ⟨var.1, var.2, idCode i⟩

/-- The lines of a header. -/
def headerLines (ds : List VcdDeclaration) : List String :=
  preamble ++ ds.map VcdDeclaration.line ++ closing

variable {k k' : VcdSink}

lemma writeLine_eq_done {line : String} (h : k.writeLine line = .done k') :
    ∃ storage, k' = { k with storage }
      ∧ storage.text.toList = k.storage.text.toList ++ unlines [line] := by
  obtain ⟨storage, hwrite, rfl⟩ := Attempt.map_eq_done.mp h
  exact ⟨storage, rfl, by simp [Storage.text_of_write hwrite, unlines]⟩

lemma writeLines_eq_done {lines : List String} (h : k.writeLines lines = .done k') :
    ∃ storage, k' = { k with storage }
      ∧ storage.text.toList = k.storage.text.toList ++ unlines lines := by
  induction lines generalizing k with
  | nil =>
    cases h
    exact ⟨k'.storage, rfl, by simp [unlines]⟩
  | cons line rest ih =>
    obtain ⟨next, hline, hrest⟩ := Attempt.andThen_eq_done.mp h
    obtain ⟨storage, rfl, htext⟩ := writeLine_eq_done hline
    obtain ⟨storage', rfl, htext'⟩ := ih hrest
    refine ⟨storage', rfl, ?_⟩
    rw [htext', htext, List.append_assoc, ← unlines_append]
    rfl

lemma declare_eq_done {index : ℕ} {vars : List (String × ℕ)}
    (h : k.declare index vars = .done k') :
    ∃ storage, k' = { k with
        storage, vars := k.vars ++ (declarationsFrom index vars).map (·.holding none) }
      ∧ storage.text.toList = k.storage.text.toList
          ++ unlines ((declarationsFrom index vars).map VcdDeclaration.line) := by
  induction vars generalizing k index with
  | nil =>
    cases h
    exact ⟨k'.storage, by simp [declarationsFrom], by simp [declarationsFrom, unlines]⟩
  | cons var rest ih =>
    obtain ⟨next, hline, hrest⟩ := Attempt.andThen_eq_done.mp h
    obtain ⟨storage, rfl, htext⟩ := writeLine_eq_done hline
    obtain ⟨storage', rfl, htext'⟩ := ih hrest
    have hcons : declarationsFrom index (var :: rest)
        = ⟨var.1, var.2, idCode index⟩ :: declarationsFrom (index + 1) rest := by
      simp [declarationsFrom, List.zipIdx_cons]
    rw [hcons]
    refine ⟨storage', ?_, ?_⟩
    · simp [VcdDeclaration.holding]
    · rw [htext', htext, List.append_assoc, ← unlines_append]
      rfl

lemma writeHeader_eq_done {probes : List Probe} (h : k.writeHeader probes = .done k') :
    let ds := declarationsFrom 0 (declarations probes)
    ∃ storage, k' = ⟨storage, k.vars ++ ds.map (·.holding none), true⟩
      ∧ storage.text.toList = k.storage.text.toList ++ unlines (headerLines ds) := by
  intro ds
  obtain ⟨next, hpreamble, hrest⟩ := Attempt.andThen_eq_done.mp h
  obtain ⟨storage, rfl, htext⟩ := writeLines_eq_done hpreamble
  obtain ⟨next, hdeclare, hrest⟩ := Attempt.andThen_eq_done.mp hrest
  obtain ⟨storage', rfl, htext'⟩ := declare_eq_done hdeclare
  obtain ⟨next, hclosing, hdone⟩ := Attempt.andThen_eq_done.mp hrest
  obtain ⟨storage'', rfl, htext''⟩ := writeLines_eq_done hclosing
  cases hdone
  refine ⟨storage'', rfl, ?_⟩
  rw [htext'', htext', htext, headerLines, unlines_append, unlines_append]
  simp [ds]

/-- Writing the changes of a sample makes the writer remember its values. -/
lemma writeChanges_eq_done {w w' : Storage} {vars : List VcdVar} {ds : List VcdDeclaration}
    {lasts : List (Option ℕ)} {values : List ℕ} (hlasts : lasts.length = ds.length)
    (hvalues : values.length = ds.length)
    (h : writeChanges w (List.zipWith VcdDeclaration.holding ds lasts) values = .done (w', vars)) :
    vars = List.zipWith VcdDeclaration.holding ds (values.map some)
      ∧ w'.text.toList = w.text.toList ++ unlines (changeLines ds lasts values) := by
  induction ds generalizing w w' vars lasts values with
  | nil =>
    obtain rfl := List.eq_nil_of_length_eq_zero hvalues
    cases h
    exact ⟨rfl, by simp [changeLines, unlines]⟩
  | cons d ds ih =>
    obtain ⟨last, lasts, rfl⟩ := List.exists_cons_of_length_eq_add_one hlasts
    obtain ⟨value, values, rfl⟩ := List.exists_cons_of_length_eq_add_one hvalues
    rw [List.zipWith_cons_cons, writeChanges] at h
    split at h
    case isTrue hsame =>
      have hsame : last = some value := hsame
      obtain ⟨⟨w₁, vars₁⟩, hrest, heq⟩ := Attempt.map_eq_done.mp h
      cases heq
      obtain ⟨rfl, htext⟩ := ih (by simpa using hlasts) (by simpa using hvalues) hrest
      refine ⟨by simp [hsame], ?_⟩
      rw [htext, changeLines, if_pos hsame]
      rfl
    case isFalse hdiffers =>
      have hdiffers : ¬ last = some value := hdiffers
      split at h
      case h_1 _ w₀ hwrite =>
        obtain ⟨⟨w₁, vars₁⟩, hrest, heq⟩ := Attempt.map_eq_done.mp h
        cases heq
        obtain ⟨rfl, htext⟩ := ih (by simpa using hlasts) (by simpa using hvalues) hrest
        refine ⟨rfl, ?_⟩
        rw [htext, Storage.text_of_write hwrite, changeLines, if_neg hdiffers, unlines_append]
        simp [unlines, VcdDeclaration.valueLine, VcdDeclaration.holding, VcdVar.line]
      case h_2 => cases h

end VcdSink

/-! ## What the reader makes of a line -/

namespace VcdDeclaration

/-- The code and the name are words, so that a declaration can be taken apart. -/
structure IsReadable (d : VcdDeclaration) : Prop where
  code : IsWord d.code
  name : IsWord d.name.toList

variable {d : VcdDeclaration} {value : ℕ}

lemma toList_line (d : VcdDeclaration) :
    d.line.toList = "$var".toList ++ ' ' :: ("wire".toList ++ ' ' ::
      (Nat.toDigits 10 d.width ++ ' ' :: (d.code ++ ' ' :: (d.name.toList ++ ' ' ::
        "$end".toList)))) := by
  have hkeywords : "$var wire ".toList = "$var".toList ++ ' ' :: ("wire".toList ++ [' ']) := by
    decide
  have hblank : " ".toList = [' '] := by decide
  have hend : " $end".toList = ' ' :: "$end".toList := by decide
  show ("$var wire " ++ toString d.width ++ " " ++ String.ofList d.code ++ " " ++ d.name
    ++ " $end").toList = _
  simp only [String.toList_append, String.toList_ofList, Nat.toString_eq_repr, Nat.toList_repr,
    hkeywords, hblank, hend, List.append_assoc, List.cons_append, List.nil_append]

lemma IsReadable.wordsOf_line (h : d.IsReadable) :
    wordsOf d.line.toList = ["$var".toList, "wire".toList, Nat.toDigits 10 d.width, d.code,
      d.name.toList, "$end".toList] := by
  have hvar : IsWord "$var".toList := by decide
  have hwire : IsWord "wire".toList := by decide
  have hend : IsWord "$end".toList := by decide
  rw [toList_line, hvar.wordsOf_append, hwire.wordsOf_append,
    (isWord_toDigits (by decide) (by decide) d.width).wordsOf_append, h.code.wordsOf_append,
    h.name.wordsOf_append, hend.wordsOf_self]

lemma IsReadable.newline_notMem_line (h : d.IsReadable) : '\n' ∉ d.line.toList := by
  have hwidth : IsWord (Nat.toDigits 10 d.width) := isWord_toDigits (by decide) (by decide) _
  rw [toList_line]
  simp only [List.mem_append, List.mem_cons, not_or]
  exact ⟨by decide, by decide, by decide, by decide, hwidth.newline_notMem, by decide,
    h.code.newline_notMem, by decide, h.name.newline_notMem, by decide, by decide⟩

/-- The line of a bit, and that of a wider value. -/
lemma toList_valueLine (hvalue : value < 2 ^ d.width) :
    (d.valueLine value).toList = if d.width = 1 then Nat.digitChar value :: d.code
      else 'b' :: (Nat.toDigits 2 value ++ ' ' :: d.code) := by
  rw [valueLine, VcdVar.line]
  by_cases hbit : d.width = 1
  · have hlt : value < 2 := by simpa [hbit] using hvalue
    rw [if_pos hbit, if_pos (show (d.holding none).width = 1 from hbit), Nat.mod_eq_of_lt hlt,
      Nat.toString_eq_ofList_toDigits, Nat.toDigits_of_lt_base (by omega)]
    simp [holding]
  · rw [if_neg hbit, if_neg (show ¬ (d.holding none).width = 1 from hbit)]
    simp [holding]

lemma IsReadable.newline_notMem_valueLine (h : d.IsReadable) (hvalue : value < 2 ^ d.width) :
    '\n' ∉ (d.valueLine value).toList := by
  have hdigits : IsWord (Nat.toDigits 2 value) := isWord_toDigits (by decide) (by decide) value
  rw [toList_valueLine hvalue]
  split
  case isTrue hbit =>
    rw [hbit, pow_one] at hvalue
    interval_cases value <;> simp [h.code.newline_notMem]
  case isFalse => simp [h.code.newline_notMem, hdigits.newline_notMem]

/-- The reader finds the value again. -/
lemma IsReadable.readLine_valueLine (h : d.IsReadable) (hvalue : value < 2 ^ d.width) :
    VcdFile.readLine (d.valueLine value).toList
      = some (.value (decide (d.width = 1)) d.code value) := by
  have hdigits : IsWord (Nat.toDigits 2 value) := isWord_toDigits (by decide) (by decide) value
  rw [toList_valueLine hvalue]
  split
  case isTrue hbit =>
    rw [hbit, pow_one] at hvalue
    interval_cases value <;> simp only [hbit, decide_true] <;> rfl
  case isFalse hwide =>
    show VcdFile.readVector _ = _
    rw [VcdFile.readVector, hdigits.wordsOf_append, h.code.wordsOf_self]
    simp [readNumber_toDigits (show 1 < 2 by decide), hwide]

end VcdDeclaration

/-! ## What the reader makes of a sample -/

/-- The numbers of the values, from `i` on, that differ from those before. -/
def differing (i : ℕ) : List (Option ℕ) → List ℕ → List ℕ
  | last :: lasts, value :: values =>
    (if last = some value then [] else [i]) ++ differing (i + 1) lasts values
  | _, _ => []

/-- Each value fits the variable it is for. -/
abbrev ValuesFit (ds : List VcdDeclaration) (values : List ℕ) : Prop :=
  List.Forall₂ (fun d value => value < 2 ^ d.width) ds values

/-- Declarations that a reader can tell apart. -/
structure AreReadable (ds : List VcdDeclaration) : Prop where
  readable : ∀ d ∈ ds, d.IsReadable
  nodup : (ds.map VcdDeclaration.code).Nodup

namespace VcdFile

variable {ds : List VcdDeclaration}

/-- A line with a value changes the sample at the place of its variable. -/
lemma replay_value {before after : List VcdDeclaration} {d : VcdDeclaration}
    (hnodup : ((before ++ d :: after).map VcdDeclaration.code).Nodup) {value : ℕ}
    (hvalue : value < 2 ^ d.width) (sample : VcdSample) (older : List VcdSample) :
    replay (before ++ d :: after) (sample :: older)
        (.value (decide (d.width = 1)) d.code value)
      = some (⟨sample.tick, sample.changed ++ [before.length],
          sample.values.set before.length (some value)⟩ :: older) := by
  have hfind : (before ++ d :: after).findIdx? (·.code = d.code) = some before.length := by
    have hbefore : before.findIdx? (·.code = d.code) = none := by
      rw [List.findIdx?_eq_none_iff]
      intro d' hd'
      rw [List.map_append, List.map_cons, List.nodup_append] at hnodup
      have hne : d'.code ≠ d.code :=
        hnodup.2.2 _ (List.mem_map_of_mem hd') _ List.mem_cons_self
      simpa using hne
    rw [List.findIdx?_append, hbefore, List.findIdx?_cons]
    simp
  simp [replay, hfind, hvalue]

lemma readBody_changeLines (hds : AreReadable ds) {before after : List VcdDeclaration}
    (hsplit : ds = before ++ after) {lasts done : List (Option ℕ)} {values : List ℕ}
    (hlasts : lasts.length = after.length) (hdone : done.length = before.length)
    (hfit : ValuesFit after values) (tick : ℕ) (changed : List ℕ) (older : List VcdSample) :
    readBody ds (⟨tick, changed, done ++ lasts⟩ :: older)
        ((changeLines after lasts values).map String.toList)
      = some (⟨tick, changed ++ differing before.length lasts values, done ++ values.map some⟩
          :: older) := by
  induction hfit generalizing before lasts done changed with
  | nil =>
    obtain rfl := List.eq_nil_of_length_eq_zero hlasts
    simp [changeLines, differing]
  | @cons d value after values hvalue hfit ih =>
    obtain ⟨last, lasts, rfl⟩ := List.exists_cons_of_length_eq_add_one hlasts
    have hlasts : lasts.length = after.length := by simpa using hlasts
    have hnext : ds = (before ++ [d]) ++ after := by simp [hsplit]
    have hlength : (done ++ [some value]).length = (before ++ [d]).length := by simp [hdone]
    have hrest := fun changed => ih hnext hlasts hlength changed
    simp only [List.append_assoc, List.singleton_append, List.length_append,
      List.length_singleton] at hrest
    rw [changeLines, differing]
    split
    case isTrue hsame => simpa [hsame] using hrest changed
    case isFalse =>
      have hreadable : d.IsReadable := hds.readable d (by simp [hsplit])
      rw [List.singleton_append, List.map_cons, readBody_cons,
        hreadable.readLine_valueLine hvalue, Option.bind_some]
      nth_rewrite 1 [hsplit]
      rw [replay_value (hsplit ▸ hds.nodup) hvalue, ← hdone]
      simpa [hdone] using hrest (changed ++ [before.length])

lemma newline_notMem_changeLines {lasts : List (Option ℕ)} {values : List ℕ}
    (hds : ∀ d ∈ ds, d.IsReadable) (hfit : ValuesFit ds values) :
    ∀ line ∈ changeLines ds lasts values, '\n' ∉ line.toList := by
  induction hfit generalizing lasts with
  | nil => simp [changeLines]
  | @cons d value ds values hvalue hfit ih =>
    cases lasts with
    | nil => simp [changeLines]
    | cons last lasts =>
      intro line hline
      rw [changeLines] at hline
      rcases List.mem_append.mp hline with hline | hline
      · split at hline
        · cases hline
        · rw [List.mem_singleton.mp hline]
          exact (hds d (by simp)).newline_notMem_valueLine hvalue
      · exact ih (fun d hd => hds d (by simp [hd])) line hline

lemma toList_toText (tick : Tick) :
    tick.toText.toList = '#' :: Nat.toDigits 10 tick.value.toNat := by
  simp [Tick.toText]

lemma readBody_marks {marks : List String}
    (hmarks : ∀ line ∈ marks, readLine line.toList = some .mark) (samples : List VcdSample) :
    readBody ds samples (marks.map String.toList) = some samples := by
  induction marks with
  | nil => rfl
  | cons mark rest ih =>
    rw [List.map_cons, readBody_cons, hmarks mark (by simp)]
    exact ih fun line hline => hmarks line (by simp [hline])

/-- The lines of a sample, with some marks around its values. -/
def sampleLines (tick : Tick) (opening changes ending : List String) : List String :=
  [tick.toText] ++ opening ++ changes ++ ending

lemma newline_notMem_sampleLines {tick : Tick} {lasts : List (Option ℕ)} {values : List ℕ}
    (hds : ∀ d ∈ ds, d.IsReadable) (hfit : ValuesFit ds values) {opening ending : List String}
    (hopening : ∀ line ∈ opening, '\n' ∉ line.toList)
    (hending : ∀ line ∈ ending, '\n' ∉ line.toList) :
    ∀ line ∈ sampleLines tick opening (changeLines ds lasts values) ending,
      '\n' ∉ line.toList := by
  have hdigits : IsWord (Nat.toDigits 10 tick.value.toNat) :=
    isWord_toDigits (by decide) (by decide) _
  intro line hline
  rw [sampleLines, List.mem_append, List.mem_append, List.mem_append, List.mem_singleton] at hline
  rcases hline with ((rfl | hline) | hline) | hline
  · simp [toList_toText, hdigits.newline_notMem]
  · exact hopening line hline
  · exact newline_notMem_changeLines hds hfit line hline
  · exact hending line hline

lemma readBody_sampleLines (hds : AreReadable ds) {lasts : List (Option ℕ)} {values : List ℕ}
    (hlasts : lasts.length = ds.length) (hfit : ValuesFit ds values) {opening ending : List String}
    (hopening : ∀ line ∈ opening, readLine line.toList = some .mark)
    (hending : ∀ line ∈ ending, readLine line.toList = some .mark) {samples : List VcdSample}
    (hsamples : samples.head?.elim (ds.map fun _ => none) VcdSample.values = lasts) (tick : Tick) :
    readBody ds samples
        ((sampleLines tick opening (changeLines ds lasts values) ending).map String.toList)
      = some (⟨tick.value.toNat, differing 0 lasts values, values.map some⟩ :: samples) := by
  have htick : readBody ds samples ([tick.toText].map String.toList)
      = some (⟨tick.value.toNat, [], lasts⟩ :: samples) := by
    have hline : readLine tick.toText.toList = some (.tick tick.value.toNat) := by
      rw [toList_toText]
      show (readNumber 10 _).map _ = _
      rw [readNumber_toDigits (by decide) (by decide)]
      rfl
    rw [List.map_singleton, readBody_cons, hline, Option.bind_some, replay, hsamples]
    rfl
  have hnone : ([] : List (Option ℕ)).length = ([] : List VcdDeclaration).length := rfl
  have hchanges := readBody_changeLines hds (List.nil_append ds).symm hlasts hnone hfit
    tick.value.toNat [] samples
  rw [sampleLines, List.map_append, List.map_append, List.map_append, readBody_append,
    readBody_append, readBody_append, htick, Option.bind_some, readBody_marks hopening,
    Option.bind_some]
  simp only [List.nil_append, List.length_nil] at hchanges
  rw [hchanges, Option.bind_some, readBody_marks hending]

/-! ## What the reader makes of a header -/

lemma readHeader_skip {lines : List String} (hlines : ∀ line ∈ lines,
      wordsOf line.toList ≠ ["$enddefinitions".toList, "$end".toList]
        ∧ (wordsOf line.toList).head? ≠ some "$var".toList)
    (rest : List (List Char)) :
    readHeader (lines.map String.toList ++ rest) = readHeader rest := by
  induction lines with
  | nil => rfl
  | cons line lines ih =>
    obtain ⟨hend, hvar⟩ := hlines line (by simp)
    rw [List.map_cons, List.cons_append, readHeader, if_neg hend, if_neg hvar]
    exact ih fun line hline => hlines line (by simp [hline])

lemma readHeader_declarations (hds : ∀ d ∈ ds, d.IsReadable) (rest body : List (List Char))
    (hrest : readHeader rest = some ([], body)) :
    readHeader (ds.map (fun d => d.line.toList) ++ rest) = some (ds, body) := by
  induction ds with
  | nil => exact hrest
  | cons d ds ih =>
    have hline := (hds d (by simp)).wordsOf_line
    have hread : readDeclaration (wordsOf d.line.toList) = some d := by
      rw [hline]
      simp [readDeclaration, readNumber_toDigits]
    rw [List.map_cons, List.cons_append, readHeader, if_neg (by simp [hline]),
      if_pos (by simp [hline]), hread, ih fun d hd => hds d (by simp [hd])]
    rfl

lemma readHeader_headerLines (hds : ∀ d ∈ ds, d.IsReadable) (body : List (List Char)) :
    readHeader ((VcdSink.headerLines ds).map String.toList ++ body) = some (ds, body) := by
  have hclosing : readHeader (VcdSink.closing.map String.toList ++ body) = some ([], body) := by
    show readHeader ("$upscope $end".toList :: "$enddefinitions $end".toList :: body) = _
    rw [readHeader, if_neg (by decide), if_neg (by decide), readHeader, if_pos (by decide)]
  rw [VcdSink.headerLines, List.map_append, List.map_append, List.append_assoc, List.append_assoc,
    readHeader_skip (by decide), List.map_map]
  exact readHeader_declarations hds _ _ hclosing

lemma newline_notMem_headerLines (hds : ∀ d ∈ ds, d.IsReadable) :
    ∀ line ∈ VcdSink.headerLines ds, '\n' ∉ line.toList := by
  have hpreamble : ∀ line ∈ VcdSink.preamble, '\n' ∉ line.toList := by decide
  have hclosing : ∀ line ∈ VcdSink.closing, '\n' ∉ line.toList := by decide
  intro line hline
  rw [VcdSink.headerLines, List.mem_append, List.mem_append, List.mem_map] at hline
  rcases hline with (hline | ⟨d, hd, rfl⟩) | hline
  · exact hpreamble line hline
  · exact (hds d hd).newline_notMem_line
  · exact hclosing line hline

/-- A header and a body are read as they are. -/
lemma read_unlines (hds : ∀ d ∈ ds, d.IsReadable) {body : List String}
    (hbody : ∀ line ∈ body, '\n' ∉ line.toList) {samples : List VcdSample}
    (hread : readBody ds [] (body.map String.toList) = some samples) {text : String}
    (htext : text.toList = unlines (VcdSink.headerLines ds ++ body)) :
    read text = some ⟨ds, samples.reverse⟩ := by
  have hlines : ∀ line ∈ VcdSink.headerLines ds ++ body, '\n' ∉ line.toList := by
    intro line hline
    rcases List.mem_append.mp hline with hline | hline
    · exact newline_notMem_headerLines hds line hline
    · exact hbody line hline
  -- the text ends with a line break, so there is an empty line after it
  have hlast : readBody ds [] (body.map String.toList ++ [[]]) = some samples := by
    rw [readBody_append, hread]
    rfl
  rw [read, htext, splitOn_unlines hlines, List.map_append, List.append_assoc,
    readHeader_headerLines hds]
  simp only [Option.bind_eq_bind, Option.bind_some, hlast]

end VcdFile

/-! ## The writer and the reader -/

lemma Probe.shown_eq (p : Probe) : p.shown = p.value.toNat % 2 ^ p.width := by
  rw [Probe.shown]
  split
  case isTrue hwide =>
    have hlt : p.value.toNat < 2 ^ p.width :=
      p.value.toNat_lt.trans_le (Nat.pow_le_pow_right (by decide) hwide)
    rw [Nat.mod_eq_of_lt hlt]
  case isFalse => rfl

namespace VcdSink

/-- Writes samples in order. -/
def dumpAll {σ : Type} [Dut σ] (k : VcdSink) : List (Tick × σ) → Attempt VcdSink
  | [] => .done k
  | (tick, s) :: rest => (k.dump tick s).andThen fun k => k.dumpAll rest

/-- A reader of what was written so far finds the samples so far, newest first, and the writer
remembers the values of the newest. -/
structure Recorded (ds : List VcdDeclaration) (newest : VcdSample) (older : List VcdSample)
    (k : VcdSink) : Prop where
  headerWritten_eq : k.headerWritten = true
  vars_eq : k.vars = List.zipWith VcdDeclaration.holding ds newest.values
  length_eq : newest.values.length = ds.length
  text_eq : ∃ body, k.storage.text.toList = unlines (headerLines ds ++ body)
    ∧ (∀ line ∈ body, '\n' ∉ line.toList)
    ∧ VcdFile.readBody ds [] (body.map String.toList) = some (newest :: older)

variable {σ : Type} [Dut σ] {ds : List VcdDeclaration} {newest : VcdSample}
  {older : List VcdSample} {k k' : VcdSink} {tick : Tick} {s : σ}

omit [Dut σ] in
lemma writeValues_eq_done {lasts : List (Option ℕ)} {values : List ℕ}
    (h : k.writeValues values = .done k')
    (hvars : k.vars = List.zipWith VcdDeclaration.holding ds lasts)
    (hlasts : lasts.length = ds.length) (hvalues : values.length = ds.length) :
    ∃ storage, k' = { k with
        storage, vars := List.zipWith VcdDeclaration.holding ds (values.map some) }
      ∧ storage.text.toList = k.storage.text.toList ++ unlines (changeLines ds lasts values) := by
  obtain ⟨⟨storage, vars⟩, hchanges, rfl⟩ := Attempt.map_eq_done.mp h
  rw [hvars] at hchanges
  obtain ⟨rfl, htext⟩ := writeChanges_eq_done hlasts hvalues hchanges
  exact ⟨storage, rfl, htext⟩

/-- The sample that a reader should find, after one with the given values. -/
def sampleAfter (lasts : List (Option ℕ)) (tick : Tick) (s : σ) : VcdSample :=
  ⟨tick.value.toNat, differing 0 lasts (values s), (values s).map some⟩

/-- Every further sample can be read back. -/
lemma Recorded.dump (h : Recorded ds newest older k) (hds : AreReadable ds)
    (hfit : ValuesFit ds (values s)) (hdump : k.dump tick s = .done k') :
    Recorded ds (sampleAfter newest.values tick s) (newest :: older) k' := by
  rw [VcdSink.dump, if_pos h.headerWritten_eq] at hdump
  obtain ⟨next, htick, hvalues⟩ := Attempt.andThen_eq_done.mp hdump
  obtain ⟨storage, rfl, htext⟩ := writeLine_eq_done htick
  obtain ⟨storage', rfl, htext'⟩ :=
    writeValues_eq_done hvalues h.vars_eq h.length_eq hfit.length_eq.symm
  obtain ⟨body, hbody, hclean, hread⟩ := h.text_eq
  let lines := VcdFile.sampleLines tick [] (changeLines ds newest.values (values s)) []
  refine ⟨h.headerWritten_eq, rfl, ?_, body ++ lines, ?_, ?_, ?_⟩
  · simp [sampleAfter, hfit.length_eq]
  · rw [htext', htext, hbody]
    simp [lines, VcdFile.sampleLines, unlines]
  · intro line hline
    rcases List.mem_append.mp hline with hline | hline
    · exact hclean line hline
    · exact VcdFile.newline_notMem_sampleLines hds.readable hfit (by simp) (by simp) line hline
  · rw [List.map_append, VcdFile.readBody_append, hread, Option.bind_some]
    exact VcdFile.readBody_sampleLines hds h.length_eq hfit (by simp) (by simp) rfl tick

/-- The first sample can be read back. -/
lemma recorded_first {medium : Medium} {vars : List (String × ℕ)}
    (hvars : declarations (Dut.probes s) = vars) (hds : AreReadable (declarationsFrom 0 vars))
    (hfit : ValuesFit (declarationsFrom 0 vars) (values s))
    (hdump : ({ storage := { medium } } : VcdSink).dump tick s = .done k') :
    Recorded (declarationsFrom 0 vars)
      (sampleAfter ((declarationsFrom 0 vars).map fun _ => none) tick s) [] k' := by
  rw [VcdSink.dump, if_neg Bool.false_ne_true] at hdump
  obtain ⟨next, hheader, hdump⟩ := Attempt.andThen_eq_done.mp hdump
  obtain ⟨storage, rfl, htext⟩ := writeHeader_eq_done hheader
  rw [hvars] at htext hdump
  generalize declarationsFrom 0 vars = ds at hds hfit htext hdump ⊢
  obtain ⟨next, hticks, hdump⟩ := Attempt.andThen_eq_done.mp hdump
  obtain ⟨storage₁, rfl, htext₁⟩ := writeLines_eq_done hticks
  obtain ⟨next, hvalues, hend⟩ := Attempt.andThen_eq_done.mp hdump
  have hnone : [] ++ ds.map (·.holding none)
      = List.zipWith VcdDeclaration.holding ds (ds.map fun _ => none) := by
    rw [List.nil_append, List.zipWith_map_right, List.zipWith_self]
  obtain ⟨storage₂, rfl, htext₂⟩ :=
    writeValues_eq_done hvalues hnone (by simp) hfit.length_eq.symm
  obtain ⟨storage₃, rfl, htext₃⟩ := writeLine_eq_done hend
  refine ⟨rfl, rfl, by simp [sampleAfter, hfit.length_eq],
    VcdFile.sampleLines tick ["$dumpvars"] (changeLines ds (ds.map fun _ => none) (values s))
      ["$end"], ?_, ?_, ?_⟩
  · rw [htext₃, htext₂, htext₁, htext]
    simp [VcdFile.sampleLines, unlines]
  · exact VcdFile.newline_notMem_sampleLines hds.readable hfit (by decide) (by decide)
  · exact VcdFile.readBody_sampleLines hds (by simp) hfit (by decide) (by decide) rfl tick

/-! ## Whole files -/

/-- The samples that a reader should find, after one with the given values. -/
def samplesFrom (lasts : List (Option ℕ)) : List (Tick × σ) → List VcdSample
  | [] => []
  | (tick, s) :: rest => sampleAfter lasts tick s :: samplesFrom ((values s).map some) rest

lemma Recorded.dumpAll {dumps : List (Tick × σ)} (h : Recorded ds newest older k)
    (hds : AreReadable ds) (hfit : ∀ d ∈ dumps, ValuesFit ds (values d.2))
    (hdumps : k.dumpAll dumps = .done k') :
    ∃ newest' older', Recorded ds newest' older' k'
      ∧ newest' :: older' = (samplesFrom newest.values dumps).reverse ++ newest :: older := by
  induction dumps generalizing k newest older with
  | nil =>
    cases hdumps
    exact ⟨newest, older, h, rfl⟩
  | cons d rest ih =>
    obtain ⟨next, hdump, hrest⟩ := Attempt.andThen_eq_done.mp hdumps
    have hnext := h.dump hds (hfit d (by simp)) hdump
    obtain ⟨newest', older', hlast, heq⟩ :=
      ih hnext (fun d hd => hfit d (by simp [hd])) hrest
    refine ⟨newest', older', hlast, ?_⟩
    rw [heq, samplesFrom, List.reverse_cons, List.append_assoc]
    rfl

/-- The variables of the eight pins, each one bit wide. -/
def pinVariables : List (String × ℕ) :=
  [("clk", 1), ("rst_n", 1), ("uart_rx", 1), ("tck", 1), ("tms", 1), ("tdi", 1), ("tdo", 1),
   ("finished", 1)]

/-- The levels of the eight pins of a device, and its probes each reduced to its width. -/
def reducedValues (s : σ) : List ℕ :=
  [(Dut.clk s).toNat, (Dut.rstN s).toNat, (Dut.uartRx s).toNat, (Dut.tap s).tck.toNat,
    (Dut.tap s).tms.toNat, (Dut.tap s).tdi.toNat, (Dut.tdo s).toNat, (Dut.finished s).toNat]
    ++ (Dut.probes s).map fun p => p.value.toNat % 2 ^ p.width

lemma values_eq_reducedValues (s : σ) : values s = reducedValues s := by
  simp [values, pinLevels, reducedValues, Probe.shown_eq]

omit [Dut σ] in
lemma map_declarationsFrom (vars : List (String × ℕ)) :
    (declarationsFrom 0 vars).map (fun d => (d.name, d.width)) = vars := by
  rw [declarationsFrom, List.map_map]
  exact List.zipIdx_map_fst 0 vars

lemma valuesFit_values (s : σ) :
    ValuesFit (declarationsFrom 0 (declarations (Dut.probes s))) (values s) := by
  have hwidths : (declarationsFrom 0 (declarations (Dut.probes s))).map VcdDeclaration.width
      = pinNames.map (fun _ => 1) ++ (Dut.probes s).map Probe.width := by
    have hsnd := congrArg (List.map Prod.snd) (map_declarationsFrom (declarations (Dut.probes s)))
    rw [List.map_map, declarations, List.map_append, List.map_map, List.map_map] at hsnd
    exact hsnd
  have hpins : List.Forall₂ (fun width value => value < 2 ^ width) (pinNames.map fun _ => 1)
      ((pinLevels s).map Bool.toNat) := by
    simp [pinNames, pinLevels, Bool.toNat_le]
  have hprobes : List.Forall₂ (fun width value => value < 2 ^ width)
      ((Dut.probes s).map Probe.width) ((Dut.probes s).map Probe.shown) := by
    rw [List.forall₂_map_left_iff, List.forall₂_map_right_iff, List.forall₂_same]
    intro p _
    rw [Probe.shown_eq]
    exact Nat.mod_lt _ (by positivity)
  have hall : List.Forall₂ _ (_ ++ _) (values s) := List.rel_append hpins hprobes
  rwa [← hwidths, List.forall₂_map_left_iff] at hall

omit [Dut σ] in
lemma areReadable_declarationsFrom {vars : List (String × ℕ)}
    (hnames : ∀ var ∈ vars, IsWord var.1.toList) : AreReadable (declarationsFrom 0 vars) := by
  constructor
  · intro d hd
    obtain ⟨⟨var, i⟩, hmem, rfl⟩ := List.mem_map.mp hd
    exact ⟨isWord_idCode i, hnames var (List.fst_mem_of_mem_zipIdx hmem)⟩
  · have hcodes : (declarationsFrom 0 vars).map VcdDeclaration.code
        = ((vars.zipIdx 0).map Prod.snd).map idCode := by
      rw [declarationsFrom, List.map_map, List.map_map]
      rfl
    rw [hcodes, List.zipIdx_map_snd]
    exact List.Nodup.map idCode_injective List.nodup_range'

/-- The variables whose values are not the same. -/
def changedBetween (old new : List ℕ) : List ℕ :=
  (List.range new.length).filter fun i => old[i]? ≠ new[i]?

omit [Dut σ] in
lemma differing_eq_changedBetween (i : ℕ) {old new : List ℕ} (hlength : old.length = new.length) :
    differing i (old.map some) new = (changedBetween old new).map (i + ·) := by
  induction new generalizing i old with
  | nil =>
    obtain rfl := List.eq_nil_of_length_eq_zero hlength
    rfl
  | cons value values ih =>
    obtain ⟨last, lasts, rfl⟩ := List.exists_cons_of_length_eq_add_one hlength
    have hrest := ih (i + 1) (by simpa using hlength)
    have htail : changedBetween (last :: lasts) (value :: values)
        = (if last = value then [] else [0]) ++ (changedBetween lasts values).map (· + 1) := by
      rw [changedBetween, List.length_cons, List.range_succ_eq_map, List.filter_cons,
        List.filter_map, changedBetween]
      by_cases hsame : last = value <;> simp [hsame, Function.comp_def]
    rw [List.map_cons, differing, hrest, htail, List.map_append, List.map_map]
    by_cases hsame : last = value
    · simp [hsame, Function.comp_def, Nat.add_comm, Nat.add_left_comm]
    · simp [hsame, Function.comp_def, Nat.add_comm, Nat.add_left_comm]

/-- Every sample shows the ticks and the values that it should. -/
lemma map_samplesFrom (lasts : List (Option ℕ)) (dumps : List (Tick × σ)) :
    (samplesFrom lasts dumps).map (fun sample => (sample.tick, sample.values))
      = dumps.map fun d => (d.1.value.toNat, (reducedValues d.2).map some) := by
  induction dumps generalizing lasts with
  | nil => rfl
  | cons d rest ih =>
    rw [samplesFrom, List.map_cons, List.map_cons, ih, sampleAfter, values_eq_reducedValues]

lemma changed_samplesFrom {n : ℕ} (s : σ) {dumps : List (Tick × σ)}
    (hlength : (reducedValues s).length = n)
    (hlengths : ∀ d ∈ dumps, (reducedValues d.2).length = n) (tick : Tick) :
    (samplesFrom ((values s).map some) dumps).map VcdSample.changed
      = List.zipWith (fun d d' => changedBetween (reducedValues d.2) (reducedValues d'.2))
          ((tick, s) :: dumps) dumps := by
  induction dumps generalizing s tick with
  | nil => rfl
  | cons d rest ih =>
    have hd : (reducedValues d.2).length = n := hlengths d (by simp)
    have hrest := ih d.2 hd (fun d hd => hlengths d (by simp [hd])) d.1
    rw [samplesFrom, List.map_cons, List.zipWith_cons_cons, hrest, sampleAfter,
      values_eq_reducedValues, values_eq_reducedValues,
      differing_eq_changedBetween 0 (hlength.trans hd.symm)]
    simp

/-- **Value change dumps can be read back.**  A reader finds the pins and the probes with their
widths, every tick with the values that all of them had then, and after the first sample a line for
a value exactly if it is not the value of the sample before. -/
theorem read_dumps {medium : Medium} {dumps : List (Tick × σ)} {probes : List (String × ℕ)}
    (hsome : dumps ≠ [])
    (hprobes : ∀ d ∈ dumps, (Dut.probes d.2).map (fun p => (p.name, p.width)) = probes)
    (hnames : ∀ p ∈ probes, p.1 ≠ "" ∧ ∀ c ∈ p.1.toList, c.isWhitespace = false)
    (hdumps : ({ storage := { medium } } : VcdSink).dumpAll dumps = .done k)
    (hclose : k.close = .done k') :
    ∃ file, VcdFile.read k'.storage.text = some file
      ∧ file.declarations.map (fun d => (d.name, d.width)) = pinVariables ++ probes
      ∧ file.samples.map (fun sample => (sample.tick, sample.values))
          = dumps.map (fun d => (d.1.value.toNat, (reducedValues d.2).map some))
      ∧ file.samples.tail.map VcdSample.changed
          = List.zipWith (fun d d' => changedBetween (reducedValues d.2) (reducedValues d'.2))
              dumps dumps.tail := by
  obtain ⟨⟨tick, s⟩, rest, rfl⟩ := List.exists_cons_of_ne_nil hsome
  let vars := pinVariables ++ probes
  have hvars : ∀ d ∈ (tick, s) :: rest, declarations (Dut.probes d.2) = vars := by
    intro d hd
    rw [declarations, hprobes d hd]
    rfl
  have hwords : ∀ var ∈ vars, IsWord var.1.toList := by
    intro var hvar
    rcases List.mem_append.mp hvar with hvar | hvar
    · have hpins : ∀ var ∈ pinVariables, IsWord var.1.toList := by decide
      exact hpins var hvar
    · exact ⟨by simpa using (hnames var hvar).1, (hnames var hvar).2⟩
  have hds := areReadable_declarationsFrom hwords
  have hfit : ∀ d ∈ (tick, s) :: rest, ValuesFit (declarationsFrom 0 vars) (values d.2) := by
    intro d hd
    rw [← hvars d hd]
    exact valuesFit_values d.2
  have hlengths : ∀ d ∈ (tick, s) :: rest,
      (reducedValues d.2).length = (declarationsFrom 0 vars).length := by
    intro d hd
    rw [← values_eq_reducedValues, (hfit d hd).length_eq]
  obtain ⟨next, hfirst, hrest⟩ := Attempt.andThen_eq_done.mp hdumps
  have hbegun := recorded_first (hvars _ List.mem_cons_self) hds (hfit _ List.mem_cons_self) hfirst
  obtain ⟨newest, older, hrecorded, hsamples⟩ :=
    hbegun.dumpAll hds (fun d hd => hfit d (List.mem_cons_of_mem _ hd)) hrest
  obtain ⟨body, hbody, hclean, hread⟩ := hrecorded.text_eq
  have htext : k'.storage.text = k.storage.text := by
    rw [close, if_pos hrecorded.headerWritten_eq, Attempt.done_andThen] at hclose
    obtain ⟨storage, hflush, rfl⟩ := Attempt.map_eq_done.mp hclose
    exact Storage.text_of_flush hflush
  have hall : (newest :: older).reverse
      = samplesFrom ((declarationsFrom 0 vars).map fun _ => none) ((tick, s) :: rest) := by
    rw [hsamples]
    simp [samplesFrom, sampleAfter]
  refine ⟨_, VcdFile.read_unlines hds.readable hclean hread (by rw [htext, hbody]),
    map_declarationsFrom vars, ?_, ?_⟩
  · rw [hall]
    exact map_samplesFrom _ _
  · rw [hall]
    exact changed_samplesFrom s (hlengths (tick, s) List.mem_cons_self)
      (fun d hd => hlengths d (List.mem_cons_of_mem _ hd)) tick

/-- Three samples of a counter, the ticks going back.  Every pin is high in one of them and low in
another.  The edges are sixteen more in the second, which four bits do not show, and in the third
only the evaluations and the tap have changed. -/
theorem read_dumps_tappedCounter :
    let dumps : List (Tick × Sample.TappedCounter) :=
      [(⟨7⟩, { counter := { edges := 17, evals := 5 } }),
        (⟨3⟩, { counter :=
                  { clk := true, rstN := true, uartRx := true, edges := 33, evals := 6,
                    finishAfter := some 33 },
                tap := { tck := true, tdi := true } }),
        (⟨2⟩, { counter :=
                  { clk := true, rstN := true, uartRx := true, edges := 33, evals := 7,
                    finishAfter := some 33 },
                tap := { tms := true, tdi := true } })]
    ∃ k k' file, ({} : VcdSink).dumpAll dumps = .done k ∧ k.close = .done k'
      ∧ VcdFile.read k'.storage.text = some file
      ∧ file.declarations.map (fun d => (d.name, d.width))
          = [("clk", 1), ("rst_n", 1), ("uart_rx", 1), ("tck", 1), ("tms", 1), ("tdi", 1),
            ("tdo", 1), ("finished", 1), ("edges", 4), ("evals", 64)]
      ∧ file.samples.map (fun sample => (sample.tick, sample.values))
          = [(7, [0, 0, 0, 0, 0, 0, 0, 0, 1, 5].map some),
            (3, [1, 1, 1, 1, 0, 1, 1, 1, 1, 6].map some),
            (2, [1, 1, 1, 0, 1, 1, 0, 1, 1, 7].map some)]
      ∧ file.samples.tail.map VcdSample.changed = [[0, 1, 2, 3, 5, 6, 7, 9], [3, 4, 6, 9]] := by
  intro dumps
  obtain ⟨k, hdumps, k', hclose⟩ : ∃ k, ({} : VcdSink).dumpAll dumps = .done k
      ∧ ∃ k', k.close = .done k' := ⟨_, rfl, _, rfl⟩
  have hprobes : ∀ d ∈ dumps, (Dut.probes d.2).map (fun p => (p.name, p.width))
      = [("edges", 4), ("evals", 64)] := by
    intro d hd
    simp only [dumps, List.mem_cons, List.not_mem_nil, or_false] at hd
    rcases hd with rfl | rfl | rfl <;> rfl
  have hnames : ∀ p ∈ [("edges", 4), ("evals", 64)],
      p.1 ≠ "" ∧ ∀ c ∈ p.1.toList, c.isWhitespace = false := by
    intro p hp
    rcases List.mem_pair.mp hp with rfl | rfl
    · exact ⟨by decide, (show IsWord "edges".toList by decide).noBlank⟩
    · exact ⟨by decide, (show IsWord "evals".toList by decide).noBlank⟩
  obtain ⟨file, hread, hvars, hsamples, hchanged⟩ :=
    read_dumps (by simp [dumps]) hprobes hnames hdumps hclose
  exact ⟨k, k', file, hdumps, hclose, hread, hvars, hsamples.trans (by decide),
    hchanged.trans (by decide)⟩

end VcdSink

end SocBench
