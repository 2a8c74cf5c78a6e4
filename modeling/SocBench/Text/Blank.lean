/-!
# Blank characters

The 25 characters with the Unicode property `White_Space`, and trimming them off both ends of a
text.  Zero-width characters and the byte order mark are not blank.
-/

namespace SocBench

/-- The ranges of code points that are blank, both ends included. -/
def blankRanges : List (Nat × Nat) :=
  [(0x09, 0x0D), (0x20, 0x20), (0x85, 0x85), (0xA0, 0xA0), (0x1680, 0x1680), (0x2000, 0x200A),
   (0x2028, 0x2029), (0x202F, 0x202F), (0x205F, 0x205F), (0x3000, 0x3000)]

/-- Whether a character is blank. -/
def isBlank (c : Char) : Bool :=
  blankRanges.any fun (low, high) => low ≤ c.toNat && c.toNat ≤ high

/-- The printable characters from `!` to `~` are not blank. -/
theorem isBlank_of_printable {c : Char} (hc : '!' ≤ c ∧ c ≤ '~') : isBlank c = false := by
  have hlow : 33 ≤ c.toNat := hc.1
  have hhigh : c.toNat ≤ 126 := hc.2
  simp only [isBlank, blankRanges, List.any_cons, List.any_nil, Bool.or_false, Bool.or_eq_false_iff,
    Bool.and_eq_false_iff, decide_eq_false_iff_not]
  omega

/-- A text without the blanks at its two ends. -/
def trimBlanks (cs : List Char) : List Char :=
  ((cs.dropWhile isBlank).reverse.dropWhile isBlank).reverse

end SocBench
