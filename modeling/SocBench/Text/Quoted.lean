import SocBench.Text.ExtendingMark
import SocBench.Text.Ignorable
import SocBench.Text.Unprintable

/-!
# Quoted text in messages

A text is quoted in a message with double quotes around it.  Quotes, backslashes, tabs, line ends
and characters that show nothing are escaped, so the message stays on one line.
-/

namespace SocBench.Text

/-- Whether a character shows nothing of its own: it cannot be printed, it is drawn on the character
before it, or a display may leave it out. -/
def isHidden (c : Char) : Bool :=
  isUnprintable c || isExtendingMark c || isIgnorable c

/-- The lower-case hexadecimal digits of a number. -/
def hex (n : Nat) : String :=
  String.ofList (Nat.toDigits 16 n)

/-- One character inside the quotes. -/
def escaped (c : Char) : String :=
  match c with
  | '\t' => "\\t"
  | '\n' => "\\n"
  | '\r' => "\\r"
  | '"' => "\\\""
  | '\\' => "\\\\"
  | '\x00' => "\\0"
  | c => if isHidden c then "\\u\x7b" ++ hex c.toNat ++ "\x7d" else c.toString

/-- A text in double quotes. -/
def quoted (s : String) : String :=
  "\"" ++ String.join (s.toList.map escaped) ++ "\""

end SocBench.Text
