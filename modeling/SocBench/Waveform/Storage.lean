import SocBench.Bench.Attempt

/-!
# Where a waveform is stored

A store takes text until its medium refuses more.  A medium with limited room keeps what did fit,
also when the rest did not.  A full medium keeps nothing, which shows only when the buffer in front
of it is emptied.
-/

namespace SocBench

/-- What a waveform is stored on. -/
inductive Medium where
  /-- Everything fits. -/
  | unlimited
  /-- Some more bytes fit. -/
  | limited (room : Nat)
  /-- Nothing fits but what the buffer holds. -/
  | full
  deriving DecidableEq

/-- The text that was stored, and what it is stored on. -/
structure Storage where
  text : String := ""
  medium : Medium := .unlimited

namespace Storage

/-- The bytes that the buffer in front of a file holds. -/
def bufferSize : Nat := 8192

/-- What a full medium says. -/
def noSpace : BenchError :=
  .waveform "No space left on device (os error 28)"

/-- The part of a text that fits into some bytes. A character that is cut in two shows as the
replacement character. -/
def fitting : Nat → List Char → List Char
  | _, [] => []
  | room, c :: rest =>
    if c.utf8Size ≤ room then c :: fitting (room - c.utf8Size) rest
    else if room = 0 then []
    else ['\uFFFD']

/-- Stores a text. -/
def write (w : Storage) (text : String) : Attempt Storage :=
  match w.medium with
  | .unlimited => .done { w with text := w.text ++ text }
  | .limited room =>
    if text.utf8ByteSize ≤ room then
      .done { text := w.text ++ text, medium := .limited (room - text.utf8ByteSize) }
    else
      .failed (.waveform "disk full")
        { text := w.text ++ String.ofList (fitting room text.toList), medium := .limited 0 }
  | .full =>
    if w.text.utf8ByteSize + text.utf8ByteSize ≤ bufferSize then
      .done { w with text := w.text ++ text }
    else .failed noSpace w

/-- Makes sure that everything is stored, which needs some room. -/
def flush (w : Storage) : Attempt Storage :=
  match w.medium with
  | .unlimited => .done w
  | .limited room => if room = 0 then .failed (.waveform "flush failed") w else .done w
  | .full => if w.text.isEmpty then .done w else .failed noSpace w

end Storage

end SocBench
