import Softcode.Styled.Markup
import Softcode.Text.Blank
import Softcode.Text.Case
import Softcode.Text.Offset

namespace Softcode

/-!
# Styled text

A styled text is a sequence of characters with an ordered list of spans, each of which puts one
markup on a range of characters.  Cutting a text cuts its spans, and appending a text shifts the
spans of the appended part.  Spans count characters and the text itself is cut by offsets, so each
cut has to know both.
-/

/-- One markup on the characters from `start` up to, not including, `stop`. -/
structure StyleSpan where
  start : Nat
  stop : Nat
  markup : Markup
deriving Repr, DecidableEq

/-- The span moved `n` characters to the right. -/
def StyleSpan.shift (s : StyleSpan) (n : Nat) : StyleSpan :=
  { s with start := s.start + n, stop := s.stop + n }

/-- Does the span cover the character at `i`? -/
def StyleSpan.covers (s : StyleSpan) (i : Nat) : Bool :=
  s.start ≤ i && i < s.stop

/-- Text with markup.  The number of its characters is kept beside them. -/
structure Styled where
  chars : List Char := []
  length : Nat := chars.length
  spans : List StyleSpan := []
  length_eq : length = chars.length := by first | exact List.length_nil | rfl
deriving Repr, DecidableEq

namespace Styled

instance : Inhabited Styled := ⟨{}⟩

/-- No text. -/
def empty : Styled := {}

/-- Text without markup. -/
def ofChars (cs : List Char) : Styled := { chars := cs }

/-- Text without markup. -/
def ofString (s : String) : Styled := ofChars s.toList

/-- Does the text hold no character? -/
def isEmpty (s : Styled) : Bool := s.length == 0

/-- The text without its markup. -/
def plain (s : Styled) : String := String.ofList s.chars

/-- The text with all its spans dropped. -/
def erase (s : Styled) : Styled := { s with spans := [] }

/-- Add a markup to the characters from `start` up to `stop`, as far as they exist. -/
def mark (s : Styled) (start stop : Nat) (markup : Markup) : Styled :=
  let stop := min stop s.length
  if start < stop then { s with spans := s.spans ++ [⟨start, stop, markup⟩] } else s

/-- Text with one markup on all of it. -/
def marked (cs : List Char) (markup : Markup) : Styled :=
  (ofChars cs).mark 0 cs.length markup

/-- Texts are equal if their characters and their spans are. -/
theorem eq_of_chars_of_spans {s t : Styled} (hchars : s.chars = t.chars)
    (hspans : s.spans = t.spans) :
    s = t := by
  obtain ⟨cs, n, spans, rfl⟩ := s
  obtain ⟨ds, m, more, rfl⟩ := t
  obtain rfl : cs = ds := hchars
  obtain rfl : spans = more := hspans
  rfl

/-! ### Cutting -/

/-- The part of a span that lies between `start` and `stop`, counted from `start`. -/
def clip (start stop : Nat) (span : StyleSpan) : Option StyleSpan :=
  if span.start < stop && start < span.stop then
    some { span with start := max span.start start - start, stop := min span.stop stop - start }
  else none

/-- The offsets of the characters from `start` up to `stop`.  Where each character takes one byte,
    these are the numbers themselves.  Elsewhere the bounds of the characters are gone through once:
    `stop` is looked up behind `start`. -/
def byteRange (s : Styled) (start stop : Nat) : Nat × Nat :=
  let size := Text.utf8Size s.chars
  if size = s.length then (min start s.length, min stop s.length)
  else
    let bounds := (Text.boundsFrom 0 s.chars).drop start
    let first := bounds.head?.getD size
    if start + 1 ≤ stop then (first, bounds.tail[stop - (start + 1)]?.getD size)
    else (first, first)

theorem byteRange_eq (s : Styled) {start stop : Nat} (hle : start ≤ stop)
    (hstop : stop ≤ s.length) :
    s.byteRange start stop
      = (Text.utf8Size (s.chars.take start), Text.utf8Size (s.chars.take stop)) := by
  have hlength := s.length_eq
  unfold byteRange
  dsimp only
  split
  · rename_i hsize
    rw [hlength] at hsize
    rw [Text.utf8Size_take_of_eq_length hsize (by omega),
      Text.utf8Size_take_of_eq_length hsize (by omega), Nat.min_eq_left (by omega),
      Nat.min_eq_left hstop]
  · have hfirst : ((Text.boundsFrom 0 s.chars).drop start).head?
        = some (Text.utf8Size (s.chars.take start)) := by
      rw [List.head?_drop, Text.boundsFrom_getElem? 0 (by omega), Nat.zero_add]
    rw [hfirst]
    split
    · rename_i hlt
      have hsecond : ((Text.boundsFrom 0 s.chars).drop start).tail[stop - (start + 1)]?
          = some (Text.utf8Size (s.chars.take stop)) := by
        rw [List.tail_drop, List.getElem?_drop, Nat.add_sub_cancel' hlt,
          Text.boundsFrom_getElem? 0 (by omega), Nat.zero_add]
      rw [hsecond]
      rfl
    · obtain rfl : start = stop := by omega
      rfl

/-- What stands between two cuts, with its markup. -/
def sliceBytes (s : Styled) (start stop : Text.Cut s.chars) : Styled :=
  if start.index < stop.index then
    { chars := Text.between start.offset stop.offset s.chars
      length := stop.index - start.index
      spans := s.spans.filterMap (clip start.index stop.index)
      length_eq := by
        have hstop := stop.index_le
        rw [start.between_offset stop, List.length_take, List.length_drop]
        omega }
  else empty

/-- The characters from `start` up to `stop`, as far as they exist, with their markup. -/
def slice (s : Styled) (start stop : Nat) : Styled :=
  let stop := min stop s.length
  if h : start < stop then
    have hstop : stop ≤ s.length := Nat.min_le_right ..
    have hrange := s.byteRange_eq (Nat.le_of_lt h) hstop
    s.sliceBytes
      { index := start
        offset := (s.byteRange start stop).1
        index_le := s.length_eq ▸ Nat.le_trans (Nat.le_of_lt h) hstop
        offset_eq := congrArg Prod.fst hrange }
      { index := stop
        offset := (s.byteRange start stop).2
        index_le := s.length_eq ▸ hstop
        offset_eq := congrArg Prod.snd hrange }
  else empty

/-- `count` characters from `start` on, as far as they exist. -/
def substring (s : Styled) (start count : Nat) : Styled :=
  s.slice start (start + count)

/-- The text without leading and trailing blanks. -/
def trim (s : Styled) : Styled :=
  let leading := (s.chars.takeWhile Text.isBlank).length
  let trailing := (s.chars.reverse.takeWhile Text.isBlank).length
  s.slice leading (s.length - trailing)

/-- The place behind all characters. -/
def ending (s : Styled) : Text.Cut s.chars where
  index := s.length
  offset := Text.utf8Size s.chars
  index_le := Nat.le_of_eq s.length_eq
  offset_eq := by rw [s.length_eq, List.take_length]

/-- The pieces between occurrences of a character, the current one having begun at `start` and the
    characters `rest` behind `here` being left. -/
def splitFrom (s : Styled) (d : Char) (start here : Text.Cut s.chars) :
    (rest : List Char) → s.chars.drop here.index = rest → List Styled
  | [], _ => [s.sliceBytes start s.ending]
  | c :: rest, h =>
    let behind := here.next h
    if c = d then s.sliceBytes start here :: s.splitFrom d behind behind rest (here.drop_next h)
    else s.splitFrom d start behind rest (here.drop_next h)

/-- The pieces between occurrences of the character `d`; there is always at least one. -/
def split (s : Styled) (d : Char) : List Styled :=
  s.splitFrom d .first .first s.chars rfl

/-! ### Joining -/

/-- Add a span at the end of a list of spans.  A span that begins where the last one ends and has
    the same markup continues it. -/
def addSpan (spans : List StyleSpan) (span : StyleSpan) : List StyleSpan :=
  match spans.getLast? with
  | some last =>
    if last.stop = span.start && last.markup = span.markup then
      spans.dropLast ++ [{ last with stop := span.stop }]
    else spans ++ [span]
  | none => [span]

/-- One text after the other. -/
def append (a b : Styled) : Styled :=
  { chars := a.chars ++ b.chars
    length := a.length + b.length
    spans := (b.spans.map (·.shift a.length)).foldl addSpan a.spans
    length_eq := by rw [List.length_append, a.length_eq, b.length_eq] }

instance : Append Styled := ⟨append⟩

/-- A text followed by characters without markup. -/
def appendChars (s : Styled) (cs : List Char) : Styled :=
  { s with
    chars := s.chars ++ cs
    length := s.length + cs.length
    length_eq := by rw [List.length_append, s.length_eq] }

/-- The texts one after the other. -/
def concat (items : List Styled) : Styled :=
  items.foldl append empty

/-- The texts one after the other with `separator` between neighbours. -/
def join (separator : Styled) : List Styled → Styled
  | [] => empty
  | item :: items => items.foldl (fun acc i => (acc ++ separator) ++ i) (empty ++ item)

/-! ### Case -/

/-- The text with each of its characters changed. -/
def mapChars (s : Styled) (f : Char → Char) : Styled :=
  { s with chars := s.chars.map f, length_eq := by rw [List.length_map, s.length_eq] }

/-- The text with its ASCII letters in upper case. -/
def upper (s : Styled) : Styled := s.mapChars Char.toUpper

/-- The text with its ASCII letters in lower case. -/
def lower (s : Styled) : Styled := s.mapChars Char.toLower

end Styled

end Softcode
