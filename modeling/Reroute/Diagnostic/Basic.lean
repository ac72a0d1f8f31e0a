import Reroute.Text

set_option autoImplicit false

namespace Reroute

/-- A span of `source` to point at, and the number of filler marks after the text. -/
structure Diagnostic where
  source : Text
  start : Nat
  len : Nat
  filler : Nat
  deriving DecidableEq, Repr

inductive SegmentKind where
  | text
  | control
  | marked
  | markedControl
  | separator
  | filler
  deriving DecidableEq, Repr

namespace SegmentKind

def isMarked : SegmentKind → Bool
  | .marked | .markedControl | .filler => true
  | .text | .control | .separator => false

def name : SegmentKind → String
  | .text => "Text"
  | .control => "Control"
  | .marked => "Marked"
  | .markedControl => "MarkedControl"
  | .separator => "Separator"
  | .filler => "Filler"

end SegmentKind

structure Segment where
  kind : SegmentKind
  text : Text
  deriving DecidableEq, Repr

namespace Segment

def merge : List Segment → List Segment
  | [] => []
  | s :: rest =>
    match merge rest with
    | [] => [s]
    | next :: others =>
      if s.kind = next.kind then ⟨s.kind, s.text ++ next.text⟩ :: others
      else s :: next :: others

end Segment

/-- How a control character is shown: by its mnemonic, or by its number. -/
def escapeControl? (c : Char) : Option Text :=
  if c = '\t' then some ['\\', 't']
  else if c = '\r' then some ['\\', 'r']
  else if c = '\n' then some ['\\', 'n']
  else if c < ' ' then some ('\\' :: Text.decimal c.toNat)
  else none

namespace Diagnostic

/-- Spans end here at the latest: positions are counted in 64 bits. -/
def maxPosition : Nat :=
  UInt64.size - 1

def stop (d : Diagnostic) : Nat :=
  min (d.start + d.len) maxPosition

def isEmpty (d : Diagnostic) : Bool :=
  d.len == 0

def covers (d : Diagnostic) (i : Nat) : Bool :=
  d.start ≤ i && i < d.stop

def glyph (d : Diagnostic) (i : Nat) (c : Char) : Segment :=
  match escapeControl? c, d.covers i with
  | some escaped, true => ⟨.markedControl, escaped⟩
  | some escaped, false => ⟨.control, escaped⟩
  | none, true => ⟨.marked, [c]⟩
  | none, false => ⟨.text, [c]⟩

def glyphsFrom (d : Diagnostic) : Nat → Text → List Segment
  | _, [] => []
  | i, c :: t => d.glyph i c :: d.glyphsFrom (i + 1) t

/-- The filler marks, set off by a space unless the text itself ends in a blank. -/
def fillerSegments (d : Diagnostic) : List Segment :=
  if d.filler = 0 then []
  else
    let marks : Segment := ⟨.filler, List.replicate d.filler '?'⟩
    match d.source.getLast? with
    | some ' ' | some '\t' => [marks]
    | _ => [⟨.separator, [' ']⟩, marks]

def segments (d : Diagnostic) : List Segment :=
  Segment.merge (d.glyphsFrom 0 d.source ++ d.fillerSegments)

end Diagnostic

end Reroute
