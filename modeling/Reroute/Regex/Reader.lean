import Reroute.Regex.Expression
import Reroute.Unicode.Property

set_option autoImplicit false

namespace Reroute.Regex

structure ReadState where
  rest : Text
  ignoreSpace : Bool
  groups : Nat
  names : List (Text × Nat)
  deriving Repr

abbrev Reader := StateT ReadState Option

namespace Reader

def dropIgnored (inComment : Bool) : Text → Text
  | [] => []
  | c :: t =>
    if inComment then dropIgnored (c != '\n') t
    else if Unicode.isWhiteSpace c then dropIgnored false t
    else if c = '#' then dropIgnored true t
    else c :: t

def rest : Reader Text :=
  return (← get).rest

def setRest (t : Text) : Reader Unit :=
  modify fun s => { s with rest := t }

def peek : Reader (Option Char) :=
  return (← rest).head?

def current : Reader Char := do
  match ← peek with
  | some c => return c
  | none => failure

def skipIgnored : Reader Unit := do
  if (← get).ignoreSpace then setRest (dropIgnored false (← rest))

def bump : Reader Unit := do
  setRest (← rest).tail

def advance : Reader Unit := do
  bump
  skipIgnored

def accept (t : Text) : Reader Bool := do
  match Text.dropPrefix? t (← rest) with
  | some after =>
    setRest after
    return true
  | none => return false

def expect (c : Char) : Reader Unit := do
  if (← current) = c then bump else failure

/-- The characters of a class that come next, with the ignored ones between them dropped. -/
def advanceWhile (member : Char → Bool) : Reader Text := do
  let (taken, after) := gather (← get).ignoreSpace (← rest).length (← rest)
  setRest after
  return taken
where
  gather (ignore : Bool) : Nat → Text → Text × Text
    | fuel + 1, c :: t =>
      if member c then
        let (taken, after) := gather ignore fuel (if ignore then dropIgnored false t else t)
        (c :: taken, after)
      else ([], c :: t)
    | _, t => ([], t)

end Reader

def hexValue? (c : Char) : Option Nat :=
  if c.isDigit then some (c.toNat - '0'.toNat)
  else if 'a' ≤ c ∧ c ≤ 'f' then some (c.toNat - 'a'.toNat + 10)
  else if 'A' ≤ c ∧ c ≤ 'F' then some (c.toNat - 'A'.toNat + 10)
  else none

def charOfHex? (digits : Text) : Option Char := do
  let values ← digits.mapM hexValue?
  let code := values.foldl (fun n d => n * 16 + d) 0
  if code.isValidChar then some (Char.ofNat code) else none

inductive Atom where
  | literal (l : Literal)
  | anchor (kind : Anchor)
  | letter (kind : LetterClass) (negated : Bool)
  | unicode (name : UnicodeClass) (negated : Bool)
  deriving Repr

namespace Reader

def hexDigits : Nat → Reader Text
  | 0 => return []
  | n + 1 => do
    let c ← current
    match hexValue? c with
    | none => failure
    | some _ =>
      advance
      return c :: (← hexDigits n)

def hexEscape (width : Nat) : Reader Literal := do
  advance
  if (← current) = '\x7b' then
    advance
    let digits ← advanceWhile (· != '\x7d')
    expect '\x7d'
    skipIgnored
    if digits.isEmpty then failure
    match charOfHex? digits with
    | some c => return ⟨c, false⟩
    | none => failure
  else
    let digits ← hexDigits width
    match charOfHex? digits with
    | some c => return ⟨c, width == 2⟩
    | none => failure

def cutAt? (separator : Text) : Text → Option (Text × Text)
  | [] => none
  | c :: t =>
    match Text.dropPrefix? separator (c :: t) with
    | some after => some ([], after)
    | none => (cutAt? separator t).map fun (before, after) => (c :: before, after)

def unicodeClass (name : Text) : UnicodeClass :=
  match cutAt? ['!', '='] name with
  | some (property, value) => .valued property value
  | none =>
    match cutAt? [':'] name with
    | some (property, value) => .valued property value
    | none =>
      match cutAt? ['='] name with
      | some (property, value) => .valued property value
      | none => .named name

def unicodeName : Reader UnicodeClass := do
  advance
  if (← current) = '\x7b' then
    advance
    let name ← advanceWhile (· != '\x7d')
    expect '\x7d'
    return unicodeClass name
  else
    let c ← current
    if c = '\\' then failure
    advance
    return .named [c]

def boundaryName? (name : Text) : Option Anchor :=
  if name = "start".toList then some .wordStart
  else if name = "end".toList then some .wordEnd
  else if name = "start-half".toList then some .wordStartHalf
  else if name = "end-half".toList then some .wordEndHalf
  else none

/-- What follows `\b`: braces that start with a letter or a hyphen name a condition, others are left
to be read as a repetition. -/
def boundary : Reader Anchor := do
  if (← peek) ≠ some '\x7b' then return .wordBoundary
  let before ← rest
  advance
  if isNameChar (← current) then
    let name ← advanceWhile isNameChar
    expect '\x7d'
    match boundaryName? name with
    | some kind => return kind
    | none => failure
  else
    setRest before
    return .wordBoundary
where
  isNameChar (c : Char) : Bool := c.isAlpha || c == '-'

def isMeta (c : Char) : Bool :=
  "\\.+*?()|[]\x7b\x7d^$#&-~".toList.contains c

/-- The characters that may be written with a backslash although they need none: ASCII characters
that are not letters, digits or angle brackets. -/
def isEscapable (c : Char) : Bool :=
  isMeta c || (c.toNat < 0x80 && !c.isAlphanum && c != '<' && c != '>')

def controlLetter? : Char → Option Char
  | 'a' => some '\x07'
  | 'f' => some '\x0c'
  | 't' => some '\t'
  | 'n' => some '\n'
  | 'r' => some '\r'
  | 'v' => some '\x0b'
  | _ => none

def anchorLetter? : Char → Option Anchor
  | 'A' => some .textStart
  | 'z' => some .textEnd
  | 'B' => some .notWordBoundary
  | '<' => some .wordStart
  | '>' => some .wordEnd
  | _ => none

def letterClass? : Char → Option (LetterClass × Bool)
  | 'd' => some (.digit, false)
  | 's' => some (.space, false)
  | 'w' => some (.word, false)
  | 'D' => some (.digit, true)
  | 'S' => some (.space, true)
  | 'W' => some (.word, true)
  | _ => none

def escape : Reader Atom := do
  bump
  let c ← current
  if c = 'x' then return .literal (← hexEscape 2)
  else if c = 'u' then return .literal (← hexEscape 4)
  else if c = 'U' then return .literal (← hexEscape 8)
  else if c = 'p' then return .unicode (← unicodeName) false
  else if c = 'P' then return .unicode (← unicodeName) true
  else
    bump
    if isEscapable c then return .literal ⟨c, false⟩
    else if c = 'b' then return .anchor (← boundary)
    else
      match letterClass? c, controlLetter? c, anchorLetter? c with
      | some (kind, negated), _, _ => return .letter kind negated
      | none, some control, _ => return .literal ⟨control, false⟩
      | none, none, some kind => return .anchor kind
      | none, none, none => failure

end Reader

end Reroute.Regex
