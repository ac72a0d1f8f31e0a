import Reroute.Regex.Expression
import Reroute.Regex.Syntax
import Reroute.Unicode.CaseFold
import Reroute.Unicode.Property
import Reroute.Unicode.Script

set_option autoImplicit false

namespace Reroute.Regex

structure Mode where
  ignoreCase : Bool
  multiLine : Bool
  dotAll : Bool
  swapGreed : Bool
  unicode : Bool
  crlf : Bool
  deriving DecidableEq, Repr

namespace Mode

def initial : Mode :=
  ⟨false, false, false, false, true, false⟩

def set (mode : Mode) (flag : Flag) (state : Bool) : Mode :=
  match flag with
  | .ignoreCase => { mode with ignoreCase := state }
  | .multiLine => { mode with multiLine := state }
  | .dotAll => { mode with dotAll := state }
  | .swapGreed => { mode with swapGreed := state }
  | .unicode => { mode with unicode := state }
  | .crlf => { mode with crlf := state }
  | .ignoreSpace => mode

def setAll (mode : Mode) (settings : FlagSettings) : Mode :=
  settings.foldl (fun m setting => m.set setting.1 setting.2) mode

end Mode

namespace AsciiClass

def bounds : AsciiClass → List (Char × Char)
  | .alnum => [('0', '9'), ('A', 'Z'), ('a', 'z')]
  | .alpha => [('A', 'Z'), ('a', 'z')]
  | .ascii => [('\x00', '\x7f')]
  | .blank => [('\t', '\t'), (' ', ' ')]
  | .cntrl => [('\x00', '\x1f'), ('\x7f', '\x7f')]
  | .digit => [('0', '9')]
  | .graph => [('!', '~')]
  | .lower => [('a', 'z')]
  | .print => [(' ', '~')]
  | .punct => [('!', '/'), (':', '@'), ('[', '\x60'), ('\x7b', '~')]
  | .space => [('\t', '\r'), (' ', ' ')]
  | .upper => [('A', 'Z')]
  | .word => [('0', '9'), ('A', 'Z'), ('_', '_'), ('a', 'z')]
  | .xdigit => [('0', '9'), ('A', 'F'), ('a', 'f')]

def members (kind : AsciiClass) : CharSet :=
  .ofRanges (kind.bounds.map fun (low, high) => (low.toNat, high.toNat))

end AsciiClass

namespace LetterClass

def ascii : LetterClass → AsciiClass
  | .digit => .digit
  | .space => .space
  | .word => .word

def unicodeMembers : LetterClass → CharSet
  | .digit => Unicode.decimalDigitSet
  | .space => Unicode.whiteSpaceSet
  | .word => Unicode.wordSet

end LetterClass

namespace UnicodeClass

/-- A name as it is looked up: an `is` in front, blanks, hyphens, underscores, case and all
characters beyond ASCII make no difference. -/
def plainName (name : Text) : String :=
  let bare (t : Text) : Text :=
    (t.filter fun c => c.toNat < 0x80 && c != ' ' && c != '_' && c != '-').map Char.toLower
  match name with
  | i :: s :: rest =>
    if i.toLower = 'i' ∧ s.toLower = 's' then
      if bare rest = ['c'] then "isc" else String.ofList (bare rest)
    else String.ofList (bare name)
  | _ => String.ofList (bare name)

/-- The set that a class without a value stands for. Three short names of categories are also names
of properties, which have no set; they mean the categories. -/
def namedSet? (name : String) : Option CharSet :=
  let property :=
    if name == "cf" || name == "sc" || name == "lc" then none else Unicode.propertySet? name
  property.or ((Unicode.categorySet? name).or (Unicode.scriptSet? name))

def members? : UnicodeClass → Option CharSet
  | .named name => namedSet? (plainName name)
  | .valued property value =>
    let property := plainName property
    let value := plainName value
    if property == "gc" || property == "generalcategory" then Unicode.categorySet? value
    else if property == "sc" || property == "script" then Unicode.scriptSet? value
    else if property == "scx" || property == "scriptextensions" then
      Unicode.scriptExtensionSet? value
    else none

end UnicodeClass

def asciiCaseClosure (s : CharSet) : CharSet :=
  let upper := s.inter (.ofBounds 'A' 'Z')
  let lower := s.inter (.ofBounds 'a' 'z')
  let raised := upper.ranges.toList.map fun (low, high) => (low + 32, high + 32)
  let lowered := lower.ranges.toList.map fun (low, high) => (low - 32, high - 32)
  .ofRanges (s.ranges.toList ++ raised ++ lowered)

namespace Mode

def fold (mode : Mode) (s : CharSet) : CharSet :=
  if !mode.ignoreCase then s
  else if mode.unicode then Unicode.caseClosure s
  else asciiCaseClosure s

/-- A set or its complement. A complement has characters beyond ASCII. -/
def negate? (mode : Mode) (negated : Bool) (s : CharSet) : Option CharSet :=
  if !negated then some s
  else if mode.unicode then some s.complement
  else none

def literalSet? (mode : Mode) (l : Literal) : Option CharSet :=
  if mode.unicode then some (mode.fold (.ofChar l.char))
  else if l.char.toNat < 0x80 then some (mode.fold (.ofChar l.char))
  else if l.isByte then none
  else some (.ofChar l.char)

def letterSet? (mode : Mode) (kind : LetterClass) (negated : Bool) : Option CharSet :=
  mode.negate? negated (if mode.unicode then kind.unicodeMembers else kind.ascii.members)

def unicodeSet? (mode : Mode) (name : UnicodeClass) (negated : Bool) : Option CharSet := do
  if !mode.unicode then failure
  mode.negate? negated (mode.fold (← name.members?))

def rangeSet? (mode : Mode) (low high : Literal) : Option CharSet :=
  if mode.unicode || high.char.toNat < 0x80 then some (.ofBounds low.char high.char) else none

def set? (mode : Mode) : SetExpression → Option CharSet
  | .empty => some .empty
  | .literal l => mode.rangeSet? l l
  | .range low high => mode.rangeSet? low high
  | .ascii kind negated => mode.negate? negated (mode.fold kind.members)
  | .letter kind negated => mode.letterSet? kind negated
  | .unicode name negated => mode.unicodeSet? name negated
  | .union first rest => do return (← mode.set? first).union (← mode.set? rest)
  | .operation op left right => do
    let left := mode.fold (← mode.set? left)
    let right := mode.fold (← mode.set? right)
    match op with
    | .intersection => return left.inter right
    | .difference => return left.diff right
    | .symmetricDifference => return left.symmDiff right
  | .bracket negated body => do mode.negate? negated (mode.fold (← mode.set? body))

def dotSet? (mode : Mode) : Option CharSet :=
  if !mode.unicode then none
  else if mode.dotAll then some CharSet.empty.complement
  else if mode.crlf then some (CharSet.ofRanges [(10, 10), (13, 13)]).complement
  else some (CharSet.ofChar '\n').complement

def wordSet (mode : Mode) : CharSet :=
  if mode.unicode then Unicode.wordSet else AsciiClass.word.members

def look (mode : Mode) : Anchor → Look
  | .textStart => .textStart
  | .textEnd => .textEnd
  | .lineStart =>
    if !mode.multiLine then .textStart else if mode.crlf then .lineStartCrlf else .lineStart
  | .lineEnd => if !mode.multiLine then .textEnd else if mode.crlf then .lineEndCrlf else .lineEnd
  | .wordBoundary => .wordBoundary mode.wordSet
  | .notWordBoundary => .notWordBoundary mode.wordSet
  | .wordStart => .wordStart mode.wordSet
  | .wordEnd => .wordEnd mode.wordSet
  | .wordStartHalf => .wordStartHalf mode.wordSet
  | .wordEndHalf => .wordEndHalf mode.wordSet

end Mode

namespace Expression

/-- The trees of the alternatives of an expression, and the mode behind it. -/
def alternatives? (mode : Mode) : Expression → Option (List Node × Mode)
  | .empty => some ([.empty], mode)
  | .directive settings => some ([.empty], mode.setAll settings)
  | .literal l => do return ([.set (← mode.literalSet? l)], mode)
  | .dot => do return ([.set (← mode.dotSet?)], mode)
  | .anchor kind => some ([.look (mode.look kind)], mode)
  | .letter kind negated => do return ([.set (← mode.letterSet? kind negated)], mode)
  | .unicode name negated => do return ([.set (← mode.unicodeSet? name negated)], mode)
  | .bracket negated body => do return ([.set (← mode.set? (.bracket negated body))], mode)
  | .repetition least most greedy body => do
    let (nodes, mode) ← body.alternatives? mode
    return ([.repetition least most (greedy != mode.swapGreed) (.oneOf nodes)], mode)
  | .capture index body => do
    let (nodes, _) ← body.alternatives? mode
    return ([.group index (.oneOf nodes)], mode)
  | .group settings body => do
    let (nodes, _) ← body.alternatives? (mode.setAll settings)
    return ([.oneOf nodes], mode)
  | .concat first rest => do
    let (nodes, mode) ← first.alternatives? mode
    let (others, mode) ← rest.alternatives? mode
    return ([(Node.oneOf nodes).append (.oneOf others)], mode)
  | .alternation first rest => do
    let (nodes, mode) ← first.alternatives? mode
    let (others, mode) ← rest.alternatives? mode
    return (nodes ++ others, mode)

def resolve? (e : Expression) : Option Node := do
  let (nodes, _) ← e.alternatives? .initial
  return .oneOf nodes

end Expression

end Reroute.Regex
