import Reroute.Regex.Reader

set_option autoImplicit false

namespace Reroute.Regex

namespace Reader

def asciiClasses : List (String × AsciiClass) :=
  [("alnum", .alnum), ("alpha", .alpha), ("ascii", .ascii), ("blank", .blank), ("cntrl", .cntrl),
   ("digit", .digit), ("graph", .graph), ("lower", .lower), ("print", .print), ("punct", .punct),
   ("space", .space), ("upper", .upper), ("word", .word), ("xdigit", .xdigit)]

def asciiClassIn? (t : Text) : Option (SetExpression × Text) := do
  let t ← Text.dropPrefix? ['[', ':'] t
  let (negated, t) := match t with
    | '^' :: t => (true, t)
    | _ => (false, t)
  let name := t.takeWhile (· != ':')
  let after ← Text.dropPrefix? [':', ']'] (t.drop name.length)
  let (_, kind) ← asciiClasses.find? fun row => row.1.toList == name
  return (.ascii kind negated, after)

def setAtom : Reader Atom := do
  let c ← current
  if c = '\\' then escape
  else
    bump
    return .literal ⟨c, false⟩

def setOfAtom : Atom → Reader SetExpression
  | .literal l => return .literal l
  | .letter kind negated => return .letter kind negated
  | .unicode name negated => return .unicode name negated
  | .anchor _ => failure

/-- The next character but one, with blanks and the sign of a comment passed over. -/
def peekBehind : Reader (Option Char) := do
  let t := (← rest).tail
  if (← get).ignoreSpace then
    match t.dropWhile Unicode.isWhiteSpace with
    | '#' :: comment => return (comment.dropWhile Unicode.isWhiteSpace).head?
    | t => return t.head?
  else return t.head?

/-- An item of a set or a range between two characters. A hyphen before the closing bracket or
before another hyphen makes no range. -/
def setRange : Reader SetExpression := do
  let first ← setAtom
  skipIgnored
  let c ← current
  let behind ← peekBehind
  if c ≠ '-' ∨ behind = some ']' ∨ behind = some '-' then setOfAtom first
  else
    advance
    match first, ← setAtom with
    | .literal low, .literal high =>
      if low.char ≤ high.char then return .range low high else failure
    | _, _ => failure

def setOperator? : Text → Option SetOperator
  | '&' :: '&' :: _ => some .intersection
  | '-' :: '-' :: _ => some .difference
  | '~' :: '~' :: _ => some .symmetricDifference
  | _ => none

/-- The operation that is left open before a list of items, given last first. -/
def closeOperation (pending : Option (SetOperator × SetExpression)) (items : List SetExpression) :
    SetExpression :=
  let right := SetExpression.unionAll items.reverse
  match pending with
  | some (op, left) => .operation op left right
  | none => right

def leadingHyphens : Nat → Reader (List SetExpression)
  | 0 => failure
  | steps + 1 => do
    if (← current) = '-' then
      advance
      return (← leadingHyphens steps) ++ [.literal ⟨'-', false⟩]
    else return []

def setOpening : Reader (Bool × List SetExpression) := do
  advance
  let negated := (← current) == '^'
  if negated then advance
  let hyphens ← leadingHyphens ((← rest).length + 1)
  if hyphens.isEmpty && (← current) == ']' then
    advance
    let _ ← current
    return (negated, [.literal ⟨']', false⟩])
  else return (negated, hyphens)

def setItems (negated : Bool) (pending : Option (SetOperator × SetExpression))
    (items : List SetExpression) : Nat → Reader SetExpression
  | 0 => failure
  | steps + 1 => do
    skipIgnored
    let c ← current
    let t ← rest
    if c = '[' then
      match asciiClassIn? t with
      | some (item, after) =>
        setRest after
        setItems negated pending (item :: items) steps
      | none =>
        let (inner, first) ← setOpening
        let item ← setItems inner none first steps
        setItems negated pending (item :: items) steps
    else if c = ']' then
      bump
      return .bracket negated (closeOperation pending items)
    else
      match setOperator? t with
      | some op =>
        bump
        bump
        setItems negated (some (op, closeOperation pending items)) [] steps
      | none =>
        let item ← setRange
        setItems negated pending (item :: items) steps

def bracket : Reader Expression := do
  let (negated, first) ← setOpening
  match ← setItems negated none first ((← rest).length + 1) with
  | .bracket negated body => return .bracket negated body
  | _ => failure

def flag? : Char → Option Flag
  | 'i' => some .ignoreCase
  | 'm' => some .multiLine
  | 's' => some .dotAll
  | 'U' => some .swapGreed
  | 'u' => some .unicode
  | 'R' => some .crlf
  | 'x' => some .ignoreSpace
  | _ => none

def flagsIn (state : Bool) : Text → Option FlagSettings
  | [] => some []
  | c :: t =>
    if c = '-' then
      if state && !t.isEmpty then flagsIn false t else none
    else do
      let flag ← flag? c
      let others ← flagsIn state t
      if others.any (·.1 == flag) then none else some ((flag, state) :: others)

def settingOf (flag : Flag) (settings : FlagSettings) (default : Bool) : Bool :=
  match settings.find? (·.1 == flag) with
  | some (_, state) => state
  | none => default

def openGroup : Reader Nat := do
  let s ← get
  set { s with groups := s.groups + 1 }
  return s.groups + 1

def isGroupName : Text → Bool
  | [] => false
  | c :: t =>
    (c == '_' || Unicode.alphabeticSet.contains c) &&
      t.all fun c => "_.[]".toList.contains c || Unicode.alphanumericSet.contains c

def groupName (index : Nat) : Reader Unit := do
  let name := (← rest).takeWhile (· != '>')
  setRest ((← rest).drop name.length)
  expect '>'
  let s ← get
  if !isGroupName name || s.names.any (·.1 == name) then failure
  set { s with names := s.names ++ [(name, index)] }

inductive Opening where
  | numbered (index : Nat)
  | flagged (settings : FlagSettings)
  | directive (settings : FlagSettings)

/-- Whether a condition on what stands before or behind comes next: there are none. -/
def startsLookAround (t : Text) : Bool :=
  ["?=", "?!", "?<=", "?<!"].any fun sign => (Text.dropPrefix? sign.toList t).isSome

def opening : Reader Opening := do
  advance
  if startsLookAround (← rest) then failure
  let named ← (do if ← accept ['?', 'P', '<'] then return true else accept ['?', '<'])
  if named then
    let index ← openGroup
    groupName index
    return .numbered index
  else if ← accept ['?'] then
    let flags := (← rest).takeWhile fun c => c != ':' && c != ')'
    setRest ((← rest).drop flags.length)
    match flagsIn true flags with
    | none => failure
    | some settings =>
      if (← current) = ':' then
        bump
        return .flagged settings
      else
        bump
        if flags.isEmpty then failure
        return .directive settings
  else return .numbered (← openGroup)

def maxCount : Nat :=
  UInt32.size - 1

def count? : Reader (Option Nat) := do
  setRest ((← rest).dropWhile Unicode.isWhiteSpace)
  let digits ← advanceWhile Char.isDigit
  let _ ← advanceWhile Unicode.isWhiteSpace
  if digits.isEmpty then return none
  else if Text.decimalValue digits ≤ maxCount then return some (Text.decimalValue digits)
  else failure

def count : Reader Nat := do
  match ← count? with
  | some n => return n
  | none => failure

def bounds : Reader (Nat × Option Nat) := do
  advance
  let least ← count
  let limits ← (do
    if (← current) = ',' then
      advance
      if (← current) = '\x7d' then return (least, none)
      else return (least, some (← count))
    else return (least, some least))
  if (← current) ≠ '\x7d' then failure
  advance
  if limits.2.all (least ≤ ·) then return limits else failure

def greediness : Reader Bool := do
  return !(← accept ['?'])

def repetition (c : Char) (body : Expression) : Reader Expression := do
  match body with
  | .directive _ => failure
  | _ =>
    if c = '\x7b' then
      let (least, most) ← bounds
      return .repetition least most (← greediness) body
    else
      bump
      let greedy ← greediness
      if c = '?' then return .repetition 0 (some 1) greedy body
      else if c = '*' then return .repetition 0 none greedy body
      else return .repetition 1 none greedy body

def isRepetition (c : Char) : Bool :=
  c == '?' || c == '*' || c == '+' || c == '\x7b'

def expressionOfAtom : Atom → Expression
  | .literal l => .literal l
  | .anchor kind => .anchor kind
  | .letter kind negated => .letter kind negated
  | .unicode name negated => .unicode name negated

def item (c : Char) : Reader Expression := do
  if c = '[' then bracket
  else if c = '\\' then return expressionOfAtom (← escape)
  else
    bump
    if c = '.' then return .dot
    else if c = '^' then return .anchor .lineStart
    else if c = '$' then return .anchor .lineEnd
    else return .literal ⟨c, false⟩

mutual

/-- The items up to the end of an alternative, behind those already read, given last first. Of any
three steps in a row one reads a character, so three times the length of the text is enough. -/
def sequence (items : List Expression) : Nat → Reader Expression
  | 0 => failure
  | steps + 1 => do
    skipIgnored
    match ← peek with
    | none | some ')' | some '|' => return Expression.concatAll items.reverse
    | some '(' =>
      match ← opening with
      | .directive settings =>
        modify fun s => { s with ignoreSpace := settingOf .ignoreSpace settings s.ignoreSpace }
        sequence (.directive settings :: items) steps
      | .numbered index =>
        let body ← groupBody [] steps
        sequence (.capture index body :: items) steps
      | .flagged settings =>
        let body ← groupBody settings steps
        sequence (.group settings body :: items) steps
    | some c =>
      if isRepetition c then
        match items with
        | [] => failure
        | last :: before => sequence ((← repetition c last) :: before) steps
      else sequence ((← item c) :: items) steps

def alternatives : Nat → Reader Expression
  | 0 => failure
  | steps + 1 => do
    let first ← sequence [] steps
    if ← accept ['|'] then return .alternation first (← alternatives steps)
    else return first

/-- What stands in a group, and its end. Blanks are then ignored as they were before it. -/
def groupBody (settings : FlagSettings) : Nat → Reader Expression
  | 0 => failure
  | steps + 1 => do
    let outer := (← get).ignoreSpace
    modify fun s => { s with ignoreSpace := settingOf .ignoreSpace settings outer }
    let body ← alternatives steps
    modify fun s => { s with ignoreSpace := outer }
    expect ')'
    return body

end

end Reader

structure Pattern where
  expression : Expression
  groups : Nat
  names : List (Text × Nat)
  deriving Repr

def Pattern.parse? (t : Text) : Option Pattern := do
  let (expression, s) ← (Reader.alternatives (3 * t.length + 3)).run ⟨t, false, 0, []⟩
  if s.rest.isEmpty && expression.depth .none ≤ Expression.maxDepth then
    some ⟨expression, s.groups, s.names⟩
  else none

end Reroute.Regex
