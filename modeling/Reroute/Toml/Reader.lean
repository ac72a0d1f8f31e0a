import Reroute.Toml.Scalar

set_option autoImplicit false

namespace Reroute.Toml

abbrev Reader := StateT Text Option

def isBlank (c : Char) : Bool :=
  c == ' ' || c == '\t'

/-- The characters that may stand in comments and in text on one line: all but control
characters, except for the tab. -/
def isTextChar (c : Char) : Bool :=
  c == '\t' || (' ' ≤ c && c != '\x7f')

def isBareKeyChar (c : Char) : Bool :=
  c.isAlphanum || c == '_' || c == '-'

def isScalarChar (c : Char) : Bool :=
  c.isAlphanum || c == '_' || c == '-' || c == '+' || c == '.' || c == ':'

namespace Reader

def accept (t : Text) : Reader Bool := do
  match Text.dropPrefix? t (← get) with
  | some rest =>
    set rest
    return true
  | none => return false

def expect (t : Text) : Reader Unit := do
  if !(← accept t) then failure

def skipBlanks : Reader Unit :=
  modify fun t => t.dropWhile isBlank

def takeWhile (member : Char → Bool) : Reader Text := do
  let taken := (← get).takeWhile member
  modify fun t => t.drop taken.length
  return taken

def lineEnd : Reader Unit := do
  skipBlanks
  if ← accept ['#'] then
    let _ ← takeWhile isTextChar
  match ← get with
  | [] => return
  | '\n' :: rest | '\r' :: '\n' :: rest => set rest
  | _ => failure

def dropFiller (inComment : Bool) : Text → Text
  | [] => []
  | '\r' :: '\n' :: t => dropFiller false t
  | c :: t =>
    if inComment && isTextChar c then dropFiller true t
    else if isBlank c || c = '\n' then dropFiller false t
    else if c = '#' then dropFiller true t
    else c :: t

def skipFiller : Reader Unit :=
  modify (dropFiller false)

def hexDigit? (c : Char) : Option Nat :=
  if c.isAlphanum && digitOf c < 16 then some (digitOf c) else none

def hexChar (width : Nat) : Reader Char := do
  let t ← get
  set (t.drop width)
  match (t.take width).mapM hexDigit? with
  | none => failure
  | some digits =>
    let code := digits.foldl (fun n d => n * 16 + d) 0
    if digits.length = width ∧ code.isValidChar then return Char.ofNat code else failure

def escape : Reader Char := do
  match ← get with
  | [] => failure
  | c :: rest =>
    set rest
    match c with
    | 'b' => return '\x08'
    | 't' => return '\t'
    | 'n' => return '\n'
    | 'f' => return '\x0c'
    | 'r' => return '\r'
    | 'e' => return '\x1b'
    | '\x22' => return '\x22'
    | '\\' => return '\\'
    | 'x' => hexChar 2
    | 'u' => hexChar 4
    | 'U' => hexChar 8
    | _ => failure

def basicBody : Nat → Reader Text
  | 0 => failure
  | steps + 1 => do
    match ← get with
    | [] => failure
    | c :: rest =>
      set rest
      if c = '\x22' then return []
      else if c = '\\' then return (← escape) :: (← basicBody steps)
      else if isTextChar c then return c :: (← basicBody steps)
      else failure

def literalBody : Reader Text := do
  let body ← takeWhile fun c => isTextChar c && c != '\x27'
  expect ['\x27']
  return body

/-- What follows a backslash at the end of a line: the line end and all blanks and line ends
behind it are dropped. -/
def continuation? (t : Text) : Option Text :=
  match t.dropWhile isBlank with
  | '\n' :: rest | '\r' :: '\n' :: rest => some (dropBlankLines rest)
  | _ => none
where
  dropBlankLines : Text → Text
    | [] => []
    | '\r' :: '\n' :: t => dropBlankLines t
    | c :: t => if isBlank c || c = '\n' then dropBlankLines t else c :: t

/-- The rest of a string on several lines. Three quotes in a row end it; up to two more in front of
them belong to it. -/
def longBody (quote : Char) (escapes : Bool) : Nat → Reader Text
  | 0 => failure
  | steps + 1 => do
    match ← get with
    | [] => failure
    | '\r' :: '\n' :: rest =>
      set rest
      return '\r' :: '\n' :: (← longBody quote escapes steps)
    | c :: rest =>
      if c = quote then
        let run := min 5 ((c :: rest).takeWhile (· == quote)).length
        set ((c :: rest).drop run)
        if 3 ≤ run then return List.replicate (run - 3) quote
        else return List.replicate run quote ++ (← longBody quote escapes steps)
      else
        set rest
        if escapes && c = '\\' then
          match continuation? rest with
          | some after =>
            set after
            longBody quote escapes steps
          | none => return (← escape) :: (← longBody quote escapes steps)
        else if isTextChar c || c = '\n' then return c :: (← longBody quote escapes steps)
        else failure

/-- A string on several lines, from behind its opening quotes. A line end right there is dropped. -/
def longString (quote : Char) (escapes : Bool) : Reader Text := do
  match ← get with
  | '\n' :: rest | '\r' :: '\n' :: rest => set rest
  | _ => pure ()
  longBody quote escapes ((← get).length + 1)

def string? : Reader (Option Text) := do
  if ← accept ['\x22', '\x22', '\x22'] then return some (← longString '\x22' true)
  else if ← accept ['\x27', '\x27', '\x27'] then return some (← longString '\x27' false)
  else if ← accept ['\x22'] then return some (← basicBody ((← get).length + 1))
  else if ← accept ['\x27'] then return some (← literalBody)
  else return none

def key : Reader Text := do
  if ← accept ['\x22'] then basicBody ((← get).length + 1)
  else if ← accept ['\x27'] then literalBody
  else
    let name ← takeWhile isBareKeyChar
    if name.isEmpty then failure else return name

def keyPathFrom : Nat → Reader (List Text)
  | 0 => failure
  | steps + 1 => do
    skipBlanks
    let first ← key
    skipBlanks
    if ← accept ['.'] then return first :: (← keyPathFrom steps)
    else return [first]

def keyPath : Reader (List Text) := do
  keyPathFrom ((← get).length + 1)

/-- The word of a number, a date or a truth value. A blank may stand between a date and a time. -/
def scalarWord : Reader Text := do
  let word ← takeWhile isScalarChar
  if afterDate? word == some [] then
    match ← get with
    | ' ' :: c :: rest =>
      if c.isDigit then
        set (c :: rest)
        return word ++ ' ' :: (← takeWhile isScalarChar)
      else return word
    | _ => return word
  else return word

end Reader

end Reroute.Toml
