import Reroute.Regex.Weight

set_option autoImplicit false

namespace Reroute.Regex

inductive Instruction where
  | read (members : CharSet) (next : Nat)
  | check (condition : Look) (next : Nat)
  | save (slot next : Nat)
  | split (first second : Nat)
  | jump (next : Nat)
  | accept
  deriving Repr, Inhabited

namespace Instruction

def choice (greedy : Bool) (body leave : Nat) : Instruction :=
  if greedy then .split body leave else .split leave body

end Instruction

namespace Node

def repSize (least : Nat) (most : Option Nat) (body : Nat) : Nat :=
  match most with
  | some most => least * body + (most - least) * (body + 1)
  | none => if least = 0 then body + 2 else least * body + 1

def size : Node → Nat
  | .empty => 0
  | .set _ | .look _ => 1
  | .cat a b => a.size + b.size
  | .alt a b => a.size + b.size + 2
  | .group _ n => n.size + 2
  | .rep least most _ n => repSize least most n.size

/-- `count` copies of the code that `place` puts at an address, one behind the other. -/
def copies (place : Nat → List Instruction) (body count address : Nat) : List Instruction :=
  (List.range count).flatMap fun i => place (address + i * body)

/-- The code of a repetition. Without an upper limit the last copy is a loop; a body that may match
the empty text is then entered by a choice of its own, so that an empty round does not hide the way
out. With an upper limit each further copy may be left out, and all after it. -/
def repCode (place : Nat → List Instruction) (least : Nat) (most : Option Nat) (greedy nullable : Bool)
    (body address : Nat) : List Instruction :=
  match most with
  | some most =>
    let start := address + least * body
    let stop := start + (most - least) * (body + 1)
    copies place body least address ++
      copies (fun a => .choice greedy (a + 1) stop :: place (a + 1)) (body + 1) (most - least) start
  | none =>
    if least = 0 then
      let stop := address + body + 2
      if nullable then
        .choice greedy (address + 1) stop :: place (address + 1) ++ [.choice greedy (address + 1) stop]
      else .choice greedy (address + 1) stop :: place (address + 1) ++ [.jump address]
    else
      let last := address + (least - 1) * body
      copies place body least address ++ [.choice greedy last (address + least * body + 1)]

def code : Node → Nat → List Instruction
  | .empty, _ => []
  | .set members, address => [.read members (address + 1)]
  | .look condition, address => [.check condition (address + 1)]
  | .cat a b, address => a.code address ++ b.code (address + a.size)
  | .alt a b, address =>
    let second := address + a.size + 2
    .split (address + 1) second ::
      (a.code (address + 1) ++ .jump (second + b.size) :: b.code second)
  | .group index n, address =>
    .save (2 * index) (address + 1) ::
      (n.code (address + 1) ++ [.save (2 * index + 1) (address + n.size + 2)])
  | .rep least most greedy n, address =>
    repCode n.code least most greedy n.nullable n.size address

end Node

/-- A compiled expression. Slot `2 * i` holds the start of group `i` and slot `2 * i + 1` its end;
group 0 is the whole match. -/
structure Program where
  code : Array Instruction
  slots : Nat
  deriving Inhabited

def Program.ofNode? (tree : Node) (groups : Nat) : Option Program :=
  let whole : Node := .group 0 tree
  if whole.isLight then
    some ⟨(whole.code 0 ++ [Instruction.accept]).toArray, 2 * (groups + 1)⟩
  else none

end Reroute.Regex
