import Reroute.Regex.Program

set_option autoImplicit false

/-!
# Matching

A program is run on a text by a list of threads, the preferred one first, which all read one
character at a time. A thread is an address and the places kept so far. No two threads of a list
have the same address: the first to get there is preferred, so the work per character is bounded by
the size of the program. The match found is the one that starts first and, of these, the one that
the earliest choices lead to.
-/

namespace Reroute.Regex

abbrev Places := Array (Option Nat)

structure Thread where
  address : Nat
  places : Places
  deriving Inhabited

structure Here where
  position : Nat
  before : Option Char
  after : Option Char

/-- The threads of one place: which addresses are taken, and the threads that wait to read or
accept, the last one first. -/
structure Frontier where
  taken : Array Bool
  threads : List Thread

namespace Frontier

def empty (program : Program) : Frontier :=
  ⟨Array.replicate program.code.size false, []⟩

/-- Follows threads until they wait to read or to accept, those in front first. Every address is
entered once and leaves at most two threads behind, which bounds the number of steps. -/
def follow (program : Program) (here : Here) : Nat → List Thread → Frontier → Frontier
  | 0, _, frontier => frontier
  | _, [], frontier => frontier
  | fuel + 1, thread :: pending, frontier =>
    if frontier.taken.getD thread.address true then follow program here fuel pending frontier
    else
      let taken := frontier.taken.setIfInBounds thread.address true
      let go (next : Nat) : Thread := { thread with address := next }
      match program.code[thread.address]? with
      | some (.jump next) => follow program here fuel (go next :: pending) { frontier with taken }
      | some (.split first second) =>
        follow program here fuel (go first :: go second :: pending) { frontier with taken }
      | some (.save slot next) =>
        let places := thread.places.setIfInBounds slot (some here.position)
        follow program here fuel (⟨next, places⟩ :: pending) { frontier with taken }
      | some (.check condition next) =>
        if condition.holds here.before here.after then
          follow program here fuel (go next :: pending) { frontier with taken }
        else follow program here fuel pending { frontier with taken }
      | some (.read _ _) | some .accept =>
        follow program here fuel pending ⟨taken, thread :: frontier.threads⟩
      | none => follow program here fuel pending { frontier with taken }

def add (program : Program) (here : Here) (frontier : Frontier) (thread : Thread) : Frontier :=
  follow program here (2 * program.code.size + 2) [thread] frontier

end Frontier

/-- One step of the threads over the character `c`, to the place `there`. A thread that accepts ends
the step: those behind it are less preferred than its match. -/
def stepThreads (program : Program) (c : Char) (there : Here) :
    List Thread → Frontier → Frontier × Option Places
  | [], next => (next, none)
  | thread :: rest, next =>
    match program.code[thread.address]? with
    | some (.read members target) =>
      if members.contains c then
        stepThreads program c there rest (next.add program there ⟨target, thread.places⟩)
      else stepThreads program c there rest next
    | some .accept => (next, some thread.places)
    | _ => stepThreads program c there rest next

def accepted (program : Program) (threads : List Thread) : Option Places :=
  (threads.find? fun thread =>
    match program.code[thread.address]? with
    | some .accept => true
    | _ => false).map Thread.places

/-- Runs the threads over the rest of a text. As long as no match is known, a new thread starts at
every place, behind all others. -/
def run (program : Program) (here : Here) (frontier : Frontier) (found : Option Places) :
    Text → Option Places
  | [] =>
    let frontier := start frontier
    (accepted program frontier.threads.reverse).or found
  | c :: rest =>
    let frontier := start frontier
    if frontier.threads.isEmpty && found.isSome then found
    else
      let there : Here := ⟨here.position + 1, some c, rest.head?⟩
      let (next, place) :=
        stepThreads program c there frontier.threads.reverse (.empty program)
      run program there next (place.or found) rest
where
  start (frontier : Frontier) : Frontier :=
    if found.isSome then frontier
    else frontier.add program here ⟨0, Array.replicate program.slots none⟩

def Program.search (program : Program) (position : Nat) (before : Option Char) (t : Text) :
    Option Places :=
  run program ⟨position, before, t.head?⟩ (.empty program) none t

end Reroute.Regex
