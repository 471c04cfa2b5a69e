import Chip8.Host.Clock
import Chip8.Machine.Calls

namespace Chip8.Host

structure Pace where
  rate : UInt64
  limit : Option UInt64
deriving DecidableEq

structure Loop where
  machine : Machine
  clock : Clock
  executed : Nat
  /-- Whether there was sound at the end of the last turn. -/
  beeping : Bool

inductive Stop where
  | limit
  | blocked
deriving DecidableEq

inductive Ending where
  | stopped (why : Stop)
  | faulted (fault : Fault)
deriving DecidableEq

namespace Pace

def reached (p : Pace) (executed : Nat) : Bool :=
  match p.limit with
  | some limit => limit.toNat ≤ executed
  | none => false

end Pace

namespace Loop

def start (m : Machine) : Loop := ⟨m, Clock.zero, 0, false⟩

def ticked (p : Pace) (l : Loop) : Nat × Clock :=
  (l.clock.advance (instructionTime p.rate)).collect timerPeriod timerPeriod_pos

def settle (p : Pace) (l : Loop) (m : Machine) : Loop :=
  let (due, clock) := l.ticked p
  let machine := Nat.repeat Machine.tick due m.takeFrame.2
  { machine, clock, executed := l.executed + 1, beeping := machine.beeping }

/-- One turn of the loop, and how the loop ends if it does in that turn, which is before the cycle where the
    limit is reached. -/
def turn (p : Pace) (l : Loop) : Loop × Option Ending :=
  if p.reached l.executed then (l, some (.stopped .limit))
  else
    match l.machine.cycle with
    | (.ok (.executed _), machine) => (l.settle p machine, none)
    | (.ok .blocked, machine) => ({ l with machine }, some (.stopped .blocked))
    | (.error fault, machine) => ({ l with machine }, some (.faulted fault))

def turnEvents (p : Pace) (l : Loop) : List Event :=
  if p.reached l.executed then []
  else
    l.machine.cycleEvents ++
      match l.machine.cycle with
      | (.ok (.executed _), m) =>
        let l' := l.settle p m
        (if m.takeFrame.1.isSome then [.frameUpdated l'.executed] else []) ++
          if l'.beeping = l.beeping then [] else [.sound l'.beeping]
      | (.ok .blocked, _) => [.blocked l.executed]
      | (.error _, _) => []

def follow (p : Pace) : Nat → Loop → Loop × Option Ending
  | 0, l => (l, none)
  | fuel + 1, l =>
    match l.turn p with
    | (l', none) => follow p fuel l'
    | (l', some ending) => (l', some ending)

def eventsOnto (p : Pace) : Nat → Loop → List Event → List Event
  | 0, _, noted => noted
  | fuel + 1, l, noted =>
    let noted := (l.turnEvents p).reverse ++ noted
    match l.turn p with
    | (l', none) => eventsOnto p fuel l' noted
    | (_, some _) => noted

def events (p : Pace) (fuel : Nat) (l : Loop) : List Event := (eventsOnto p fuel l []).reverse

end Loop

end Chip8.Host
