import Chip8.Host.Loop
import Chip8.Machine.Checked

namespace Chip8.Host

def timeRange : Nat := UInt64.size * second

namespace Clock

def advanceChecked (c : Clock) (time : Nat) : Checked Clock := do
  let now ← Checked.add timeRange c.now time
  return { c with now }

def collectChecked (period : Nat) (positive : 0 < period) (c : Clock) : Checked (Nat × Clock) :=
  if c.now < c.nextTick then return (0, c)
  else
    match _ : Checked.add timeRange c.nextTick period with
    | .ok nextTick => do
      let (due, later) ← collectChecked period positive { c with nextTick }
      return (due + 1, later)
    | .error trap => throw trap
termination_by c.now + 1 - c.nextTick
decreasing_by
  have next := Checked.eq_of_add ‹_›
  omega

def waitChecked (c : Clock) : Option Nat → Checked Nat
  | some outside => if outside < c.now then Checked.sub c.now outside else return 0
  | none => return 0

end Clock

namespace Loop

/-- What a turn makes of the loop when its instructions, and the seconds of a time, are counted in 64 bits. A clock
    outside shows `outside` after so many instructions, if the loop is to wait for it. -/
def settleChecked (p : Pace) (outside : Nat → Option Nat) (l : Loop) (m : Machine) : Checked Loop := do
  let executed ← Checked.add UInt64.size l.executed 1
  let advanced ← l.clock.advanceChecked (instructionTime p.rate)
  let (due, clock) ← advanced.collectChecked timerPeriod timerPeriod_pos
  let machine := Nat.repeat Machine.tick due m.takeFrame.2
  let _wait ← clock.waitChecked (outside executed)
  return { machine, clock, executed, beeping := machine.beeping }

def turnChecked (p : Pace) (outside : Nat → Option Nat) (l : Loop) : Checked (Loop × Option Ending) :=
  if p.reached l.executed then return (l, some (.stopped .limit))
  else
    match l.machine.cycle with
    | (.ok (.executed _), machine) => return (← l.settleChecked p outside machine, none)
    | (.ok .blocked, machine) => return ({ l with machine }, some (.stopped .blocked))
    | (.error fault, machine) => return ({ l with machine }, some (.faulted fault))

def followChecked (p : Pace) (outside : Nat → Option Nat) : Nat → Loop → Checked (Loop × Option Ending)
  | 0, l => return (l, none)
  | fuel + 1, l => do
    match ← l.turnChecked p outside with
    | (l', none) => followChecked p outside fuel l'
    | (l', some ending) => return (l', some ending)

end Loop

end Chip8.Host
