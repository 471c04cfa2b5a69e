import Chip8.Proofs.Outcomes
import Chip8.Proofs.TakenFrames
import Mathlib.Data.List.Chain

namespace Chip8

namespace Event

end Event

namespace Machine

variable {m : Machine}

theorem redraw_takeFrame (m : Machine) : m.takeFrame.2.state.redraw = false := by
  unfold takeFrame
  cases redraw : m.state.redraw with
  | true => rfl
  | false => exact redraw

theorem redraw_ticks (n : Nat) (m : Machine) : (Nat.repeat tick n m).state.redraw = m.state.redraw := by
  induction n with
  | zero => rfl
  | succ n ih => exact ih

end Machine

namespace Host

namespace Loop

variable {p : Pace} {m : Machine} {l l' : Loop} {fuel k : Nat}

/-- A loop on a machine that follows the schedule and owes its host neither a frame nor a change of the sound. -/
structure Along (p : Pace) (m : Machine) (l : Loop) : Prop where
  onTime : l.OnTime p
  machine : l.machine = m.after (schedule p.rate l.executed)
  clean : l.machine.state.redraw = false
  beeping : l.beeping = l.machine.beeping

theorem Along.start (p : Pace) (clean : m.state.redraw = false) (silent : m.beeping = false) :
    Along p m (start m) :=
  ⟨OnTime.start p m, rfl, clean, silent.symm⟩

theorem Along.turn (along : Along p m l) (turned : l.turn p = (l', none)) : Along p m l' := by
  have later : l'.OnTime p := along.onTime.turn turned
  have machine : l'.machine = m.after (schedule p.rate l'.executed) := by
    rw [machine_turn turned, executed_turn turned, along.machine, schedule, Machine.after_append, calls,
      along.onTime.ticked]
  obtain ⟨ins, m', _, rfl⟩ := turn_eq_settle turned
  refine ⟨later, machine, ?_, rfl⟩
  rw [machine_settle, Machine.redraw_ticks, Machine.redraw_takeFrame]

end Loop

namespace Session

open Loop

variable {c : Setup} {outside : RandomSource} {reading : Reading} {m : Machine}

end Session

end Host

end Chip8
