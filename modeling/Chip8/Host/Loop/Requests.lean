import Chip8.Host.Loop
import Chip8.Machine.History

namespace Chip8.Host.Loop

def calls (p : Pace) (l : Loop) : List Call := .cycle :: .takeFrame :: List.replicate (l.ticked p).1 .tick

/-- What the turns that `follow` takes ask of the machine. A turn that ends the loop asks for a cycle, unless it
    ends at the limit. -/
def requests (p : Pace) : Nat → Loop → List Call
  | 0, _ => []
  | fuel + 1, l =>
    match l.turn p with
    | (l', none) => l.calls p ++ requests p fuel l'
    | (_, some _) => if p.reached l.executed then [] else [.cycle]

theorem turn_eq_settle {p : Pace} {l l' : Loop} (h : l.turn p = (l', none)) :
    ∃ ins m, l.machine.cycle = (.ok (.executed ins), m) ∧ l' = l.settle p m := by
  unfold turn at h
  split at h
  · cases h
  · split at h
    · rename_i ins m cycled
      cases h
      exact ⟨ins, m, cycled, rfl⟩
    · cases h
    · cases h

theorem machine_settle (p : Pace) (l : Loop) (m : Machine) :
    (l.settle p m).machine = Nat.repeat Machine.tick (l.ticked p).1 m.takeFrame.2 := rfl

theorem machine_turn {p : Pace} {l l' : Loop} (h : l.turn p = (l', none)) :
    l'.machine = l.machine.after (l.calls p) := by
  obtain ⟨ins, m, cycled, rfl⟩ := turn_eq_settle h
  have performed : (l.machine.perform .cycle).2 = m := by
    simp only [Machine.perform, cycled, Prod.map_apply, id_eq]
  rw [machine_settle, calls, Machine.after_cons, Machine.after_cons, Machine.after_ticks, performed]
  rfl

theorem machine_turn_ending {p : Pace} {l l' : Loop} {ending : Ending} (h : l.turn p = (l', some ending)) :
    l'.machine = l.machine.after (if p.reached l.executed then [] else [.cycle]) := by
  unfold turn at h
  split at h
  · rename_i reached
    cases h
    rw [if_pos reached, Machine.after_nil]
  · rename_i unreached
    rw [if_neg unreached, Machine.after_cons, Machine.after_nil, Machine.perform]
    split at h
    · cases h
    · rename_i m cycled
      cases h
      rw [cycled]
      rfl
    · rename_i fault m cycled
      cases h
      rw [cycled]
      rfl

theorem machine_follow (p : Pace) (fuel : Nat) (l : Loop) :
    (l.follow p fuel).1.machine = l.machine.after (l.requests p fuel) := by
  induction fuel generalizing l with
  | zero => rfl
  | succ fuel ih =>
    unfold follow requests
    cases turned : l.turn p with
    | mk l' ending =>
      cases ending with
      | none => simp only [ih, machine_turn turned, Machine.after_append]
      | some ending => exact machine_turn_ending turned

end Chip8.Host.Loop
