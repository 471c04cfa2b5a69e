import Chip8.Machine.Calls

namespace Chip8

namespace Machine

def after (m : Machine) (calls : List Call) : Machine := calls.foldl (fun m c => (m.perform c).2) m

@[simp]
theorem after_nil (m : Machine) : m.after [] = m := rfl

@[simp]
theorem after_cons (m : Machine) (c : Call) (calls : List Call) :
    m.after (c :: calls) = (m.perform c).2.after calls := rfl

theorem after_append (m : Machine) (first second : List Call) :
    m.after (first ++ second) = (m.after first).after second := by
  simp [after]

theorem after_ticks (m : Machine) (n : Nat) : m.after (List.replicate n .tick) = Nat.repeat tick n m := by
  induction n with
  | zero => rfl
  | succ n ih => rw [List.replicate_succ', after_append, ih]; rfl

end Machine

/-- One request in the history of a machine: the machine it was made of, and what came back. -/
structure Exchange where
  before : Machine
  call : Call
  reply : Reply

namespace Exchange

def executed? (e : Exchange) : Option (State × Instruction) :=
  match e.reply with
  | .stepped (.executed ins) => some (e.before.state.fetched, ins)
  | _ => none

end Exchange

namespace Machine

def history (m : Machine) : List Call → List Exchange
  | [] => []
  | c :: calls => ⟨m, c, (m.perform c).1⟩ :: history (m.perform c).2 calls

def executions (m : Machine) (calls : List Call) : List (State × Instruction) :=
  (m.history calls).filterMap Exchange.executed?

end Machine

end Chip8
