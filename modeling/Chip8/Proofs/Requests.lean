import Chip8.Machine.History
import Chip8.Proofs.Effects

namespace Chip8

namespace State

def Ignores (s : State) : Call → Prop
  | .load program => Layout.programCapacity < program.length
  | .cycle => True
  | .press number | .release number => 16 ≤ number.toNat
  | .tick => False
  | .takeFrame => s.redraw = false

/-- The states that a request leads to when it executes nothing. -/
inductive Serves (s : State) : Call → State → Prop where
  | kept {c : Call} (ignored : s.Ignores c) : Serves s c s
  | loaded {program : List UInt8} (fits : program.length ≤ Layout.programCapacity) :
    Serves s (.load program) { s with memory := s.memory.write (UInt16.ofNat Layout.programStart) program }
  | pressed {number : UInt8} {k : Key} (named : number.toNat = k.val)
    (inert : s.keys[k] = false → s.waiting = none) :
    Serves s (.press number) { s with keys := s.keys.put k true }
  | answered {number : UInt8} {k : Key} {x : Register} (named : number.toNat = k.val) (up : s.keys[k] = false)
    (waits : s.waiting = some x) :
    Serves s (.press number)
      { s with keys := s.keys.put k true, v := s.v.put x (UInt8.ofNat k.val), waiting := none }
  | released {number : UInt8} {k : Key} (named : number.toNat = k.val) :
    Serves s (.release number) { s with keys := s.keys.put k false }
  | ticked :
    Serves s .tick
      { s with
        delay := if s.delay = 0 then 0 else s.delay - 1
        sound := if s.sound = 0 then 0 else s.sound - 1 }
  | taken (changed : s.redraw = true) : Serves s .takeFrame { s with redraw := false }

end State

namespace Machine

/-- The result of a cycle with the machine that it leaves. -/
inductive Cycles (m : Machine) : Except Fault Step → Machine → Prop where
  | blocked {x : Register} (waiting : m.state.waiting = some x) : Cycles m (.ok .blocked) m
  | undecoded (awake : m.state.waiting = none) (unknown : Instruction.decode? m.state.fetched.opcode = none) :
    Cycles m (.error (.unknownOpcode m.state.fetched.opcode m.state.pc)) m
  | faulted {ins : Instruction} {fault : Fault} (awake : m.state.waiting = none)
    (decoded : Instruction.decode? m.state.fetched.opcode = some ins)
    (faulted : ins.effect m.dialect m.random m.state.fetched = .error fault) : Cycles m (.error fault) m
  | executed {ins : Instruction} {t : State} (awake : m.state.waiting = none)
    (decoded : Instruction.decode? m.state.fetched.opcode = some ins)
    (effect : ins.effect m.dialect m.random m.state.fetched = .ok t) :
    Cycles m (.ok (.executed ins))
      { m with state := t, random := if ins.draws then m.random.advance else m.random }

theorem cycles {m m' : Machine} {result : Except Fault Step} (cycled : m.cycle = (result, m')) :
    m.Cycles result m' := by
  unfold cycle at cycled
  cases waiting : m.state.waiting with
  | some x =>
    simp only [waiting, Option.isSome_some, if_true] at cycled
    cases cycled
    exact .blocked waiting
  | none =>
    simp only [waiting, Option.isSome_none, Bool.false_eq_true, if_false, Instruction.decode] at cycled
    cases decoded : Instruction.decode? m.state.fetched.opcode with
    | none =>
      simp only [decoded] at cycled
      cases cycled
      exact .undecoded waiting decoded
    | some ins =>
      simp only [decoded, Instruction.attempt] at cycled
      cases effect : ins.effect m.dialect m.random m.state.fetched with
      | error fault =>
        have undrawn := Instruction.draws_eq_false_of_effect_eq_error effect
        simp only [effect, undrawn, Bool.false_eq_true, if_false] at cycled
        cases cycled
        exact .faulted waiting decoded effect
      | ok t =>
        simp only [effect] at cycled
        cases cycled
        exact .executed waiting decoded effect

theorem Cycles.cycle_eq {m m' : Machine} {result : Except Fault Step} (cycles : m.Cycles result m') :
    m.cycle = (result, m') := by
  cases cycles with
  | blocked waiting => simp [cycle, waiting]
  | undecoded awake unknown => simp [cycle, awake, Instruction.decode, unknown]
  | faulted awake decoded faulted =>
    have undrawn := Instruction.draws_eq_false_of_effect_eq_error faulted
    simp [cycle, awake, Instruction.decode, decoded, Instruction.attempt, faulted, undrawn]
  | executed awake decoded effect =>
    simp [cycle, awake, Instruction.decode, decoded, Instruction.attempt, effect]

theorem key?_of_named {number : UInt8} {k : Key} (named : number.toNat = k.val) : key? number = .ok k := by
  simp only [key?, named, k.isLt, dite_true]

theorem serves_onKey {m : Machine} {act : Machine → Key → Machine} {number : UInt8} {c : Call}
    (acted : ∀ k : Key, number.toNat = k.val → ∃ t, m.state.Serves c t ∧ act m k = { m with state := t })
    (ignored : 16 ≤ number.toNat → m.state.Ignores c) :
    ∃ t, m.state.Serves c t ∧ (m.onKey act number).2 = { m with state := t } := by
  unfold onKey key?
  by_cases named : number.toNat < 16
  · simp only [named, dite_true]
    exact acted _ rfl
  · simp only [named, dite_false]
    exact ⟨m.state, .kept (ignored (by omega)), rfl⟩

theorem serves_keyDown (m : Machine) {number : UInt8} {k : Key} (named : number.toNat = k.val) :
    ∃ t, m.state.Serves (.press number) t ∧ m.keyDown k = { m with state := t } := by
  unfold keyDown
  dsimp only
  split
  · rename_i x up waits
    exact ⟨_, .answered named up waits, rfl⟩
  · rename_i inert
    refine ⟨_, .pressed named ?_, rfl⟩
    intro up
    cases waits : m.state.waiting with
    | none => rfl
    | some x => exact absurd waits (inert x up)

theorem serves_perform {m : Machine} {c : Call} (other : c ≠ .cycle) :
    ∃ t, m.state.Serves c t ∧ (m.perform c).2 = { m with state := t } := by
  cases c with
  | cycle => exact absurd rfl other
  | load program =>
    by_cases fits : program.length ≤ Layout.programCapacity
    · exact ⟨_, .loaded fits, by simp [perform, load, fits]⟩
    · exact ⟨_, .kept (Nat.not_le.mp fits), by simp [perform, load, fits]⟩
  | press number => exact serves_onKey (fun k named => serves_keyDown m named) id
  | release number => exact serves_onKey (fun k named => ⟨_, .released named, rfl⟩) id
  | tick => exact ⟨_, .ticked, rfl⟩
  | takeFrame =>
    cases redraw : m.state.redraw with
    | true => exact ⟨_, .taken redraw, by simp [perform, takeFrame, redraw]⟩
    | false => exact ⟨_, .kept redraw, by simp [perform, takeFrame, redraw]⟩

theorem perform_of_serves {m : Machine} {c : Call} {t : State} (serves : m.state.Serves c t) (other : c ≠ .cycle) :
    (m.perform c).2 = { m with state := t } := by
  cases serves with
  | kept ignored =>
    cases c with
    | load program =>
      have large : ¬program.length ≤ Layout.programCapacity := Nat.not_le.mpr ignored
      simp [perform, load, large]
    | cycle => exact absurd rfl other
    | press number | release number =>
      have unnamed : ¬number.toNat < 16 := Nat.not_lt.mpr ignored
      simp [perform, press, release, onKey, key?, unnamed]
    | tick => exact absurd ignored id
    | takeFrame =>
      have unchanged : m.state.redraw = false := ignored
      simp [perform, takeFrame, unchanged]
  | loaded fits => simp [perform, load, fits]
  | @pressed number k named inert =>
    simp only [perform, press, onKey, key?_of_named named, keyDown, Prod.map_snd, id_eq]
    cases down : m.state.keys[k] with
    | true => rfl
    | false => simp [inert down]
  | answered named up waits =>
    simp only [perform, press, onKey, key?_of_named named, keyDown, up, waits, Prod.map_snd, id_eq]
    rfl
  | released named =>
    simp only [perform, release, onKey, key?_of_named named]
    rfl
  | ticked => rfl
  | taken changed => simp [perform, takeFrame, changed]

theorem perform_load (m : Machine) (program : List UInt8) :
    m.perform (.load program) =
      if program.length ≤ 3584 then
        (.done, { m with state := { m.state with memory := m.state.memory.write (UInt16.ofNat 0x200) program } })
      else (.fault (.programTooLong program.length), m) := by
  show (m.load program).map Reply.ofUnit id = _
  by_cases fits : program.length ≤ Layout.programCapacity
  · have short : program.length ≤ 3584 := fits
    rw [load, if_pos fits, if_pos short]
    rfl
  · have large : ¬program.length ≤ 3584 := fits
    rw [load, if_neg fits, if_neg large]
    rfl

theorem executed?_eq_none {m : Machine} {c : Call} (other : c ≠ .cycle) :
    Exchange.executed? ⟨m, c, (m.perform c).1⟩ = none := by
  have settled (result : Except Fault Unit) : Exchange.executed? ⟨m, c, Reply.ofUnit result⟩ = none := by
    cases result <;> rfl
  cases c with
  | cycle => exact absurd rfl other
  | load program => exact settled (m.load program).1
  | press number => exact settled (m.press number).1
  | release number => exact settled (m.release number).1
  | tick => rfl
  | takeFrame => rfl

theorem executed?_eq_some_iff {e : Exchange} {s : State} {ins : Instruction} :
    e.executed? = some (s, ins) ↔ e.reply = .stepped (.executed ins) ∧ e.before.state.fetched = s := by
  unfold Exchange.executed?
  split
  · rename_i ins' replied
    simp [replied, and_comm]
  · rename_i other
    have unexecuted : e.reply ≠ .stepped (.executed ins) := other ins
    simp [unexecuted]

theorem perform_cycle_eq_stepped_iff {m : Machine} {step : Step} :
    (m.perform .cycle).1 = .stepped step ↔ m.cycle.1 = .ok step := by
  show Reply.ofStep m.cycle.1 = .stepped step ↔ m.cycle.1 = .ok step
  cases m.cycle.1 <;> simp [Reply.ofStep]

theorem perform_cases (m : Machine) (c : Call) :
    (Exchange.executed? ⟨m, c, (m.perform c).1⟩ = none ∧
      ∃ t, m.state.Serves c t ∧ (m.perform c).2 = { m with state := t }) ∨
    ∃ ins t, Exchange.executed? ⟨m, c, (m.perform c).1⟩ = some (m.state.fetched, ins) ∧ c = .cycle ∧
      m.state.waiting = none ∧ Instruction.decode? m.state.fetched.opcode = some ins ∧
      ins.effect m.dialect m.random m.state.fetched = .ok t ∧
      (m.perform c).2 = { m with state := t, random := if ins.draws then m.random.advance else m.random } := by
  by_cases isCycle : c = .cycle
  · subst isCycle
    unfold perform
    cases cycled : m.cycle with
    | mk result m' =>
      cases cycles cycled with
      | blocked waiting => exact .inl ⟨rfl, m.state, .kept trivial, rfl⟩
      | undecoded awake unknown => exact .inl ⟨rfl, m.state, .kept trivial, rfl⟩
      | faulted awake decoded faulted => exact .inl ⟨rfl, m.state, .kept trivial, rfl⟩
      | executed awake decoded effect => exact .inr ⟨_, _, rfl, rfl, awake, decoded, effect, rfl⟩
  · exact .inl ⟨executed?_eq_none isCycle, serves_perform isCycle⟩

theorem perform_of_executed {m : Machine} {c : Call} {ins : Instruction}
    (executed : (m.perform c).1 = .stepped (.executed ins)) :
    m.state.waiting = none ∧ Instruction.decode? m.state.fetched.opcode = some ins ∧
      ∃ t, ins.effect m.dialect m.random m.state.fetched = .ok t ∧
        (m.perform c).2 = { m with state := t, random := if ins.draws then m.random.advance else m.random } := by
  have found := executed?_eq_some_iff (e := ⟨m, c, (m.perform c).1⟩) |>.mpr ⟨executed, rfl⟩
  rcases perform_cases m c with ⟨idle, _⟩ | ⟨ins', t, executed', _, awake, decoded, effect, after⟩
  · rw [idle] at found
    cases found
  · rw [executed'] at found
    cases found
    exact ⟨awake, decoded, t, effect, after⟩

theorem executions_cons (m : Machine) (c : Call) (calls : List Call) :
    m.executions (c :: calls) =
      (Exchange.executed? ⟨m, c, (m.perform c).1⟩).toList ++ (m.perform c).2.executions calls := by
  rw [executions, history, List.filterMap_cons]
  cases Exchange.executed? ⟨m, c, (m.perform c).1⟩ <;> rfl

theorem history_append (m : Machine) (first second : List Call) :
    m.history (first ++ second) = m.history first ++ (m.after first).history second := by
  induction first generalizing m with
  | nil => rfl
  | cons c first ih =>
    rw [List.cons_append, history, history, ih]
    rfl

theorem executions_append (m : Machine) (first second : List Call) :
    m.executions (first ++ second) = m.executions first ++ (m.after first).executions second := by
  simp [executions, history_append]

theorem executions_of_no_cycle {m : Machine} {calls : List Call} (idle : .cycle ∉ calls) :
    m.executions calls = [] := by
  induction calls generalizing m with
  | nil => rfl
  | cons c calls ih =>
    have other : c ≠ .cycle := fun same => idle (same ▸ .head calls)
    rw [executions_cons, executed?_eq_none other, ih fun member => idle (.tail c member)]
    rfl

theorem history_concat (m : Machine) (calls : List Call) (c : Call) :
    m.history (calls ++ [c]) = m.history calls ++ [⟨m.after calls, c, ((m.after calls).perform c).1⟩] :=
  history_append m calls [c]

theorem reply_of_mem_history {m : Machine} {calls : List Call} {e : Exchange} (member : e ∈ m.history calls) :
    e.reply = (e.before.perform e.call).1 := by
  induction calls generalizing m with
  | nil => cases member
  | cons c calls ih =>
    rcases List.mem_cons.mp member with rfl | later
    · rfl
    · exact ih later

theorem call_of_mem_history {m : Machine} {calls : List Call} {e : Exchange} (member : e ∈ m.history calls) :
    e.call ∈ calls := by
  induction calls generalizing m with
  | nil => cases member
  | cons c calls ih =>
    rcases List.mem_cons.mp member with rfl | later
    · exact .head calls
    · exact .tail c (ih later)

/-- The machines that a host can come to have. -/
inductive Reachable : Machine → Prop where
  | start (d : Dialect) (r : RandomSource) : Reachable (start d r)
  | perform {m : Machine} (reached : Reachable m) (c : Call) : Reachable (m.perform c).2

theorem Reachable.after {m : Machine} (reached : m.Reachable) (calls : List Call) : (m.after calls).Reachable := by
  induction calls generalizing m with
  | nil => exact reached
  | cons c calls ih => exact ih (reached.perform c)

end Machine

end Chip8
