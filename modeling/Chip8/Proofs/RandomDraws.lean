import Chip8.Proofs.Panel

namespace Chip8

namespace RandomSource

def skip (r : RandomSource) (count : Nat) : RandomSource := { r with drawn := r.drawn + count }

end RandomSource

theorem Instruction.effect_congr_peek {d : Dialect} {r r' : RandomSource} {s : State} {ins : Instruction}
    (same : ins.draws = true → r'.peek = r.peek) : ins.effect d r' s = ins.effect d r s := by
  cases ins with
  | random x kk => simp only [effect, same rfl]
  | _ => rfl

namespace Machine

variable {m : Machine} {c : Call} {r : RandomSource}

def draws (m : Machine) (calls : List Call) : Nat :=
  (m.executions calls).countP fun e => e.2 matches .random _ _

def withRandom (m : Machine) (r : RandomSource) : Machine := { m with random := r }

theorem draws_cons (m : Machine) (c : Call) (calls : List Call) :
    m.draws (c :: calls) = m.draws [c] + (m.perform c).2.draws calls := by
  have single : m.executions [c] = (Exchange.executed? ⟨m, c, (m.perform c).1⟩).toList := by
    rw [executions_cons]
    exact List.append_nil _
  rw [draws, executions_cons, List.countP_append, draws, single, draws]

theorem draws_of_idle (idle : Exchange.executed? ⟨m, c, (m.perform c).1⟩ = none) : m.draws [c] = 0 := by
  rw [draws, executions_cons, idle]
  rfl

theorem draws_of_executed {s : State} {ins : Instruction}
    (executed : Exchange.executed? ⟨m, c, (m.perform c).1⟩ = some (s, ins)) :
    m.draws [c] = if ins.draws then 1 else 0 := by
  rw [draws, executions_cons, executed]
  cases ins <;> rfl

theorem random_perform (m : Machine) (c : Call) : (m.perform c).2.random = m.random.skip (m.draws [c]) := by
  rcases perform_cases m c with ⟨idle, t, _, after⟩ | ⟨ins, t, executed, _, _, _, _, after⟩
  · rw [after, draws_of_idle idle]
    rfl
  · rw [after, draws_of_executed executed]
    split <;> rfl

theorem random_after (m : Machine) (calls : List Call) : (m.after calls).random = m.random.skip (m.draws calls) := by
  induction calls generalizing m with
  | nil => rfl
  | cons c calls ih =>
    rw [after_cons, ih, random_perform, draws_cons m c calls]
    simp only [RandomSource.skip, Nat.add_assoc]

theorem perform_random {x : Register} {kk : UInt8}
    (executed : (m.perform c).1 = .stepped (.executed (.random x kk))) :
    m.draws [c] = 1 ∧
      (m.perform c).2.state = { m.state.fetched with v := m.state.v.put x (m.random.peek &&& kk) } := by
  refine ⟨draws_of_executed (executed?_eq_some_iff.mpr ⟨executed, rfl⟩), ?_⟩
  obtain ⟨_, _, t, effect, after⟩ := perform_of_executed executed
  cases effect
  rw [after]
  rfl

theorem draws_of_other (other : ∀ x kk, (m.perform c).1 ≠ .stepped (.executed (.random x kk))) : m.draws [c] = 0 := by
  rcases perform_cases m c with ⟨idle, _⟩ | ⟨ins, t, executed, _⟩
  · exact draws_of_idle idle
  · have replied := (executed?_eq_some_iff.mp executed).1
    rw [draws_of_executed executed]
    cases ins with
    | random x kk => exact absurd replied (other x kk)
    | _ => rfl

theorem cycle_withRandom (same : ∀ x kk, m.cycle.1 = .ok (.executed (.random x kk)) → r.peek = m.random.peek) :
    (m.withRandom r).cycle = (m.cycle.1, m.cycle.2.withRandom (r.skip (m.draws [.cycle]))) := by
  cases cycled : m.cycle with
  | mk result m' =>
    rw [cycled] at same
    have replied : (m.perform .cycle).1 = Reply.ofStep result := by
      rw [perform, cycled]
      rfl
    have idle (unexecuted : Exchange.executed? ⟨m, .cycle, Reply.ofStep result⟩ = none) : m.draws [.cycle] = 0 := by
      rw [← replied] at unexecuted
      exact draws_of_idle unexecuted
    cases cycles cycled with
    | blocked waiting =>
      rw [idle rfl]
      exact (Cycles.blocked (m := m.withRandom r) waiting).cycle_eq
    | undecoded awake unknown =>
      rw [idle rfl]
      exact (Cycles.undecoded (m := m.withRandom r) awake unknown).cycle_eq
    | @faulted ins fault awake decoded faulted =>
      rw [idle rfl]
      have undrawn := Instruction.draws_eq_false_of_effect_eq_error faulted
      have same : ins.effect m.dialect r m.state.fetched = ins.effect m.dialect m.random m.state.fetched :=
        Instruction.effect_congr_peek (by simp [undrawn])
      rw [← same] at faulted
      exact (Cycles.faulted (m := m.withRandom r) awake decoded faulted).cycle_eq
    | @executed ins t awake decoded effect =>
      have executed : Exchange.executed? ⟨m, .cycle, (m.perform .cycle).1⟩ = some (m.state.fetched, ins) := by
        rw [replied]
        rfl
      rw [draws_of_executed executed]
      have peek : ins.draws = true → r.peek = m.random.peek := by
        intro drawn
        cases ins with
        | random x kk => exact same x kk rfl
        | _ => cases drawn
      rw [← Instruction.effect_congr_peek peek] at effect
      refine (Cycles.executed (m := m.withRandom r) awake decoded effect).cycle_eq.trans ?_
      cases ins.draws <;> rfl

theorem perform_withRandom
    (same : ∀ x kk, (m.perform c).1 = .stepped (.executed (.random x kk)) → r.peek = m.random.peek) :
    (m.withRandom r).perform c = ((m.perform c).1, (m.perform c).2.withRandom (r.skip (m.draws [c]))) := by
  by_cases isCycle : c = .cycle
  · subst isCycle
    have cycled := cycle_withRandom (m := m) (r := r) fun x kk executed =>
      same x kk (perform_cycle_eq_stepped_iff.mpr executed)
    rw [perform, cycled]
    rfl
  · rw [draws_of_idle (executed?_eq_none isCycle)]
    obtain ⟨reply, t, first, second⟩ := perform_congr_state (m := m) (n := m.withRandom r) isCycle rfl
    rw [first, second]
    rfl

/-- Sources that agree on the bytes to be drawn are as good as each other. -/
theorem after_withRandom {calls : List Call}
    (agree : ∀ j < m.draws calls, r.stream (r.drawn + j) = m.random.stream (m.random.drawn + j)) :
    ((m.withRandom r).history calls).map Exchange.reply = (m.history calls).map Exchange.reply ∧
      (m.withRandom r).after calls = (m.after calls).withRandom (r.skip (m.draws calls)) := by
  induction calls generalizing m r with
  | nil => exact ⟨rfl, rfl⟩
  | cons c calls ih =>
    rw [draws_cons] at agree ⊢
    have performed : (m.withRandom r).perform c =
        ((m.perform c).1, (m.perform c).2.withRandom (r.skip (m.draws [c]))) := by
      apply perform_withRandom
      intro x kk executed
      have first := (perform_random executed).1
      exact agree 0 (by omega)
    have later : ∀ j < (m.perform c).2.draws calls,
        (r.skip (m.draws [c])).stream ((r.skip (m.draws [c])).drawn + j) =
          (m.perform c).2.random.stream ((m.perform c).2.random.drawn + j) := by
      intro j early
      rw [random_perform]
      simp only [RandomSource.skip, Nat.add_assoc]
      exact agree (m.draws [c] + j) (by omega)
    obtain ⟨replies, after⟩ := ih later
    constructor
    · rw [history, history, List.map_cons, List.map_cons, performed, replies]
    · rw [after_cons, after_cons, performed, after]
      simp only [RandomSource.skip, Nat.add_assoc]

theorem random_accounts (d : Dialect) (stream : Nat → UInt8) (calls : List Call) :
    let first := start d (.ofStream stream)
    let m := first.after calls
    let drawn := (first.executions calls).countP fun e => e.2 matches .random _ _
    m.random = ⟨stream, drawn⟩ ∧
    (∀ c x kk, (m.perform c).1 = .stepped (.executed (.random x kk)) →
      (m.perform c).2.state = { m.state.fetched with v := m.state.v.put x (stream drawn &&& kk) } ∧
      (m.perform c).2.random = ⟨stream, drawn + 1⟩) ∧
    (∀ c, (∀ x kk, (m.perform c).1 ≠ .stepped (.executed (.random x kk))) →
      (m.perform c).2.random = ⟨stream, drawn⟩) ∧
    ∀ stream' : Nat → UInt8, (∀ j < drawn, stream' j = stream j) →
      let other := start d (.ofStream stream')
      (other.history calls).map Exchange.reply = (first.history calls).map Exchange.reply ∧
      (other.after calls).state = m.state ∧ (other.after calls).random = ⟨stream', drawn⟩ := by
  intro first m drawn
  have random : m.random = ⟨stream, drawn⟩ := by
    rw [random_after]
    exact congrArg (RandomSource.mk stream) (Nat.zero_add drawn)
  refine ⟨random, ?_, ?_, ?_⟩
  · intro c x kk executed
    obtain ⟨one, stored⟩ := perform_random executed
    rw [random] at stored
    refine ⟨stored, ?_⟩
    rw [random_perform, one, random]
    rfl
  · intro c other
    rw [random_perform, draws_of_other other]
    exact random
  · intro stream' agree other
    have agree' : ∀ j < first.draws calls, stream' (0 + j) = stream (0 + j) := by
      intro j early
      rw [Nat.zero_add]
      exact agree j early
    obtain ⟨replies, after⟩ := after_withRandom (m := first) (r := .ofStream stream') agree'
    have same : other = first.withRandom (.ofStream stream') := rfl
    rw [same, after]
    refine ⟨replies, rfl, ?_⟩
    exact congrArg (RandomSource.mk stream') (Nat.zero_add drawn)

def drawsTwice : List Call := [.load [0xC0, 0x0F, 0xC1, 0xF0], .cycle]

def twoBytes (second : UInt8) (k : Nat) : UInt8 := [0xAB, second].getD k 0

theorem random_accounts_second :
    let m := (start Dialect.standard (.ofStream (twoBytes 0xCD))).after drawsTwice
    let other := (start Dialect.standard (.ofStream (twoBytes 0x12))).after drawsTwice
    (m.perform .cycle).2.state.v[1] = 0xC0 ∧ (m.perform .cycle).2.random.drawn = 2 ∧ other.state = m.state := by
  intro m other
  have executed : (m.perform .cycle).1 = .stepped (.executed (.random 1 0xF0)) := by decide +kernel
  have once : ((start Dialect.standard (.ofStream (twoBytes 0xCD))).executions drawsTwice).countP
      (fun e => e.2 matches .random _ _) = 1 := by
    decide +kernel
  obtain ⟨_, stores, _, agree⟩ := random_accounts Dialect.standard (twoBytes 0xCD) drawsTwice
  obtain ⟨stored, drawn⟩ := stores .cycle 1 0xF0 executed
  rw [once] at stored drawn agree
  refine ⟨?_, ?_, (agree (twoBytes 0x12) (by decide)).2.1⟩
  · rw [stored]
    decide +kernel
  · rw [drawn]

end Machine

end Chip8
