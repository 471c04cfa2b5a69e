import Chip8.Proofs.Panel

namespace Chip8

namespace Dialect

def AgreeOn (d d' : Dialect) : State × Instruction → Prop
  | (_, .addIndex _) => d.indexOverflowFlag = d'.indexOverflowFlag
  | (s, .arith .subtract x y) =>
    d.reverseSubtract = d'.reverseSubtract ∨ x = 0xF ∨ s.v[y] ≤ s.v[x] ∨ s.v[y].toNat = s.v[x].toNat + 128
  | _ => True

end Dialect

namespace Instruction

variable {d d' : Dialect} {r : RandomSource} {s : State} {ins : Instruction}

theorem sub_eq_sub_swap_iff {a b : UInt8} (borrows : a < b) : b - a = a - b ↔ b.toNat = a.toNat + 128 := by
  have order := UInt8.lt_iff_toNat_lt.mp borrows
  have bound := b.toNat_lt
  rw [← UInt8.toNat_inj, UInt8.toNat_sub, UInt8.toNat_sub]
  omega

theorem store_flag_eq_iff {x : Register} {value value' : UInt8} {flag : Bool} :
    store s x (value', some flag) = store s x (value, some flag) ↔ x = 0xF ∨ value' = value := by
  constructor
  · intro same
    by_cases last : x = 0xF
    · exact .inl last
    · have kept (value : UInt8) : (store s x (value, some flag)).v[x] = value := by
        rw [store, State.getElem_setFlag_of_ne last, State.getElem_setRegister_self]
      right
      rw [← kept value', same, kept value]
  · rintro (rfl | rfl)
    · simp [store, State.setFlag, State.setRegister]
    · rfl

theorem compute_subtract_eq_iff {a b : UInt8} :
    (Arith.subtract.compute d' a b).1 = (Arith.subtract.compute d a b).1 ↔
      d.reverseSubtract = d'.reverseSubtract ∨ b ≤ a ∨ b.toNat = a.toNat + 128 := by
  have swapped := sub_eq_sub_swap_iff (a := a) (b := b)
  by_cases borrows : a < b
  · have below : ¬b ≤ a := UInt8.not_le.mpr borrows
    cases reverse : d.reverseSubtract <;> cases reverse' : d'.reverseSubtract
    · simp [Arith.compute, reverse, reverse']
    · simp [Arith.compute, reverse, reverse', borrows, below, swapped borrows]
    · simp [Arith.compute, reverse, reverse', borrows, below, @eq_comm _ (a - b), swapped borrows]
    · simp [Arith.compute, reverse, reverse']
  · have above : b ≤ a := UInt8.not_lt.mp borrows
    simp [Arith.compute, borrows, above]

theorem effect_subtract_eq_iff {x y : Register} :
    (arith .subtract x y).effect d' r s = (arith .subtract x y).effect d r s ↔
      d.AgreeOn d' (s, .arith .subtract x y) := by
  have flagged (d : Dialect) : Arith.subtract.compute d s.v[x] s.v[y] =
      ((Arith.subtract.compute d s.v[x] s.v[y]).1, some (decide (s.v[y] ≤ s.v[x]))) := rfl
  rw [effect, effect, Except.ok.injEq, flagged d', flagged d, store_flag_eq_iff, compute_subtract_eq_iff,
    or_left_comm, Dialect.AgreeOn]

theorem effect_congr_dialect (agree : d.AgreeOn d' (s, ins)) : ins.effect d' r s = ins.effect d r s := by
  cases ins with
  | addIndex x =>
    have same : d.indexOverflowFlag = d'.indexOverflowFlag := agree
    simp only [effect, State.addIndex, same]
  | arith op x y =>
    cases op with
    | subtract => exact effect_subtract_eq_iff.mpr agree
    | _ => rfl
  | _ => rfl

end Instruction

namespace Machine

def withDialect (m : Machine) (d' : Dialect) : Machine := { m with dialect := d' }

end Machine

namespace Exchange

def withDialect (e : Exchange) (d' : Dialect) : Exchange := { e with before := e.before.withDialect d' }

end Exchange

namespace Machine

variable {m : Machine} {c : Call} {d' : Dialect}

theorem cycle_withDialect
    (agree : ∀ ins, m.cycle.1 = .ok (.executed ins) → m.dialect.AgreeOn d' (m.state.fetched, ins)) :
    (m.withDialect d').cycle = (m.cycle.1, m.cycle.2.withDialect d') := by
  cases cycled : m.cycle with
  | mk result m' =>
    rw [cycled] at agree
    cases cycles cycled with
    | blocked waiting => exact (Cycles.blocked (m := m.withDialect d') waiting).cycle_eq
    | undecoded awake unknown => exact (Cycles.undecoded (m := m.withDialect d') awake unknown).cycle_eq
    | faulted awake decoded faulted =>
      rw [Instruction.effect_eq_error_iff] at faulted
      have faulted' := Instruction.effect_eq_error_iff (d := d') (r := m.random) |>.mpr faulted
      exact (Cycles.faulted (m := m.withDialect d') awake decoded faulted').cycle_eq
    | executed awake decoded effect =>
      rw [← Instruction.effect_congr_dialect (agree _ rfl)] at effect
      exact (Cycles.executed (m := m.withDialect d') awake decoded effect).cycle_eq

theorem perform_withDialect
    (agree : ∀ e, Exchange.executed? ⟨m, c, (m.perform c).1⟩ = some e → m.dialect.AgreeOn d' e) :
    (m.withDialect d').perform c = ((m.perform c).1, (m.perform c).2.withDialect d') := by
  by_cases isCycle : c = .cycle
  · subst isCycle
    have cycled : (m.withDialect d').cycle = (m.cycle.1, m.cycle.2.withDialect d') := by
      apply cycle_withDialect
      intro ins executed
      exact agree _ (executed?_eq_some_iff.mpr ⟨perform_cycle_eq_stepped_iff.mpr executed, rfl⟩)
    rw [perform, cycled]
    rfl
  · obtain ⟨reply, t, first, second⟩ := perform_congr_state (m := m) (n := m.withDialect d') isCycle rfl
    rw [first, second]
    rfl

theorem dialect_perform (m : Machine) (c : Call) : (m.perform c).2.dialect = m.dialect := by
  rcases perform_cases m c with ⟨_, t, _, after⟩ | ⟨ins, t, _, _, _, _, _, after⟩
  · rw [after]
  · rw [after]

theorem dialect_after (m : Machine) (calls : List Call) : (m.after calls).dialect = m.dialect := by
  induction calls generalizing m with
  | nil => rfl
  | cons c calls ih => rw [after_cons, ih, dialect_perform]

theorem history_withDialect {calls : List Call} (agree : ∀ e ∈ m.executions calls, m.dialect.AgreeOn d' e) :
    (m.withDialect d').history calls = (m.history calls).map (·.withDialect d') ∧
      (m.withDialect d').after calls = (m.after calls).withDialect d' := by
  induction calls generalizing m with
  | nil => exact ⟨rfl, rfl⟩
  | cons c calls ih =>
    rw [executions_cons, List.forall_mem_append] at agree
    obtain ⟨first, rest⟩ := agree
    have step := perform_withDialect fun e executed => first e (Option.mem_toList.mpr executed)
    rw [← dialect_perform m c] at rest
    obtain ⟨same, last⟩ := ih rest
    constructor
    · rw [history, history, step, same]
      rfl
    · rw [after_cons, step, last, after_cons]

theorem state_cycle_subtract_eq_iff {x y : Register}
    (executed : m.cycle.1 = .ok (.executed (.arith .subtract x y))) :
    (m.withDialect d').cycle.2.state = m.cycle.2.state ↔
      m.dialect.AgreeOn d' (m.state.fetched, .arith .subtract x y) := by
  rw [← Instruction.effect_subtract_eq_iff (r := m.random)]
  cases cycled : m.cycle with
  | mk result m' =>
    rw [cycled] at executed
    cases cycles cycled with
    | blocked | undecoded | faulted => cases executed
    | executed awake decoded effect =>
      cases executed
      rw [(Cycles.executed (m := m.withDialect d') awake decoded rfl).cycle_eq, effect]
      exact ⟨congrArg _, Except.ok.inj⟩

theorem dialects_agree (d d' : Dialect) (r : RandomSource) (calls : List Call)
    (noAddIndex : d.indexOverflowFlag = d'.indexOverflowFlag ∨
      ∀ e ∈ (start d r).executions calls, ∀ x, e.2 ≠ .addIndex x)
    (noReversal : d.reverseSubtract = d'.reverseSubtract ∨
      ∀ e ∈ (start d r).executions calls, ∀ x y, e.2 = .arith .subtract x y →
        e.1.v[y] ≤ e.1.v[x] ∨ x = 0xF ∨ e.1.v[y].toNat = e.1.v[x].toNat + 128) :
    let m := (start d r).after calls
    let m' := (start d' r).after calls
    (start d' r).history calls =
      ((start d r).history calls).map (fun e => { e with before := { e.before with dialect := d' } }) ∧
    m' = { m with dialect := d' } ∧
    ∀ x y, d.reverseSubtract ≠ d'.reverseSubtract →
      (m.perform .cycle).1 = .stepped (.executed (.arith .subtract x y)) →
      ((m'.perform .cycle).2.state = (m.perform .cycle).2.state ↔
        m.state.v[y] ≤ m.state.v[x] ∨ x = 0xF ∨ m.state.v[y].toNat = m.state.v[x].toNat + 128) := by
  intro m m'
  have agree : ∀ e ∈ (start d r).executions calls, d.AgreeOn d' e := by
    rintro ⟨s, ins⟩ member
    cases ins with
    | addIndex x => exact noAddIndex.resolve_right fun never => never _ member x rfl
    | arith op x y =>
      cases op with
      | subtract => exact noReversal.imp_right fun plain => or_left_comm.mp (plain _ member x y rfl)
      | _ => trivial
    | _ => trivial
  obtain ⟨same, last⟩ := history_withDialect (m := start d r) agree
  refine ⟨same, last, ?_⟩
  intro x y differ executed
  have dialect : m.dialect = d := dialect_after (start d r) calls
  have restates : (m.withDialect d').cycle.2.state = m.cycle.2.state ↔
      m.dialect.AgreeOn d' (m.state.fetched, .arith .subtract x y) :=
    state_cycle_subtract_eq_iff (perform_cycle_eq_stepped_iff.mp executed)
  rw [dialect, Dialect.AgreeOn, or_iff_right differ, or_left_comm] at restates
  rw [show m' = m.withDialect d' from last]
  exact restates

/-- The requests up to a subtraction that borrows, of bytes at a distance of 128. -/
def borrowsHalf : List Call := [.load [0x60, 0x80, 0x81, 0x05], .cycle, .cycle]

theorem dialects_agree_borrowed_half :
    let r := RandomSource.ofList []
    let m := (start ⟨true, true⟩ r).after borrowsHalf
    let m' := (start Dialect.standard r).after borrowsHalf
    m.state.v[(1 : Register)] = 0x80 ∧ m'.state = m.state ∧
      ((start Dialect.standard r).history borrowsHalf).map (·.reply) =
        ((start ⟨true, true⟩ r).history borrowsHalf).map (·.reply) := by
  intro r m m'
  have noAddIndex : ∀ e ∈ (start ⟨true, true⟩ r).executions borrowsHalf, ∀ x, e.2 ≠ .addIndex x := by
    decide +kernel
  have noReversal : ∀ e ∈ (start ⟨true, true⟩ r).executions borrowsHalf, ∀ x y, e.2 = .arith .subtract x y →
      e.1.v[y] ≤ e.1.v[x] ∨ x = 0xF ∨ e.1.v[y].toNat = e.1.v[x].toNat + 128 := by
    decide +kernel
  obtain ⟨same, last, _⟩ :=
    dialects_agree ⟨true, true⟩ Dialect.standard r borrowsHalf (.inr noAddIndex) (.inr noReversal)
  refine ⟨by decide +kernel, ?_, ?_⟩
  · rw [show m' = { m with dialect := Dialect.standard } from last]
  · rw [same, List.map_map]
    rfl

end Machine

end Chip8
