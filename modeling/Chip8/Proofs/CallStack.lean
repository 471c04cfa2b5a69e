import Chip8.Proofs.Faults
import Mathlib.Data.List.Infix

namespace Chip8

namespace State

/-- The addresses to return to, the one of the latest call last. -/
def returns (s : State) : List UInt16 := s.stack.toList.take s.sp.toNat

variable {s t : State}

theorem length_returns (bounded : s.Bounded) : s.returns.length = s.sp.toNat := by
  have top : s.sp.toNat ≤ 16 := UInt8.le_iff_toNat_le.mp bounded.sp
  simp [returns, top]

theorem returns_call {target : Address} (called : s.call target = .ok t) : t.returns = s.returns ++ [s.pc] := by
  obtain ⟨room, rfl⟩ := call_eq_ok_iff.mp called
  have one : (1 : UInt8).toNat = 1 := rfl
  have next : (s.sp + 1).toNat = s.sp.toNat + 1 := by
    rw [UInt8.toNat_add, one]
    omega
  simp only [returns, next, Vector.toList_set]
  rw [List.take_add_one, List.take_set_of_le (Nat.le_refl _)]
  simp [room]

theorem returns_ret (returned : s.ret = .ok t) : s.returns = t.returns ++ [t.pc] := by
  obtain ⟨positive, inside, rfl⟩ := ret_eq_ok_iff.mp returned
  have one : (1 : UInt8).toNat = 1 := rfl
  have previous : (s.sp - 1).toNat = s.sp.toNat - 1 := by
    rw [UInt8.toNat_sub, one]
    omega
  have last : s.sp.toNat - 1 < s.stack.toList.length := by
    rw [Vector.length_toList]
    omega
  have whole : s.sp.toNat - 1 + 1 = s.sp.toNat := by omega
  have joined := List.take_append_getElem last
  rw [whole, Vector.getElem_toList] at joined
  simp only [returns, previous]
  exact joined.symm

end State

namespace Machine

variable {m : Machine} {c : Call}

theorem returns_cases (m : Machine) (c : Call) :
    (∃ nnn, (m.perform c).1 = .stepped (.executed (.call nnn)) ∧
      (m.perform c).2.state.returns = m.state.returns ++ [wrap (m.state.pc + 2)]) ∨
    ((m.perform c).1 = .stepped (.executed .ret) ∧
      m.state.returns = (m.perform c).2.state.returns ++ [(m.perform c).2.state.pc]) ∨
    ((∀ ins, (m.perform c).1 = .stepped (.executed ins) → ins.nests = false) ∧
      (m.perform c).2.state.returns = m.state.returns) := by
  rcases perform_cases m c with ⟨idle, t, serves, after⟩ | ⟨ins, t, executed, _, _, _, effect, after⟩
  · right; right
    constructor
    · intro ins replied
      rw [executed?_eq_some_iff.mpr ⟨replied, rfl⟩] at idle
      cases idle
    · rw [after]
      cases serves <;> rfl
  · have replied : (m.perform c).1 = .stepped (.executed ins) := (executed?_eq_some_iff.mp executed).1
    rw [after]
    cases nested : ins.nests with
    | false =>
      have footprint := Instruction.footprint_effect effect
      right; right
      constructor
      · intro ins' replied'
        rw [replied] at replied'
        cases replied'
        exact nested
      · simp only [State.returns, footprint.stack nested, footprint.sp nested]
        rfl
    | true =>
      cases ins with
      | call nnn => exact .inl ⟨nnn, replied, State.returns_call (s := m.state.fetched) effect⟩
      | ret => exact .inr (.inl ⟨replied, State.returns_ret (s := m.state.fetched) effect⟩)
      | _ => cases nested

theorem returns_of_call {nnn : Address} (replied : (m.perform c).1 = .stepped (.executed (.call nnn))) :
    (m.perform c).2.state.returns = m.state.returns ++ [(m.state.pc + 2) % 4096] := by
  rw [← wrap_eq_mod]
  rcases returns_cases m c with ⟨_, _, pushed⟩ | ⟨returned, _⟩ | ⟨other, _⟩
  · exact pushed
  · rw [replied] at returned
    cases returned
  · cases other _ replied

theorem returns_of_ret (replied : (m.perform c).1 = .stepped (.executed .ret)) :
    m.state.returns = (m.perform c).2.state.returns ++ [(m.perform c).2.state.pc] := by
  rcases returns_cases m c with ⟨_, made, _⟩ | ⟨_, popped⟩ | ⟨other, _⟩
  · rw [replied] at made
    cases made
  · exact popped
  · cases other _ replied

theorem returns_of_other (other : ∀ ins, (m.perform c).1 = .stepped (.executed ins) → ins.nests = false) :
    (m.perform c).2.state.returns = m.state.returns := by
  rcases returns_cases m c with ⟨_, made, _⟩ | ⟨returned, _⟩ | ⟨_, kept⟩
  · cases other _ made
  · cases other _ returned
  · exact kept

theorem prefix_returns_perform {below : List UInt16} (base : below <+: m.state.returns)
    (deep : below.length ≤ (m.perform c).2.state.returns.length) : below <+: (m.perform c).2.state.returns := by
  -- A return takes one address off the end, so one that leaves the list long enough leaves `below` alone.
  rcases returns_cases m c with ⟨nnn, _, pushed⟩ | ⟨_, popped⟩ | ⟨_, kept⟩
  · rw [pushed]
    exact base.trans (List.prefix_append _ _)
  · rw [popped] at base
    exact List.prefix_of_prefix_length_le base (List.prefix_append _ _) deep
  · rw [kept]
    exact base

theorem prefix_returns_after {below : List UInt16} (calls : List Call) (base : below <+: m.state.returns)
    (deep : ∀ part, part <+: calls → below.length ≤ (m.after part).state.returns.length) :
    below <+: (m.after calls).state.returns := by
  induction calls generalizing m with
  | nil => exact base
  | cons c calls ih =>
    have start : [c] <+: c :: calls := List.cons_prefix_cons.mpr ⟨rfl, List.nil_prefix⟩
    refine ih (prefix_returns_perform base (deep [c] start)) ?_
    intro part within
    exact deep (c :: part) (List.cons_prefix_cons.mpr ⟨rfl, within⟩)

/-- The request that first takes the list below the address of a call is a return to that address. -/
theorem returns_to_last {below : List UInt16} {a : UInt16} (base : below ++ [a] <+: m.state.returns)
    (shallow : (m.perform c).2.state.returns.length = below.length) :
    (m.perform c).1 = .stepped (.executed .ret) ∧ (m.perform c).2.state.pc = a := by
  have deep := base.length_le
  rw [List.length_append, List.length_singleton] at deep
  rcases returns_cases m c with ⟨nnn, _, pushed⟩ | ⟨replied, popped⟩ | ⟨_, kept⟩
  · rw [pushed, List.length_append] at shallow
    omega
  · refine ⟨replied, ?_⟩
    rw [popped] at base
    have whole : below ++ [a] = (m.perform c).2.state.returns ++ [(m.perform c).2.state.pc] :=
      base.eq_of_length (by simp [shallow])
    have last := congrArg List.getLast? whole
    simpa using last.symm
  · rw [kept] at shallow
    omega

theorem ret_of_call {nnn : Address} {calls : List Call}
    (called : (m.perform .cycle).1 = .stepped (.executed (.call nnn)))
    (deep : ∀ part, part <+: calls →
      m.state.returns.length < ((m.perform .cycle).2.after part).state.returns.length)
    (shallow : (((m.perform .cycle).2.after calls).perform c).2.state.returns.length = m.state.returns.length) :
    (((m.perform .cycle).2.after calls).perform c).1 = .stepped (.executed .ret) ∧
      (((m.perform .cycle).2.after calls).perform c).2.state.pc = (m.state.pc + 2) % 4096 := by
  have base : m.state.returns ++ [(m.state.pc + 2) % 4096] <+: ((m.perform .cycle).2.after calls).state.returns := by
    refine prefix_returns_after calls (returns_of_call called ▸ List.prefix_rfl) ?_
    intro part within
    rw [List.length_append, List.length_singleton]
    exact deep part within
  exact returns_to_last base shallow

theorem cycle_executes_call_iff {nnn : Address} (bounded : m.state.Bounded) (awake : m.state.waiting = none)
    (decoded : Instruction.decode? m.state.fetched.opcode = some (.call nnn)) :
    m.cycle.1 = .ok (.executed (.call nnn)) ↔ m.state.returns.length < 16 := by
  rw [cycle_executes_iff awake decoded, State.fault?, decoded, State.length_returns bounded]
  simp

theorem cycle_executes_ret_iff (bounded : m.state.Bounded) (awake : m.state.waiting = none)
    (decoded : Instruction.decode? m.state.fetched.opcode = some .ret) :
    m.cycle.1 = .ok (.executed .ret) ↔ m.state.returns ≠ [] := by
  have top : m.state.sp.toNat ≤ 16 := UInt8.le_iff_toNat_le.mp bounded.sp
  rw [cycle_executes_iff awake decoded, State.fault?, decoded, ← List.length_pos_iff, State.length_returns bounded]
  simp only [ite_eq_right_iff, reduceCtorEq, imp_false]
  omega

theorem call_stack_refines_list (reached : m.Reachable) :
    let s := m.state
    let depth (m : Machine) : Nat := m.state.returns.length
    depth m = s.sp.toNat ∧
    (∀ nnn, s.waiting = none → Instruction.decode? s.fetched.opcode = some (.call nnn) →
      (m.cycle.1 = .ok (.executed (.call nnn)) ↔ depth m < 16)) ∧
    (s.waiting = none → Instruction.decode? s.fetched.opcode = some .ret →
      (m.cycle.1 = .ok (.executed .ret) ↔ s.returns ≠ [])) ∧
    (∀ c nnn, (m.perform c).1 = .stepped (.executed (.call nnn)) →
      (m.perform c).2.state.returns = s.returns ++ [(s.pc + 2) % 4096]) ∧
    (∀ c, (m.perform c).1 = .stepped (.executed .ret) →
      s.returns = (m.perform c).2.state.returns ++ [(m.perform c).2.state.pc]) ∧
    (∀ c, (∀ ins, (m.perform c).1 = .stepped (.executed ins) → ins.nests = false) →
      (m.perform c).2.state.returns = s.returns) ∧
    ∀ nnn calls c, (m.perform .cycle).1 = .stepped (.executed (.call nnn)) →
      let callee := (m.perform .cycle).2
      (∀ part, part <+: calls → depth m < depth (callee.after part)) →
      depth ((callee.after calls).perform c).2 = depth m →
      ((callee.after calls).perform c).1 = .stepped (.executed .ret) ∧
        ((callee.after calls).perform c).2.state.pc = (s.pc + 2) % 4096 := by
  intro s depth
  have bounded := reached.bounded
  refine ⟨State.length_returns bounded, ?_, ?_, ?_, ?_, ?_, ?_⟩
  · intro nnn awake decoded
    exact cycle_executes_call_iff bounded awake decoded
  · intro awake decoded
    exact cycle_executes_ret_iff bounded awake decoded
  · intro c nnn called
    exact returns_of_call called
  · intro c returned
    exact returns_of_ret returned
  · intro c other
    exact returns_of_other other
  · intro nnn calls c called callee deep shallow
    exact ret_of_call called deep shallow

/-- A program that calls a routine, which calls another one. -/
def nestedCalls : Machine :=
  (start Dialect.standard (RandomSource.ofList [])).after
    [.load [0x22, 0x04, 0x00, 0xE0, 0x22, 0x08, 0x00, 0xEE, 0x00, 0xEE]]

theorem call_stack_refines_list_nested :
    (nestedCalls.perform .cycle).1 = .stepped (.executed (.call 0x204)) ∧
    (nestedCalls.perform .cycle).2.state.returns = [0x202] ∧
    (((nestedCalls.perform .cycle).2.after [.cycle, .tick, .cycle, .press 3]).perform .cycle).2.state.pc = 0x202 := by
  have reached : nestedCalls.Reachable := (Reachable.start _ _).after _
  have called : (nestedCalls.perform .cycle).1 = .stepped (.executed (.call 0x204)) := by decide +kernel
  have deep : ∀ part ∈ [Call.cycle, .tick, .cycle, .press 3].inits,
      nestedCalls.state.returns.length < ((nestedCalls.perform .cycle).2.after part).state.returns.length := by
    decide +kernel
  have shallow :
      (((nestedCalls.perform .cycle).2.after [.cycle, .tick, .cycle, .press 3]).perform .cycle).2.state.returns.length =
        nestedCalls.state.returns.length := by decide +kernel
  have pc : (nestedCalls.state.pc + 2) % 4096 = 0x202 := by decide +kernel
  have empty : nestedCalls.state.returns = [] := by decide +kernel
  obtain ⟨_, _, _, pushes, _, _, comes_back⟩ := call_stack_refines_list reached
  have pushed := pushes _ _ called
  have back := comes_back _ _ _ called (fun part within => deep part ((List.mem_inits _ _).mpr within)) shallow
  rw [empty, pc] at pushed
  rw [pc] at back
  exact ⟨called, pushed, back.2⟩

end Machine

end Chip8
