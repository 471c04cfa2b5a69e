import Chip8.Proofs.Bounds

namespace Chip8

namespace State

/-- The fault of a cycle that starts in a state where no register waits. -/
def fault? (s : State) : Option Fault :=
  match Instruction.decode? s.fetched.opcode with
  | none => some (.unknownOpcode s.fetched.opcode s.pc)
  | some .ret =>
    if s.sp.toNat = 0 ∨ 16 < s.sp.toNat then some (.stackUnderflow s.fetched.fetchedFrom) else none
  | some (.call nnn) =>
    if 16 ≤ s.sp.toNat then some (.stackOverflow nnn.toWord s.fetched.fetchedFrom) else none
  | some _ => none

variable {s t : State} {fault : Fault}

theorem kind_of_fault? (found : s.fault? = some fault) :
    (∃ opcode address, fault = .unknownOpcode opcode address) ∨
    (∃ target address, fault = .stackOverflow target address) ∨ ∃ address, fault = .stackUnderflow address := by
  unfold State.fault? at found
  split at found
  · cases found
    exact .inl ⟨_, _, rfl⟩
  · split at found
    · cases found
      exact .inr (.inr ⟨_, rfl⟩)
    · cases found
  · split at found
    · cases found
      exact .inr (.inl ⟨_, _, rfl⟩)
    · cases found
  · cases found

theorem fault?_eq_some_iff_effect {d : Dialect} {r : RandomSource} {ins : Instruction}
    (decoded : Instruction.decode? s.fetched.opcode = some ins) :
    s.fault? = some fault ↔ ins.effect d r s.fetched = .error fault := by
  have sp : s.fetched.sp = s.sp := rfl
  rw [Instruction.effect_eq_error_iff, fault?, decoded, sp]
  cases ins with
  | ret => simp [eq_comm]
  | call nnn => simp [eq_comm]
  | _ => simp

def Touched (s t : State) : Prop := ∃ delay sound keys redraw, t = { s with delay, sound, keys, redraw }

theorem Touched.refl (s : State) : s.Touched s := ⟨s.delay, s.sound, s.keys, s.redraw, rfl⟩

theorem Touched.trans {u : State} (first : s.Touched t) (second : t.Touched u) : s.Touched u := by
  obtain ⟨_, _, _, _, rfl⟩ := first
  obtain ⟨delay, sound, keys, redraw, rfl⟩ := second
  exact ⟨delay, sound, keys, redraw, rfl⟩

theorem Touched.waiting (touched : s.Touched t) : t.waiting = s.waiting := by
  obtain ⟨_, _, _, _, rfl⟩ := touched
  rfl

theorem Touched.fault? (touched : s.Touched t) : t.fault? = s.fault? := by
  obtain ⟨_, _, _, _, rfl⟩ := touched
  rfl

end State

namespace Machine

open State

variable {m : Machine} {fault : Fault}

theorem cycle_eq_error_iff : m.cycle.1 = .error fault ↔ m.state.waiting = none ∧ m.state.fault? = some fault := by
  cases cycled : m.cycle with
  | mk result m' =>
    cases cycles cycled with
    | blocked waiting => simp [waiting]
    | undecoded awake unknown => simp [awake, State.fault?, unknown]
    | faulted awake decoded faulted =>
      have same := (fault?_eq_some_iff_effect decoded).mpr faulted
      simp [awake, same]
    | executed awake decoded effect =>
      have sound : m.state.fault? ≠ some fault := by
        intro found
        have faulted := (fault?_eq_some_iff_effect (d := m.dialect) (r := m.random) decoded).mp found
        rw [effect] at faulted
        cases faulted
      simp [sound]

theorem cycle_executes (awake : m.state.waiting = none) (sound : m.state.fault? = none) :
    ∃ ins, Instruction.decode? m.state.fetched.opcode = some ins ∧ m.cycle.1 = .ok (.executed ins) ∧
      m.cycle.2.state.opcode = m.state.fetched.opcode := by
  cases cycled : m.cycle with
  | mk result m' =>
    have unfaulted : ∀ fault, result ≠ .error fault := by
      intro fault faulted
      have found := (cycle_eq_error_iff.mp ((congrArg Prod.fst cycled).trans faulted)).2
      rw [sound] at found
      cases found
    cases cycles cycled with
    | blocked waiting =>
      rw [awake] at waiting
      cases waiting
    | undecoded awake unknown => exact absurd rfl (unfaulted _)
    | faulted awake decoded faulted => exact absurd rfl (unfaulted _)
    | executed awake decoded effect => exact ⟨_, decoded, rfl, (Instruction.footprint_effect effect).opcode⟩

theorem cycle_executes_iff {ins : Instruction} (awake : m.state.waiting = none)
    (decoded : Instruction.decode? m.state.fetched.opcode = some ins) :
    m.cycle.1 = .ok (.executed ins) ↔ m.state.fault? = none := by
  constructor
  · intro executed
    cases found : m.state.fault? with
    | none => rfl
    | some fault =>
      have faulted := cycle_eq_error_iff.mpr ⟨awake, found⟩
      rw [executed] at faulted
      cases faulted
  · intro sound
    obtain ⟨ins', decoded', executed, _⟩ := cycle_executes awake sound
    rw [decoded] at decoded'
    cases decoded'
    exact executed

theorem perform_cycle_eq_fault_iff : (m.perform .cycle).1 = .fault fault ↔ m.cycle.1 = .error fault := by
  show Reply.ofStep m.cycle.1 = .fault fault ↔ m.cycle.1 = .error fault
  cases m.cycle.1 <;> simp [Reply.ofStep]

theorem onKey_eq_self_of_error {act : Machine → Key → Machine} {number : UInt8}
    (faulted : Reply.ofUnit (m.onKey act number).1 = .fault fault) : (m.onKey act number).2 = m := by
  unfold onKey at faulted ⊢
  split
  · rename_i k found
    simp [found, Reply.ofUnit] at faulted
  · rfl

theorem perform_eq_self_of_fault {c : Call} (faulted : (m.perform c).1 = .fault fault) : (m.perform c).2 = m := by
  cases c with
  | load program =>
    by_cases fits : program.length ≤ Layout.programCapacity
    · simp [perform, load, fits, Reply.ofUnit] at faulted
    · simp [perform, load, fits]
  | cycle =>
    unfold perform at faulted ⊢
    cases cycled : m.cycle with
    | mk result m' =>
      cases cycles cycled with
      | blocked waiting => rfl
      | undecoded awake unknown => rfl
      | faulted awake decoded faulted => rfl
      | executed awake decoded effect =>
        rw [cycled] at faulted
        cases faulted
  | press number => exact onKey_eq_self_of_error faulted
  | release number => exact onKey_eq_self_of_error faulted
  | tick => cases faulted
  | takeFrame => cases faulted

theorem touched_serves {s t : State} {c : Call} (awake : s.waiting = none) (noLoad : ∀ program, c ≠ .load program)
    (serves : s.Serves c t) : s.Touched t := by
  cases serves with
  | kept => exact Touched.refl s
  | loaded fits => exact absurd rfl (noLoad _)
  | pressed | released => exact ⟨s.delay, s.sound, _, s.redraw, rfl⟩
  | answered named up waits =>
    rw [awake] at waits
    cases waits
  | ticked => exact ⟨_, _, s.keys, s.redraw, rfl⟩
  | taken => exact ⟨s.delay, s.sound, s.keys, false, rfl⟩

theorem touched_perform {c : Call} (awake : m.state.waiting = none) (found : m.state.fault? = some fault)
    (noLoad : ∀ program, c ≠ .load program) : m.state.Touched (m.perform c).2.state := by
  by_cases isCycle : c = .cycle
  · subst isCycle
    have faulted := perform_cycle_eq_fault_iff.mpr (cycle_eq_error_iff.mpr ⟨awake, found⟩)
    rw [perform_eq_self_of_fault faulted]
    exact Touched.refl _
  · obtain ⟨t, serves, after⟩ := serves_perform isCycle
    rw [after]
    exact touched_serves awake noLoad serves

/-- A machine whose cycle faults stays where it is until a program is loaded. -/
theorem stuck_run (awake : m.state.waiting = none) (found : m.state.fault? = some fault) (calls : List Call)
    (noLoad : ∀ program, .load program ∉ calls) :
    (∀ e ∈ m.history calls, e.call = .cycle → e.reply = .fault fault) ∧ m.state.Touched (m.after calls).state := by
  induction calls generalizing m with
  | nil =>
    refine ⟨?_, Touched.refl _⟩
    intro e member
    cases member
  | cons c calls ih =>
    have later : ∀ program, .load program ∉ calls := fun program member => noLoad program (.tail c member)
    have touched : m.state.Touched (m.perform c).2.state := by
      refine touched_perform awake found ?_
      intro program same
      subst same
      exact noLoad program (.head calls)
    obtain ⟨replies, rest⟩ := ih (touched.waiting.trans awake) (touched.fault?.trans found) later
    refine ⟨?_, touched.trans rest⟩
    intro e member isCycle
    rcases List.mem_cons.mp member with rfl | member
    · dsimp only at isCycle ⊢
      rw [isCycle]
      exact perform_cycle_eq_fault_iff.mpr (cycle_eq_error_iff.mpr ⟨awake, found⟩)
    · exact replies e member isCycle

theorem faults_atomic_and_sticky (m : Machine) :
    (∀ c fault, (m.perform c).1 = .fault fault → (m.perform c).2 = m) ∧
    ∀ fault, (m.perform .cycle).1 = .fault fault → ∀ calls, (∀ program, .load program ∉ calls) →
      (∀ e ∈ (m.perform .cycle).2.history calls, e.call = .cycle → e.reply = .fault fault) ∧
      ∃ delay sound keys redraw,
        ((m.perform .cycle).2.after calls).state = { m.state with delay, sound, keys, redraw } := by
  refine ⟨fun c fault faulted => perform_eq_self_of_fault faulted, ?_⟩
  intro fault faulted calls noLoad
  obtain ⟨awake, found⟩ := cycle_eq_error_iff.mp (perform_cycle_eq_fault_iff.mp faulted)
  rw [perform_eq_self_of_fault faulted]
  exact stuck_run awake found calls noLoad

def strayReturn : Machine := (start Dialect.standard (RandomSource.ofList [])).after [.load [0x00, 0xEE]]

theorem faults_atomic_and_sticky_stray_return :
    (strayReturn.perform .cycle).1 = .fault (.stackUnderflow 0x200) ∧
    (strayReturn.perform .cycle).2 = strayReturn ∧
    ∀ e ∈ (strayReturn.perform .cycle).2.history [.tick, .press 5, .cycle, .takeFrame, .release 5, .cycle],
      e.call = .cycle → e.reply = .fault (.stackUnderflow 0x200) := by
  have faulted : (strayReturn.perform .cycle).1 = .fault (.stackUnderflow 0x200) := by decide +kernel
  obtain ⟨atomic, sticky⟩ := faults_atomic_and_sticky strayReturn
  exact ⟨faulted, atomic _ _ faulted, (sticky _ faulted _ (by simp)).1⟩

end Machine

namespace State

theorem fetchedFrom_fetched {s : State} (inside : s.pc ≤ 0xFFF) : s.fetched.fetchedFrom = s.pc := by
  apply UInt16.toNat_inj.mp
  have bound : s.pc.toNat ≤ 4095 := UInt16.le_iff_toNat_le.mp inside
  have two : (2 : UInt16).toNat = 2 := rfl
  simp only [fetchedFrom, fetched, toNat_wrap, UInt16.toNat_sub, UInt16.toNat_add, two]
  omega

theorem opcode_fetched (s : State) :
    s.fetched.opcode = UInt16.ofNat
      (256 * s.memory[Fin.ofNat 4096 s.pc.toNat].toNat + s.memory[Fin.ofNat 4096 (s.pc.toNat + 1)].toNat) :=
  s.memory.word_eq s.pc

theorem fault?_eq_some_iff {s : State} {fault : Fault} (bounded : s.Bounded) :
    s.fault? = some fault ↔
      (Instruction.decode? s.fetched.opcode = none ∧ fault = .unknownOpcode s.fetched.opcode s.pc) ∨
      ((s.fetched.opcode = 0x00EE ∧ s.sp = 0) ∧ fault = .stackUnderflow s.pc) ∨
      ((s.fetched.opcode.toNat / 4096 = 2 ∧ s.sp = 16) ∧ fault = .stackOverflow (s.fetched.opcode % 4096) s.pc) := by
  have empty : s.sp.toNat = 0 ∨ 16 < s.sp.toNat ↔ s.sp = 0 := by
    have top : s.sp.toNat ≤ 16 := UInt8.le_iff_toNat_le.mp bounded.sp
    rw [← UInt8.toNat_inj]
    show _ ↔ s.sp.toNat = 0
    omega
  have full : 16 ≤ s.sp.toNat ↔ s.sp = 16 := by
    have top : s.sp.toNat ≤ 16 := UInt8.le_iff_toNat_le.mp bounded.sp
    rw [← UInt8.toNat_inj]
    show _ ↔ s.sp.toNat = 16
    omega
  rw [← Instruction.decode?_eq_ret_iff, Instruction.group_eq_two_iff, fault?, fetchedFrom_fetched bounded.pc]
  cases decoded : Instruction.decode? s.fetched.opcode with
  | none => simp [eq_comm]
  | some ins =>
    cases ins with
    | ret => simp [empty, @eq_comm _ fault]
    | call nnn =>
      obtain ⟨_, rfl⟩ := Instruction.decode?_eq_call_iff.mp decoded
      simp [full, Opcode.toWord_nnn, eq_comm]
    | _ => simp

end State

namespace Machine

theorem cycle_outcome {m : Machine} (reached : m.Reachable) (awake : m.state.waiting = none) :
    let s := m.state
    let w : Opcode := UInt16.ofNat
      (256 * s.memory[Fin.ofNat 4096 s.pc.toNat].toNat + s.memory[Fin.ofNat 4096 (s.pc.toNat + 1)].toNat)
    let unknown : Prop := Instruction.decode? w = none
    let underflow : Prop := w = 0x00EE ∧ s.sp = 0
    let overflow : Prop := w.toNat / 4096 = 2 ∧ s.sp = 16
    (∀ fault, m.cycle.1 = .error fault ↔
      (unknown ∧ fault = .unknownOpcode w s.pc) ∨ (underflow ∧ fault = .stackUnderflow s.pc) ∨
        (overflow ∧ fault = .stackOverflow (w % 4096) s.pc)) ∧
    (¬(unknown ∧ underflow) ∧ ¬(unknown ∧ overflow) ∧ ¬(underflow ∧ overflow)) ∧
    (¬unknown → ¬underflow → ¬overflow → ∃ ins, Instruction.decode? w = some ins ∧
      m.cycle.1 = .ok (.executed ins) ∧ m.cycle.2.state.opcode = w) ∧
    (∀ length, m.cycle.1 ≠ .error (.programTooLong length)) ∧ (∀ number, m.cycle.1 ≠ .error (.noSuchKey number)) ∧
    s.fetched.fetchedFrom = s.pc := by
  intro s w unknown underflow overflow
  have bounded := reached.bounded
  have fetch : s.fetched.opcode = w := State.opcode_fetched s
  have kinds (fault : Fault) : s.fault? = some fault ↔
      (unknown ∧ fault = .unknownOpcode w s.pc) ∨ (underflow ∧ fault = .stackUnderflow s.pc) ∨
        (overflow ∧ fault = .stackOverflow (w % 4096) s.pc) := by
    rw [State.fault?_eq_some_iff bounded, fetch]
  have faults (fault : Fault) : m.cycle.1 = .error fault ↔ s.fault? = some fault := by
    rw [cycle_eq_error_iff, and_iff_right awake]
  refine ⟨fun fault => (faults fault).trans (kinds fault), ⟨?_, ?_, ?_⟩, ?_, ?_, ?_,
    State.fetchedFrom_fetched bounded.pc⟩
  · intro both
    obtain ⟨nothing, returns, _⟩ := both
    rw [← Instruction.decode?_eq_ret_iff, nothing] at returns
    cases returns
  · intro both
    obtain ⟨nothing, calls, _⟩ := both
    rw [Instruction.group_eq_two_iff, nothing] at calls
    cases calls
  · intro both
    obtain ⟨⟨_, empty⟩, _, full⟩ := both
    rw [empty] at full
    cases full
  · intro known notEmpty notFull
    have sound : s.fault? = none := by
      cases found : s.fault? with
      | none => rfl
      | some fault =>
        rcases (kinds fault).mp found with ⟨nothing, _⟩ | ⟨empty, _⟩ | ⟨full, _⟩
        · exact absurd nothing known
        · exact absurd empty notEmpty
        · exact absurd full notFull
    rw [← fetch]
    exact cycle_executes awake sound
  · intro length faulted
    rcases (kinds _).mp ((faults _).mp faulted) with ⟨_, other⟩ | ⟨_, other⟩ | ⟨_, other⟩ <;> cases other
  · intro number faulted
    rcases (kinds _).mp ((faults _).mp faulted) with ⟨_, other⟩ | ⟨_, other⟩ | ⟨_, other⟩ <;> cases other

/-- A machine that has written 0xEE to cell 0 and jumped to the last cell, which holds 0. -/
def atLastCell : Machine :=
  (start Dialect.standard (RandomSource.ofList [])).after
    [.load [0x60, 0xEE, 0xA0, 0x00, 0xF0, 0x55, 0x1F, 0xFF], .cycle, .cycle, .cycle, .cycle]

theorem cycle_outcome_at_last_cell :
    atLastCell.state.waiting = none ∧ atLastCell.cycle.1 = .error (.stackUnderflow 0xFFF) := by
  have reached : atLastCell.Reachable := (Reachable.start _ _).after _
  have awake : atLastCell.state.waiting = none := by decide +kernel
  refine ⟨awake, ((cycle_outcome reached awake).1 _).mpr (.inr (.inl ?_))⟩
  decide +kernel

end Machine

end Chip8
