import Chip8.Proofs.Writes

namespace Chip8

namespace Opcode

def bytes (op : Opcode) : List UInt8 := [UInt8.ofNat (op.toNat / 256), UInt8.ofNat op.toNat]

theorem ofNat_bytes (op : Opcode) :
    UInt16.ofNat (256 * (UInt8.ofNat (op.toNat / 256)).toNat + (UInt8.ofNat op.toNat).toNat) = op := by
  apply UInt16.toNat_inj.mp
  have bound := op.toNat_lt
  simp only [UInt16.toNat_ofNat', UInt8.toNat_ofNat']
  omega

end Opcode

namespace Instruction

/-- Whether the instruction goes on to the next one whatever the state, and leaves memory alone. -/
def straight : Instruction → Bool
  | ret | jump _ | call _ | jumpOffset _ | skip _ | waitKey _ | storeDecimal _ | storeRegisters _ => false
  | _ => true

variable {d : Dialect} {r : RandomSource} {s t : State} {ins : Instruction}

theorem exists_effect_of_straight (d : Dialect) (r : RandomSource) (s : State) (straight : ins.straight = true) :
    ∃ t, ins.effect d r s = .ok t := by
  cases effect : ins.effect d r s with
  | ok t => exact ⟨t, rfl⟩
  | error fault => rcases effect_eq_error_iff.mp effect with ⟨rfl, _⟩ | ⟨nnn, rfl, _⟩ <;> cases straight

theorem pc_of_straight (straight : ins.straight = true) (effect : ins.effect d r s = .ok t) : t.pc = s.pc := by
  cases ins with
  | arith | shift =>
    obtain rfl := Except.ok.inj effect
    rw [store_eq]
  | addIndex =>
    obtain rfl := Except.ok.inj effect
    rw [State.addIndex_eq]
  | ret | jump | call | jumpOffset | skip | waitKey | storeDecimal | storeRegisters => cases straight
  | _ =>
    obtain rfl := Except.ok.inj effect
    rfl

theorem stores_eq_false_of_straight (straight : ins.straight = true) : ins.stores = false := by
  cases ins with
  | storeDecimal | storeRegisters => cases straight
  | _ => rfl

theorem footprint_of_straight (straight : ins.straight = true) (effect : ins.effect d r s = .ok t) :
    t.memory = s.memory ∧ t.waiting = s.waiting := by
  have footprint := footprint_effect effect
  refine ⟨footprint.memory (stores_eq_false_of_straight straight), footprint.waiting ?_⟩
  rintro x rfl
  cases straight

end Instruction

/-- A program of instructions, each with the digit that its opcode may have to spare. -/
abbrev Program := List (Instruction × Nibble)

namespace Program

def opcode (entry : Instruction × Nibble) : Opcode := entry.1.encodeWith entry.2

def assemble (program : Program) : List UInt8 := program.flatMap fun entry => (opcode entry).bytes

def advance (d : Dialect) : State × RandomSource → Instruction × Nibble → Except Fault (State × RandomSource)
  | (s, r), entry => entry.1.execute d { s with pc := wrap (s.pc + 2), opcode := opcode entry } r

theorem length_assemble (program : Program) : (assemble program).length = 2 * program.length := by
  induction program with
  | nil => rfl
  | cons entry program ih =>
    rw [assemble, List.flatMap_cons, List.length_append, ← assemble, ih, List.length_cons]
    simp only [Opcode.bytes, List.length_cons, List.length_nil]
    omega

theorem getElem?_assemble {program : Program} {k : Nat} {entry : Instruction × Nibble}
    (present : program[k]? = some entry) :
    (assemble program)[2 * k]? = some (UInt8.ofNat ((opcode entry).toNat / 256)) ∧
      (assemble program)[2 * k + 1]? = some (UInt8.ofNat (opcode entry).toNat) := by
  induction program generalizing k with
  | nil => cases present
  | cons first program ih =>
    cases k with
    | zero =>
      cases present
      exact ⟨rfl, rfl⟩
    | succ k => exact ih present

end Program

namespace Machine

open Program

variable {m first : Machine} {program : Program} {k : Nat}

def place (k : Nat) : UInt16 := UInt16.ofNat ((0x200 + 2 * k) % 4096)

theorem wrap_place (k : Nat) : wrap (place k + 2) = place (k + 1) := by
  apply UInt16.toNat_inj.mp
  have two : (2 : UInt16).toNat = 2 := rfl
  simp only [place, toNat_wrap, UInt16.toNat_add, UInt16.toNat_ofNat', two]
  omega

theorem word_place (fits : program.length ≤ 1792) (loaded : m = (first.perform (.load (assemble program))).2)
    (inside : k < program.length) : m.state.memory.word (place k) = opcode program[k] := by
  have length := length_assemble program
  have short : (assemble program).length ≤ 3584 := by omega
  have here : (place k).toNat = 0x200 + 2 * k := by
    rw [place, UInt16.toNat_ofNat']
    omega
  obtain ⟨high, low⟩ := getElem?_assemble (List.getElem?_eq_getElem inside)
  rw [Memory.word_eq, here, Nat.add_assoc, loaded, memory_perform_load _ short (by omega),
    memory_perform_load _ short (by omega), high, low]
  exact Opcode.ofNat_bytes _

/-- The first instructions of a program have been executed, and nothing else, since the machine was `first`. -/
structure HasRun (first : Machine) (program : Program) (k : Nat) (m : Machine) : Prop where
  pc : m.state.pc = place k
  awake : m.state.waiting = none
  memory : m.state.memory = first.state.memory
  dialect : m.dialect = first.dialect
  folded : (program.take k).foldlM (advance first.dialect) (first.state, first.random) = .ok (m.state, m.random)

theorem HasRun.cycle (run : first.HasRun program k m) (inside : k < program.length)
    (word : first.state.memory.word (place k) = opcode program[k]) (straight : program[k].1.straight = true) :
    m.cycle.1 = .ok (.executed program[k].1) ∧ first.HasRun program (k + 1) m.cycle.2 := by
  have current : m.state.memory.word m.state.pc = opcode program[k] := by rw [run.memory, run.pc, word]
  have fetched : m.state.fetched = { m.state with pc := wrap (m.state.pc + 2), opcode := opcode program[k] } := by
    rw [State.fetched, current]
  have decoded : Instruction.decode? m.state.fetched.opcode = some program[k].1 := by
    rw [fetched]
    exact Instruction.decode?_encodeWith _ _
  obtain ⟨t, effect⟩ := Instruction.exists_effect_of_straight m.dialect m.random m.state.fetched straight
  obtain ⟨memory, waiting⟩ := Instruction.footprint_of_straight straight effect
  rw [(Cycles.executed run.awake decoded effect).cycle_eq]
  refine ⟨rfl, ?_, waiting.trans run.awake, memory.trans run.memory, run.dialect, ?_⟩
  · refine (Instruction.pc_of_straight straight effect).trans ?_
    rw [fetched, run.pc]
    exact wrap_place k
  · rw [List.take_succ_eq_append_getElem inside, List.foldlM_append, run.folded]
    show List.foldlM (advance first.dialect) (m.state, m.random) [program[k]] = _
    rw [fetched] at effect
    have executed := Instruction.execute_of_effect effect
    rw [run.dialect] at executed
    simp [advance, executed]

theorem hasRun_after (awake : first.state.waiting = none) (pc : first.state.pc = place 0)
    (words : ∀ k (inside : k < program.length), first.state.memory.word (place k) = opcode program[k])
    (straight : ∀ entry ∈ program, entry.1.straight = true) (within : k ≤ program.length) :
    first.HasRun program k (first.after (List.replicate k .cycle)) := by
  induction k with
  | zero => exact ⟨pc, awake, rfl, rfl, rfl⟩
  | succ k ih =>
    have run := ih (Nat.le_of_succ_le within)
    rw [List.replicate_succ', after_append]
    exact (run.cycle within (words k within) (straight _ (List.getElem_mem _))).2

theorem straight_line_runs_as_written (d : Dialect) (r : RandomSource) (program : Program)
    (fits : program.length ≤ 1792) (straight : ∀ entry ∈ program, entry.1.straight = true) :
    let loading := (start d r).perform (.load (assemble program))
    loading.1 = .done ∧
    (∀ k (inside : k < program.length),
      (loading.2.after (List.replicate k .cycle)).cycle.1 = .ok (.executed program[k].1)) ∧
    ∀ k ≤ program.length,
      let m := loading.2.after (List.replicate k .cycle)
      m.state.pc = UInt16.ofNat ((0x200 + 2 * k) % 4096) ∧
      (program.take k).foldlM (advance d) (loading.2.state, r) = .ok (m.state, m.random) := by
  intro loading
  have length := length_assemble program
  have short : (assemble program).length ≤ 3584 := by omega
  have loaded := perform_load (start d r) (assemble program)
  rw [if_pos short] at loaded
  have words (k : Nat) (inside : k < program.length) : loading.2.state.memory.word (place k) = opcode program[k] :=
    word_place fits rfl inside
  have awake : loading.2.state.waiting = none := congrArg (fun outcome => outcome.2.state.waiting) loaded
  have pc : loading.2.state.pc = place 0 := congrArg (fun outcome => outcome.2.state.pc) loaded
  have random : loading.2.random = r := congrArg (fun outcome => outcome.2.random) loaded
  have dialect : loading.2.dialect = d := congrArg (fun outcome => outcome.2.dialect) loaded
  refine ⟨congrArg Prod.fst loaded, ?_, ?_⟩
  · intro k inside
    have run := hasRun_after awake pc words straight (Nat.le_of_lt inside)
    exact (run.cycle inside (words k inside) (straight _ (List.getElem_mem _))).1
  · intro k within m
    have run := hasRun_after awake pc words straight within
    have folded := run.folded
    rw [random, dialect] at folded
    exact ⟨run.pc, folded⟩

def filling : Program := List.replicate 1792 (.shift .left 0x3, 0x7)

theorem straight_line_runs_as_written_filling :
    let loading := (start Dialect.standard (RandomSource.ofList [])).perform (.load (assemble filling))
    filling.length ≤ 1792 ∧ (∀ entry ∈ filling, entry.1.straight = true) ∧ loading.1 = .done ∧
      (loading.2.after (List.replicate 1792 .cycle)).state.pc = 0 := by
  have length : filling.length = 1792 := List.length_replicate
  have straight : ∀ entry ∈ filling, entry.1.straight = true := by
    intro entry member
    rw [List.eq_of_mem_replicate member]
    rfl
  obtain ⟨done, _, ends⟩ :=
    straight_line_runs_as_written Dialect.standard (RandomSource.ofList []) filling (Nat.le_of_eq length) straight
  obtain ⟨pc, _⟩ := ends 1792 (Nat.le_of_eq length.symm)
  exact ⟨Nat.le_of_eq length, straight, done, pc⟩

end Machine

end Chip8
