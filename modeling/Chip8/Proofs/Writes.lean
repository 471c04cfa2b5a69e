import Chip8.Proofs.Faults
import Chip8.Proofs.KeyWait

namespace Chip8

namespace Memory

def fontByte (a : Address) : UInt8 :=
  if 0x050 ≤ a.val ∧ a.val < 0x0A0 then glyphs.getD (a.val - 0x050) 0 else 0

theorem getElem_initial (a : Address) : initial[a] = fontByte a := by
  have size : glyphs.length = 80 := rfl
  have dark : zero[a] = 0 := by simp [zero]
  have start : Layout.fontStart = 0x050 := rfl
  rw [initial, getElem_write_ofNat zero (by decide), dark, start, fontByte, List.getD_eq_getElem?_getD]
  by_cases above : 0x050 ≤ a.val
  · by_cases below : a.val < 0x0A0
    · rw [if_pos above, if_pos ⟨above, below⟩]
    · rw [if_pos above, if_neg (by omega), List.getElem?_eq_none (by omega)]
      rfl
  · rw [if_neg above, if_neg (by omega)]

end Memory

namespace Exchange

def written? (e : Exchange) (a : Address) : Option UInt8 :=
  match e.call, e.executed? with
  | .load program, _ => if program.length ≤ 3584 ∧ 0x200 ≤ a.val then program[a.val - 0x200]? else none
  | .cycle, some (s, .storeDecimal x) =>
    [s.v[x] / 100, s.v[x] / 10 % 10, s.v[x] % 10][(a - Address.ofWord s.index).val]?
  | .cycle, some (s, .storeRegisters x) =>
    let offset := (a - Address.ofWord s.index).val
    if offset ≤ x.val then s.v[offset]? else none
  | _, _ => none

end Exchange

namespace Machine

variable {m : Machine} {c : Call} {a : Address}

def lastWritten? (m : Machine) (calls : List Call) (a : Address) : Option UInt8 :=
  (m.history calls).reverse.findSome? (·.written? a)

/-- What a request makes of a cell. -/
theorem memory_perform (m : Machine) (c : Call) (a : Address) :
    (m.perform c).2.state.memory[a] = (Exchange.written? ⟨m, c, (m.perform c).1⟩ a).getD m.state.memory[a] := by
  rcases perform_cases m c with ⟨idle, t, serves, after⟩ | ⟨ins, t, executed, rfl, _, _, effect, after⟩
  · rw [after, Exchange.written?, idle]
    cases serves with
    | kept ignored =>
      cases c with
      | load program =>
        have long : ¬(program.length ≤ 3584 ∧ 0x200 ≤ a.val) := fun fits => Nat.not_le.mpr ignored fits.1
        simp [long]
      | _ => rfl
    | @loaded program fits =>
      have short : program.length ≤ 3584 := fits
      have inside : Layout.programStart + program.length ≤ 4096 := Nat.add_le_add_left fits Layout.programStart
      have start : Layout.programStart = 0x200 := rfl
      rw [Memory.getElem_write_ofNat _ inside, start]
      simp only [short, true_and]
      split <;> rfl
    | _ => rfl
  · rw [after, Exchange.written?, executed]
    cases ins with
    | storeDecimal x =>
      cases effect
      exact Memory.getElem_write_eq _ _ (by simp [Instruction.digits]) a
    | storeRegisters x =>
      cases effect
      refine (Memory.getElem_write_eq _ _ (by simp; omega) a).trans ?_
      simp only [List.getElem?_take, Nat.lt_succ_iff, Vector.getElem?_toList]
      rfl
    | _ =>
      rw [(Instruction.footprint_effect effect).memory rfl]
      rfl

theorem memory_after (m : Machine) (calls : List Call) (a : Address) :
    (m.after calls).state.memory[a] = (m.lastWritten? calls a).getD m.state.memory[a] := by
  induction calls generalizing m with
  | nil => rfl
  | cons c calls ih =>
    rw [after_cons, ih, memory_perform, lastWritten?, lastWritten?, history, List.reverse_cons,
      List.findSome?_append]
    cases ((m.perform c).2.history calls).reverse.findSome? (·.written? a) with
    | none => simp
    | some b => rfl

theorem memory_after_of_unwritten {calls : List Call} (unwritten : ∀ e ∈ m.history calls, e.written? a = none) :
    (m.after calls).state.memory[a] = m.state.memory[a] := by
  have silent : m.lastWritten? calls a = none := by
    apply List.findSome?_eq_none_iff.mpr
    intro e member
    exact unwritten e (List.mem_reverse.mp member)
  rw [memory_after, silent]
  rfl

theorem memory_perform_load {program : List UInt8} (m : Machine) (fits : program.length ≤ 3584) {j : Nat}
    (inside : j < 3584) :
    (m.perform (.load program)).2.state.memory[Fin.ofNat 4096 (0x200 + j)] =
      program[j]?.getD m.state.memory[Fin.ofNat 4096 (0x200 + j)] := by
  have cell : (Fin.ofNat 4096 (0x200 + j)).val = 0x200 + j := Nat.mod_eq_of_lt (by omega)
  rw [memory_perform]
  simp only [Exchange.written?, cell, fits, Nat.le_add_right, true_and, if_true, Nat.add_sub_cancel_left]

theorem perform_stores {ins : Instruction} (stores : ins.stores = true)
    (executed : (m.perform c).1 = .stepped (.executed ins)) :
    (m.perform c).2.state.waiting = none ∧ (m.perform c).2.state.pc = (m.state.pc + 2) % 4096 := by
  obtain ⟨awake, _, t, effect, after⟩ := perform_of_executed executed
  rw [after, ← wrap_eq_mod]
  cases ins with
  | storeDecimal x | storeRegisters x =>
    cases effect
    exact ⟨awake, rfl⟩
  | _ => cases stores

theorem memory_holds_last_writes (d : Dialect) (r : RandomSource) (calls : List Call) :
    let first := start d r
    let m := first.after calls
    let cell (a : Address) : UInt8 := (first.lastWritten? calls a).getD (Memory.fontByte a)
    (∀ a : Address, m.state.memory[a] = cell a) ∧
    (∀ program, (program.length ≤ 3584 → (m.perform (.load program)).1 = .done) ∧
      (3584 < program.length → m.perform (.load program) = (.fault (.programTooLong program.length), m))) ∧
    (m.state.waiting = none →
      let w : Opcode := UInt16.ofNat
        (256 * (cell (Fin.ofNat 4096 m.state.pc.toNat)).toNat + (cell (Fin.ofNat 4096 (m.state.pc.toNat + 1))).toNat)
      m.state.memory.word m.state.pc = w ∧ m.FetchesAt m.state.pc ∧
        ∀ ins, m.cycle.1 = .ok (.executed ins) → m.cycle.2.state.opcode = w) ∧
    (∀ ins, ins.stores = true → (m.perform .cycle).1 = .stepped (.executed ins) →
      let e : Exchange := ⟨m, .cycle, (m.perform .cycle).1⟩
      let next := (m.perform .cycle).2
      next.state.pc = (m.state.pc + 2) % 4096 ∧ next.FetchesAt next.state.pc ∧
        let fresh (a : Address) : UInt8 := (e.written? a).getD (cell a)
        next.state.memory.word next.state.pc = UInt16.ofNat
          (256 * (fresh (Fin.ofNat 4096 next.state.pc.toNat)).toNat +
            (fresh (Fin.ofNat 4096 (next.state.pc.toNat + 1))).toNat)) ∧
    ∀ (long short : List UInt8) (between : List Call) (j : Nat), short.length ≤ long.length → long.length ≤ 3584 →
      short.length ≤ j → (inside : j < long.length) →
      let loaded := (m.perform (.load long)).2
      (∀ e ∈ loaded.history between, e.written? (Fin.ofNat 4096 (0x200 + j)) = none) →
      ((loaded.after between).perform (.load short)).2.state.memory[Fin.ofNat 4096 (0x200 + j)] = long[j] := by
  intro first m cell
  have cells (a : Address) : m.state.memory[a] = cell a := by
    rw [memory_after]
    exact congrArg _ (Memory.getElem_initial a)
  refine ⟨cells, ?_, ?_, ?_, ?_⟩
  · intro program
    rw [perform_load]
    constructor
    · intro fits
      rw [if_pos fits]
    · intro large
      rw [if_neg (Nat.not_le.mpr large)]
  · intro awake w
    have fetched : m.state.fetched.opcode = w := by rw [State.opcode_fetched, cells, cells]
    refine ⟨fetched, fetchesAt_pc awake, ?_⟩
    intro ins executed
    have decoded := (fetchesAt_pc awake).executed ins executed
    obtain ⟨_, _, _, opcode⟩ := cycle_executes awake ((cycle_executes_iff awake decoded).mp executed)
    exact opcode.trans fetched
  · intro ins stores executed e next
    obtain ⟨awake, pc⟩ := perform_stores stores executed
    refine ⟨pc, fetchesAt_pc awake, ?_⟩
    have fetched := State.opcode_fetched next.state
    rw [memory_perform, memory_perform, cells, cells] at fetched
    exact fetched
  · intro long short between j shorter fits tail inside loaded unwritten
    rw [memory_perform_load _ (by omega) (by omega), List.getElem?_eq_none tail]
    calc (loaded.after between).state.memory[Fin.ofNat 4096 (0x200 + j)]
        = loaded.state.memory[Fin.ofNat 4096 (0x200 + j)] := memory_after_of_unwritten unwritten
      _ = long[j] := by
        rw [memory_perform_load m fits (by omega), List.getElem?_eq_getElem inside]
        rfl

/-- A machine about to write the opcode 00E0 after the instruction that writes it. -/
def writesItself : List Call := [.load [0x60, 0x00, 0x61, 0xE0, 0xA2, 0x08, 0xF1, 0x55], .cycle, .cycle, .cycle]

theorem memory_holds_last_writes_itself :
    let m := (start Dialect.standard (RandomSource.ofList [])).after writesItself
    (m.perform .cycle).1 = .stepped (.executed (.storeRegisters 1)) ∧
    (m.perform .cycle).2.FetchesAt 0x208 ∧ (m.perform .cycle).2.state.memory.word 0x208 = 0x00E0 := by
  have executed : (((start Dialect.standard (RandomSource.ofList [])).after writesItself).perform .cycle).1 =
      .stepped (.executed (.storeRegisters 1)) := by decide +kernel
  have next : (((start Dialect.standard (RandomSource.ofList [])).after writesItself).perform .cycle).2.state.pc =
      0x208 := by decide +kernel
  obtain ⟨_, _, _, stores, _⟩ := memory_holds_last_writes Dialect.standard (RandomSource.ofList []) writesItself
  obtain ⟨_, fetches, word⟩ := stores (.storeRegisters 1) rfl executed
  rw [next] at fetches word
  refine ⟨executed, fetches, word.trans ?_⟩
  decide +kernel

end Machine

end Chip8
