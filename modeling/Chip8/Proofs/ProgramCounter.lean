import Chip8.Proofs.StraightLine
import Chip8.Proofs.WriteSets
import Mathlib.Logic.Basic

namespace Chip8

namespace Condition

def Met (s : State) : Condition → Prop
  | equalByte x kk => s.v[x] = kk
  | notEqualByte x kk => s.v[x] ≠ kk
  | equalRegister x y => s.v[x] = s.v[y]
  | notEqualRegister x y => s.v[x] ≠ s.v[y]
  | keyDown x => s.keys[Fin.ofNat 16 s.v[x].toNat] = true
  | keyUp x => s.keys[Fin.ofNat 16 s.v[x].toNat] = false

instance decidableMet (s : State) : (c : Condition) → Decidable (c.Met s)
  | equalByte x kk => inferInstanceAs (Decidable (s.v[x] = kk))
  | notEqualByte x kk => inferInstanceAs (Decidable (s.v[x] ≠ kk))
  | equalRegister x y => inferInstanceAs (Decidable (s.v[x] = s.v[y]))
  | notEqualRegister x y => inferInstanceAs (Decidable (s.v[x] ≠ s.v[y]))
  | keyDown x => inferInstanceAs (Decidable (s.keys[Fin.ofNat 16 s.v[x].toNat] = true))
  | keyUp x => inferInstanceAs (Decidable (s.keys[Fin.ofNat 16 s.v[x].toNat] = false))

def opposite : Condition → Condition
  | equalByte x kk => notEqualByte x kk
  | notEqualByte x kk => equalByte x kk
  | equalRegister x y => notEqualRegister x y
  | notEqualRegister x y => equalRegister x y
  | keyDown x => keyUp x
  | keyUp x => keyDown x

theorem holds_iff_met {s : State} {c : Condition} : c.holds s ↔ c.Met s := by
  cases c <;> simp [holds, Met]

theorem met_opposite_iff {s : State} {c : Condition} : c.opposite.Met s ↔ ¬c.Met s := by
  cases c <;> simp [opposite, Met]

end Condition

namespace Instruction

/-- Where the machine goes on after the instruction, which it executes in a state before the fetch. -/
def successor (s : State) : Instruction → Nat
  | jump nnn | call nnn => nnn.val
  | jumpOffset nnn => (nnn.val + s.v[(0 : Register)].toNat) % 4096
  | ret => s.stack[Fin.ofNat 16 (s.sp.toNat - 1)].toNat
  | skip condition => if condition.Met s then (s.pc.toNat + 4) % 4096 else (s.pc.toNat + 2) % 4096
  | _ => (s.pc.toNat + 2) % 4096

end Instruction

namespace State

theorem toNat_pc_fetched (s : State) : s.fetched.pc.toNat = (s.pc.toNat + 2) % 4096 := by
  have two : (2 : UInt16).toNat = 2 := rfl
  rw [fetched, toNat_wrap, UInt16.toNat_add, two]
  omega

theorem toNat_pc_skipIf_fetched (s : State) (condition : Bool) :
    (s.fetched.skipIf condition).pc.toNat =
      if condition then (s.pc.toNat + 4) % 4096 else (s.pc.toNat + 2) % 4096 := by
  have two : (2 : UInt16).toNat = 2 := rfl
  cases condition with
  | false => exact toNat_pc_fetched s
  | true =>
    show (wrap (s.fetched.pc + 2)).toNat = (s.pc.toNat + 4) % 4096
    rw [toNat_wrap, UInt16.toNat_add, toNat_pc_fetched, two]
    omega

end State

namespace Instruction

variable {d : Dialect} {r : RandomSource} {s t : State} {ins : Instruction}

theorem toNat_pc_effect (effect : ins.effect d r s.fetched = .ok t) : t.pc.toNat = ins.successor s := by
  cases ins with
  | jump nnn =>
    obtain rfl := Except.ok.inj effect
    exact nnn.toNat_toWord
  | call nnn =>
    obtain ⟨_, rfl⟩ := State.call_eq_ok_iff.mp effect
    exact nnn.toNat_toWord
  | jumpOffset nnn =>
    obtain rfl := Except.ok.inj effect
    have inside := nnn.isLt
    have small := s.v[(0 : Register)].toNat_lt
    show (wrap (nnn.toWord + s.v[(0 : Register)].toUInt16)).toNat = (nnn.val + s.v[(0 : Register)].toNat) % 4096
    rw [toNat_wrap, UInt16.toNat_add, nnn.toNat_toWord, UInt8.toNat_toUInt16]
    omega
  | ret =>
    obtain ⟨_, last, rfl⟩ := State.ret_eq_ok_iff.mp effect
    have slot : Fin.ofNat 16 (s.sp.toNat - 1) = ⟨s.sp.toNat - 1, last⟩ := Fin.ext (Nat.mod_eq_of_lt last)
    show s.stack[s.sp.toNat - 1].toNat = s.stack[Fin.ofNat 16 (s.sp.toNat - 1)].toNat
    rw [slot]
    rfl
  | skip condition =>
    obtain rfl := Except.ok.inj effect
    rw [State.toNat_pc_skipIf_fetched]
    exact if_congr Condition.holds_iff_met rfl rfl
  | waitKey | storeDecimal | storeRegisters =>
    obtain rfl := Except.ok.inj effect
    exact State.toNat_pc_fetched s
  | _ =>
    have straight := pc_of_straight rfl effect
    rw [straight]
    exact State.toNat_pc_fetched s

end Instruction

namespace Condition

def Skips (d : Dialect) (r : RandomSource) (s : State) (c : Condition) : Prop :=
  ∃ t, (Instruction.skip c).effect d r s.fetched = .ok t ∧ t.pc.toNat = (s.pc.toNat + 4) % 4096

variable {d : Dialect} {r : RandomSource} {s : State} {c : Condition}

theorem skips_iff_met : c.Skips d r s ↔ c.Met s := by
  have apart : (s.pc.toNat + 2) % 4096 ≠ (s.pc.toNat + 4) % 4096 := by omega
  constructor
  · intro skips
    obtain ⟨t, effect, far⟩ := skips
    have next := Instruction.toNat_pc_effect effect
    by_cases met : c.Met s
    · exact met
    · exact absurd ((next.trans (if_neg met)).symm.trans far) apart
  · intro met
    refine ⟨_, rfl, ?_⟩
    rw [State.toNat_pc_skipIf_fetched]
    exact if_pos (holds_iff_met.mpr met)

end Condition

namespace Machine

variable {m : Machine} {ins : Instruction}

theorem pc_after_cycle (executed : m.cycle.1 = .ok (.executed ins)) :
    m.cycle.2.state.pc.toNat = ins.successor m.state ∧
    ∀ (d : Dialect) (r : RandomSource) (s : State) (c : Condition), c.Skips d r s ↔ ¬c.opposite.Skips d r s := by
  refine ⟨Instruction.toNat_pc_effect (effect_of_executed executed), ?_⟩
  intro d r s c
  rw [Condition.skips_iff_met, Condition.skips_iff_met, Condition.met_opposite_iff, not_not]

/-- The requests up to a condition that lies at 0xFFD, the last odd address whose opcode does not reach around
    the end of memory. -/
def skipsAroundEnd : List Call :=
  [.load [0x60, 0x30, 0x61, 0x30, 0xAF, 0xFD, 0xF1, 0x55, 0x1F, 0xFD], .cycle, .cycle, .cycle, .cycle, .cycle]

theorem pc_after_cycle_around_end :
    let m := (start Dialect.standard (RandomSource.ofList [])).after skipsAroundEnd
    m.state.pc = 0xFFD ∧ m.cycle.1 = .ok (.executed (.skip (.equalByte 0 0x30))) ∧
      m.cycle.2.state.pc.toNat = 1 := by
  intro m
  have replied : (m.perform .cycle).1 = .stepped (.executed (.skip (.equalByte 0 0x30))) := by decide +kernel
  have executed := perform_cycle_eq_stepped_iff.mp replied
  have counters : m.state.pc = 0xFFD ∧ Instruction.successor m.state (.skip (.equalByte 0 0x30)) = 1 := by
    decide +kernel
  obtain ⟨next, _⟩ := pc_after_cycle executed
  exact ⟨counters.1, executed, next.trans counters.2⟩

end Machine

end Chip8
