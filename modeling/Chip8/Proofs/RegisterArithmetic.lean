import Chip8.Proofs.StraightLine
import Chip8.Proofs.WriteSets

namespace Chip8

namespace Opcode

/-- Executing the opcode stores a value in Vx, which is all that it does. -/
def Stores (op : Opcode) (d : Dialect) (s : State) (x : Register) (value : Int) : Prop :=
  ∃ ins, Instruction.decode? op = some ins ∧ ∀ r, ∃ t, ins.execute d s r = .ok (t, r) ∧
    (t.v[x].toNat : Int) = value ∧ (∀ z, z ≠ x → t.v[z] = s.v[z]) ∧ t = { s with v := t.v }

/-- Executing the opcode stores a flag in VF and, unless Vx is VF, a value in Vx, which is all that it does. -/
def StoresFlagged (op : Opcode) (d : Dialect) (s : State) (x : Register) (value : Int) (flag : Prop) : Prop :=
  ∃ ins, Instruction.decode? op = some ins ∧ ∀ r, ∃ t, ins.execute d s r = .ok (t, r) ∧
    (flag → t.v[(0xF : Register)] = 1) ∧ (¬flag → t.v[(0xF : Register)] = 0) ∧
    (x ≠ 0xF → (t.v[x].toNat : Int) = value) ∧ (∀ z, z ≠ x → z ≠ 0xF → t.v[z] = s.v[z]) ∧ t = { s with v := t.v }

variable {op : Opcode} {d : Dialect} {s : State} {x y : Register} {ins : Instruction} {value : Int} {b : UInt8}
  {flag : Prop} {raised : Bool}

theorem Stores.of_execute (decoded : Instruction.decode? op = some ins)
    (executed : ∀ r, ins.execute d s r = .ok (Instruction.store s x (b, none), r)) (same : (b.toNat : Int) = value) :
    op.Stores d s x value := by
  refine ⟨ins, decoded, fun r => ⟨_, executed r, ?_, ?_, rfl⟩⟩
  · rw [Instruction.store, State.getElem_setRegister_self]
    exact same
  · intro z other
    exact State.getElem_setRegister_of_ne other

theorem StoresFlagged.of_execute (decoded : Instruction.decode? op = some ins)
    (executed : ∀ r, ins.execute d s r = .ok (Instruction.store s x (b, some raised), r))
    (same : (b.toNat : Int) = value) (flags : raised = true ↔ flag) : op.StoresFlagged d s x value flag := by
  refine ⟨ins, decoded, fun r => ⟨_, executed r, ?_, ?_, ?_, ?_, rfl⟩⟩
  · intro flagged
    rw [Instruction.store, State.getElem_setFlag_self, flags.mpr flagged]
    rfl
  · intro unflagged
    rw [Instruction.store, State.getElem_setFlag_self, Bool.eq_false_iff.mpr (mt flags.mp unflagged)]
    rfl
  · intro kept
    rw [Instruction.store, State.getElem_setFlag_of_ne kept, State.getElem_setRegister_self]
    exact same
  · intro z other notFlag
    exact (State.getElem_setFlag_of_ne notFlag _).trans (State.getElem_setRegister_of_ne other)

theorem stores_arith (operation : Arith) (computed : operation.compute d s.v[x] s.v[y] = (b, none))
    (same : (b.toNat : Int) = value) : (ofNibbles 0x8 x y operation.nibble).Stores d s x value := by
  refine .of_execute (Instruction.decode?_encodeWith (.arith operation x y) 0) ?_ same
  intro r
  rw [← computed]
  rfl

theorem storesFlagged_arith (operation : Arith) (computed : operation.compute d s.v[x] s.v[y] = (b, some raised))
    (same : (b.toNat : Int) = value) (flags : raised = true ↔ flag) :
    (ofNibbles 0x8 x y operation.nibble).StoresFlagged d s x value flag := by
  refine .of_execute (Instruction.decode?_encodeWith (.arith operation x y) 0) ?_ same flags
  intro r
  rw [← computed]
  rfl

theorem storesFlagged_shift (direction : Shift) (computed : direction.compute s.v[x] = (b, raised))
    (same : (b.toNat : Int) = value) (flags : raised = true ↔ flag) :
    (ofNibbles 0x8 x y direction.nibble).StoresFlagged d s x value flag := by
  refine .of_execute (Instruction.decode?_encodeWith (.shift direction x) y) ?_ same flags
  intro r
  show (Instruction.shift direction x).execute d s r = _
  simp only [Instruction.execute, Instruction.attempt, Instruction.effect, computed]
  rfl

end Opcode

namespace Arith

theorem toNat_add_eq_emod (a b : UInt8) : ((a + b).toNat : Int) = (a.toNat + b.toNat : Int) % 256 := by
  rw [UInt8.toNat_add]
  omega

theorem toNat_sub_eq_emod (a b : UInt8) : ((a - b).toNat : Int) = (a.toNat - b.toNat : Int) % 256 := by
  have small := b.toNat_lt
  rw [UInt8.toNat_sub]
  omega

theorem toNat_sub_of_le {a b : UInt8} (order : b ≤ a) : ((a - b).toNat : Int) = a.toNat - b.toNat := by
  have order' := UInt8.le_iff_toNat_le.mp order
  have small := a.toNat_lt
  rw [toNat_sub_eq_emod]
  omega

theorem toNat_subtract (d : Dialect) (a b : UInt8) :
    ((subtract.compute d a b).1.toNat : Int) =
      if d.reverseSubtract ∧ (a.toNat : Int) < b.toNat then (b.toNat - a.toNat : Int)
      else (a.toNat - b.toNat : Int) % 256 := by
  have same : a < b ∧ d.reverseSubtract ↔ d.reverseSubtract ∧ (a.toNat : Int) < b.toNat := by
    rw [and_comm, UInt8.lt_iff_toNat_lt, Int.ofNat_lt]
  rw [compute]
  by_cases reversed : a < b ∧ d.reverseSubtract
  · rw [if_pos reversed, if_pos (same.mp reversed)]
    exact toNat_sub_of_le (UInt8.le_of_lt reversed.1)
  · rw [if_neg reversed, if_neg (mt same.mpr reversed)]
    exact toNat_sub_eq_emod a b

end Arith

namespace Shift

theorem toNat_left (a : UInt8) : ((a <<< 1).toNat : Int) = (2 * a.toNat : Int) % 256 := by
  have shifted : (a <<< 1).toNat = 2 * a.toNat % 256 := by
    rw [UInt8.toNat_shiftLeft, Nat.shiftLeft_eq, Nat.mul_comm]
    rfl
  omega

theorem toNat_right (a : UInt8) : ((a >>> 1).toNat : Int) = (a.toNat : Int) / 2 := by
  have shifted : (a >>> 1).toNat = a.toNat / 2 := by
    rw [UInt8.toNat_shiftRight, Nat.shiftRight_eq_div_pow]
    rfl
  omega

end Shift

namespace Opcode

theorem register_arithmetic (d : Dialect) (s : State) (x y : Register) (kk : UInt8) :
    let a : Int := s.v[x].toNat
    let b : Int := s.v[y].toNat
    let op (last : Nibble) : Opcode := ofNibbles 0x8 x y last
    (op 0x0).Stores d s x b ∧
    (op 0x1).Stores d s x (s.v[x].toNat ||| s.v[y].toNat : Nat) ∧
    (op 0x2).Stores d s x (s.v[x].toNat &&& s.v[y].toNat : Nat) ∧
    (op 0x3).Stores d s x (s.v[x].toNat ^^^ s.v[y].toNat : Nat) ∧
    (op 0x4).StoresFlagged d s x ((a + b) % 256) (a + b > 255) ∧
    (op 0x5).StoresFlagged d s x (if d.reverseSubtract ∧ a < b then b - a else (a - b) % 256) (a ≥ b) ∧
    (op 0x6).StoresFlagged d s x (a / 2) (a % 2 = 1) ∧
    (op 0x7).StoresFlagged d s x ((b - a) % 256) (b ≥ a) ∧
    (op 0xE).StoresFlagged d s x ((2 * a) % 256) (a ≥ 128) ∧
    (ofByte 0x7 x kk).Stores d s x ((a + kk.toNat) % 256) := by
  intro a b op
  refine ⟨?move, ?or, ?and, ?xor, ?add, ?subtract, ?right, ?subtractFrom, ?left, ?addByte⟩
  case move => exact stores_arith .move rfl rfl
  case or => exact stores_arith .or rfl (congrArg Nat.cast (UInt8.toNat_or _ _))
  case and => exact stores_arith .and rfl (congrArg Nat.cast (UInt8.toNat_and _ _))
  case xor => exact stores_arith .xor rfl (congrArg Nat.cast (UInt8.toNat_xor _ _))
  case add =>
    refine storesFlagged_arith .add rfl (Arith.toNat_add_eq_emod _ _) ?_
    rw [decide_eq_true_eq]
    omega
  case subtract =>
    refine storesFlagged_arith .subtract rfl (Arith.toNat_subtract d _ _) ?_
    rw [decide_eq_true_eq, UInt8.le_iff_toNat_le]
    omega
  case right =>
    refine storesFlagged_shift .right rfl (Shift.toNat_right _) ?_
    rw [decide_eq_true_eq, ← UInt8.toNat_inj, UInt8.toNat_mod]
    show s.v[x].toNat % 2 = 1 ↔ a % 2 = 1
    omega
  case subtractFrom =>
    refine storesFlagged_arith .subtractFrom rfl (Arith.toNat_sub_eq_emod _ _) ?_
    rw [decide_eq_true_eq, UInt8.le_iff_toNat_le]
    omega
  case left =>
    refine storesFlagged_shift .left rfl (Shift.toNat_left _) ?_
    rw [decide_eq_true_eq, UInt8.le_iff_toNat_le]
    show 128 ≤ s.v[x].toNat ↔ a ≥ 128
    omega
  case addByte =>
    exact .of_execute (Instruction.decode?_encodeWith (.addByte x kk) 0) (fun r => rfl) (Arith.toNat_add_eq_emod _ _)

end Opcode

end Chip8
