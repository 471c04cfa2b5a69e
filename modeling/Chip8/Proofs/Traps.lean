import Chip8.Machine.Checked
import Chip8.Proofs.Drawing
import Chip8.Proofs.StraightLine

namespace Chip8

namespace Opcode

variable (op : Opcode)

theorem xNumber_eq : op.xNumber = op.x.val := by
  simp only [xNumber, UInt16.toNat_shiftRight, UInt16.toNat_and, Nat.shiftRight_and_distrib]
  show op.toNat >>> 8 &&& 2 ^ 4 - 1 = op.toNat / 256 % 16
  rw [Nat.and_two_pow_sub_one_eq_mod, Nat.shiftRight_eq_div_pow]

theorem yNumber_eq : op.yNumber = op.y.val := by
  simp only [yNumber, UInt16.toNat_shiftRight, UInt16.toNat_and, Nat.shiftRight_and_distrib]
  show op.toNat >>> 4 &&& 2 ^ 4 - 1 = op.toNat / 16 % 16
  rw [Nat.and_two_pow_sub_one_eq_mod, Nat.shiftRight_eq_div_pow]

theorem nNumber_eq : op.nNumber = op.n.val := by
  rw [nNumber, UInt16.toNat_and]
  exact Nat.and_two_pow_sub_one_eq_mod op.toNat 4

theorem lowByte_eq : op.lowByte = op.kk := by
  apply UInt8.toNat_inj.mp
  rw [lowByte, kk, UInt16.toNat_toUInt8, UInt16.toNat_and, UInt8.toNat_ofNat']
  show (op.toNat &&& 2 ^ 8 - 1) % 256 = op.toNat % 256
  rw [Nat.and_two_pow_sub_one_eq_mod]
  omega

end Opcode

theorem toNat_and_digit (b : UInt8) : (b &&& 0xF).toNat = b.toNat % 16 := by
  rw [UInt8.toNat_and]
  exact Nat.and_two_pow_sub_one_eq_mod b.toNat 4

namespace State

variable (s : State)

theorem cellNumber_eq (a : UInt16) : cellNumber a = (Address.ofWord a).val := toNat_and_mask a

@[simp]
theorem byteChecked_eq (a : UInt16) : s.byteChecked a = .ok (s.memory.byte a) := by
  rw [byteChecked, cellNumber_eq, Checked.get_index]
  rfl

@[simp]
theorem setRegisterChecked_eq (x : Register) (b : UInt8) : s.setRegisterChecked x.val b = .ok (s.setRegister x b) := by
  rw [setRegisterChecked, Checked.set_index]
  rfl

@[simp]
theorem setFlagChecked_eq (flag : Bool) : s.setRegisterChecked 0xF flag.toUInt8 = .ok (s.setFlag flag) :=
  s.setRegisterChecked_eq 0xF flag.toUInt8

theorem storeChecked_eq (x : Register) (result : UInt8 × Option Bool) :
    s.storeChecked x.val result = .ok (Instruction.store s x result) := by
  obtain ⟨b, _ | flag⟩ := result
  · exact s.setRegisterChecked_eq x b
  · rw [storeChecked, setRegisterChecked_eq, Checked.ok_bind, setFlagChecked_eq]
    rfl

theorem callChecked_eq (target : Address) : s.callChecked target.toWord = .ok (s.call target) := by
  unfold callChecked call
  by_cases room : s.sp.toNat < 16
  · have range : UInt8.size = 256 := rfl
    rw [if_neg (Nat.not_le.mpr room), dif_pos room, Checked.set_of_lt _ _ room, Checked.ok_bind,
      Checked.add_of_lt (by omega), Checked.ok_bind, UInt8.ofNat_add, UInt8.ofNat_toNat]
    rfl
  · rw [if_pos (Nat.not_lt.mp room), dif_neg room]
    rfl

theorem retChecked_eq : s.retChecked = .ok s.ret := by
  unfold retChecked ret
  by_cases inside : 0 < s.sp.toNat ∧ s.sp.toNat ≤ 16
  · have last : s.sp.toNat - 1 < 16 := by omega
    have sound : ¬(s.sp.toNat = 0 ∨ 16 < s.sp.toNat) := by omega
    have below : UInt8.ofNat (s.sp.toNat - 1) = s.sp - 1 := by
      apply UInt8.toNat_inj.mp
      have one : (1 : UInt8).toNat = 1 := rfl
      rw [UInt8.toNat_ofNat', UInt8.toNat_sub, one]
      omega
    rw [if_neg sound, dif_pos inside, Checked.sub_of_le inside.1, Checked.ok_bind, Checked.get_of_lt _ last,
      Checked.ok_bind, below]
    rfl
  · have outside : s.sp.toNat = 0 ∨ 16 < s.sp.toNat := by omega
    rw [if_pos outside, dif_neg inside]
    rfl

theorem addIndexChecked_eq (d : Dialect) (x : Register) : s.addIndexChecked d x.val = .ok (s.addIndex d s.v[x]) := by
  have range : UInt32.size = 4294967296 := rfl
  have indexBound := s.index.toNat_lt
  have byteBound := s.v[x].toNat_lt
  have masked : UInt16.ofNat (s.index.toNat + s.v[x].toNat) &&& 0x0FFF =
      UInt16.ofNat ((s.index.toNat + s.v[x].toNat) % 4096) := by
    apply UInt16.toNat_inj.mp
    rw [toNat_and_mask, UInt16.toNat_ofNat', UInt16.toNat_ofNat']
    omega
  unfold addIndexChecked addIndex
  rw [Checked.get_index, Checked.ok_bind, Checked.add_of_lt (by omega), Checked.ok_bind, masked]
  cases d.indexOverflowFlag with
  | true => exact setFlagChecked_eq _ _
  | false => rfl

theorem loadGlyphChecked_eq (x : Register) :
    s.loadGlyphChecked x.val =
      .ok { s with index := UInt16.ofNat (Layout.fontStart + Layout.glyphSize * (s.v[x].toNat % 16)) } := by
  have range : UInt16.size = 65536 := rfl
  unfold loadGlyphChecked
  rw [Checked.get_index, Checked.ok_bind, toNat_and_digit, Checked.mul_of_lt, Checked.ok_bind, Checked.add_of_lt,
    Checked.ok_bind, Nat.mul_comm]
  · rfl
  · simp only [Layout.fontStart, Layout.glyphSize]
    omega
  · simp only [Layout.glyphSize]
    omega

theorem foldlM_set_eq_write (a : UInt16) (bytes : List UInt8) (offset : Nat) (memory : Memory) :
    (bytes.zipIdx offset).foldlM
        (fun memory (b, offset) => Checked.set memory (cellNumber (a + UInt16.ofNat offset)) b) memory =
      .ok (memory.write (a + UInt16.ofNat offset) bytes) := by
  induction bytes generalizing offset memory with
  | nil => rfl
  | cons b bytes ih =>
    have next : a + UInt16.ofNat offset + 1 = a + UInt16.ofNat (offset + 1) := by
      rw [UInt16.ofNat_add, UInt16.add_assoc]
      rfl
    rw [List.zipIdx_cons, List.foldlM_cons]
    dsimp only
    rw [cellNumber_eq, Checked.set_index, Checked.ok_bind, ih, Memory.write, next]

theorem writeChecked_eq (bytes : List UInt8) :
    s.writeChecked bytes = .ok { s with memory := s.memory.write s.index bytes } := by
  have written := foldlM_set_eq_write s.index bytes 0 s.memory
  have start : s.index + UInt16.ofNat 0 = s.index := UInt16.add_zero s.index
  rw [start] at written
  rw [writeChecked, written]
  rfl

def loaded (count : Nat) : Vector UInt8 16 :=
  Vector.ofFn fun r => if r.val < count then s.memory.byte (s.index + UInt16.ofNat r.val) else s.v[r]

theorem loaded_zero : s.loaded 0 = s.v := by
  apply Vector.ext
  intro i inside
  simp [loaded]

theorem loaded_succ (r : Register) :
    (s.loaded r.val).put r (s.memory.byte (s.index + UInt16.ofNat r.val)) = s.loaded (r.val + 1) := by
  apply Vector.ext
  intro i inside
  rw [Vector.put_eq_set, Vector.getElem_set]
  by_cases here : r.val = i
  · subst here
    simp [loaded]
  · have same : i < r.val ↔ i < r.val + 1 := by omega
    rw [if_neg here, loaded, loaded, Vector.getElem_ofFn, Vector.getElem_ofFn]
    exact if_congr same rfl rfl

theorem foldlM_load_eq {count : Nat} (inside : count ≤ 16) :
    (List.range count).foldlM
        (fun v offset => do Checked.set v offset (← s.byteChecked (s.index + UInt16.ofNat offset))) s.v =
      .ok (s.loaded count) := by
  induction count with
  | zero =>
    rw [loaded_zero]
    rfl
  | succ count ih =>
    have step := loaded_succ s ⟨count, inside⟩
    have set := Checked.set_index (s.loaded count) ⟨count, inside⟩ (s.memory.byte (s.index + UInt16.ofNat count))
    rw [List.range_succ, List.foldlM_append, ih (Nat.le_of_succ_le inside), Checked.ok_bind, List.foldlM_cons,
      byteChecked_eq, Checked.ok_bind, set, step]
    rfl

theorem loadRegistersChecked_eq (x : Register) :
    s.loadRegistersChecked x.val = .ok { s with v := s.loaded (x.val + 1) } := by
  have inside := x.isLt
  rw [loadRegistersChecked, Checked.upTo_of_lt _ inside, Checked.ok_bind, s.v.length_take_index x,
    foldlM_load_eq s inside]
  rfl

theorem drawBit_eq (row : UInt8) {top left : Nat} (small : left < 256) (down : Nat) (drawn : Frame × Bool) {bit : Nat}
    (narrow : bit < 8) :
    drawBit row left ((top + down) % 32) drawn bit =
      .ok (if Sprite.sets row bit then Frame.cross drawn (Fin.ofNat 32 (top + down), Fin.ofNat 64 (left + bit))
        else drawn) := by
  have unset : row.toNat >>> (7 - bit) % 2 = 0 ↔ Sprite.sets row bit = false := by
    rw [Sprite.sets, Nat.testBit_eq_decide_div_mod_eq, Nat.shiftRight_eq_div_pow, decide_eq_false_iff_not]
    omega
  unfold drawBit
  rw [Checked.sub_of_le (by omega), Checked.ok_bind, Checked.shiftRight_of_lt (by omega), Checked.ok_bind]
  cases set : Sprite.sets row bit with
  | false =>
    rw [if_pos (unset.mpr set)]
    rfl
  | true =>
    have lit : ¬row.toNat >>> (7 - bit) % 2 = 0 := fun off => Bool.false_ne_true ((unset.mp off).symm.trans set)
    have line : (top + down) % 32 = (Fin.ofNat 32 (top + down)).val := rfl
    have column : (left + bit) % 64 = (Fin.ofNat 64 (left + bit)).val := rfl
    have range : UInt64.size = 18446744073709551616 := rfl
    rw [if_neg lit, Checked.add_of_lt (by omega), Checked.ok_bind, line, column]
    simp only [Checked.get_index, Checked.set_index, Checked.ok_bind]
    rfl

theorem cells_read (memory : Memory) (a : UInt16) (top left n : Nat) :
    Sprite.cells top left (memory.read a n) = (List.range n).flatMap fun down =>
      ((List.range 8).filter (Sprite.sets (memory.byte (a + UInt16.ofNat down)))).map fun right =>
        (Fin.ofNat 32 (top + down), Fin.ofNat 64 (left + right)) := by
  have rows : (memory.read a n).zipIdx =
      (List.range n).map fun down => (memory.byte (a + UInt16.ofNat down), down) := by
    apply List.ext_getElem?
    intro j
    rw [List.getElem?_zipIdx, List.getElem?_map]
    by_cases inside : j < n
    · rw [Memory.getElem?_read _ _ inside, List.getElem?_range inside]
      simp
    · rw [List.getElem?_eq_none (by rw [Memory.length_read]; omega), List.getElem?_eq_none (by simpa using inside)]
      rfl
  rw [Sprite.cells, rows, List.flatMap_map]

theorem drawRow_eq {top left : Nat} (low : top < 256) (small : left < 256) (drawn : Frame × Bool) {down : Nat}
    (short : down < 16) :
    s.drawRow top left drawn down =
      .ok ((((List.range 8).filter (Sprite.sets (s.memory.byte (s.index + UInt16.ofNat down)))).map fun right =>
        (Fin.ofNat 32 (top + down), Fin.ofNat 64 (left + right))).foldl Frame.cross drawn) := by
  have range : UInt64.size = 18446744073709551616 := rfl
  rw [drawRow, byteChecked_eq, Checked.ok_bind, Checked.add_of_lt (by omega), Checked.ok_bind, List.foldl_map,
    List.foldl_filter]
  exact Checked.foldlM_eq_ok (fun drawn bit member => drawBit_eq _ small down drawn (List.mem_range.mp member)) drawn

theorem drawChecked_eq (x y : Register) (n : Nibble) : s.drawChecked x.val y.val n.val = .ok (s.draw x y n) := by
  have swept : (List.range n.val).foldlM (s.drawRow s.v[y].toNat s.v[x].toNat) (s.frame, false) =
      .ok (s.frame.flipAll (Sprite.cells s.v[y].toNat s.v[x].toNat (s.memory.read s.index n.val)), s.meets x y n) := by
    rw [meets, ← Bool.false_or (List.any _ _), ← Frame.foldl_cross s.frame false (s.nodup_sprite_cells x y n),
      cells_read, List.foldl_flatMap]
    refine Checked.foldlM_eq_ok (fun drawn down member => ?_) _
    exact s.drawRow_eq s.v[y].toNat_lt s.v[x].toNat_lt drawn (Nat.lt_trans (List.mem_range.mp member) n.isLt)
  rw [drawChecked, Checked.get_index, Checked.ok_bind, Checked.get_index, Checked.ok_bind, swept, Checked.ok_bind]
  dsimp only
  rw [setFlagChecked_eq]
  rfl

end State

namespace Condition

open Opcode

theorem holdsChecked_eq (s : State) (condition : Condition) (spare : Nibble) :
    condition.holdsChecked s ((Instruction.skip condition).encodeWith spare) = .ok (condition.holds s) := by
  have key (x : Register) : (s.v[x] &&& 0xF).toNat = (Fin.ofNat 16 s.v[x].toNat).val := toNat_and_digit s.v[x]
  cases condition with
  | equalByte x kk | notEqualByte x kk =>
    rw [holdsChecked, Instruction.encodeWith, xNumber_eq, lowByte_eq, x_ofByte, kk_ofByte, Checked.get_index]
    rfl
  | equalRegister x y | notEqualRegister x y =>
    rw [holdsChecked, Instruction.encodeWith, xNumber_eq, yNumber_eq, x_ofNibbles, y_ofNibbles, Checked.get_index,
      Checked.get_index]
    rfl
  | keyDown x | keyUp x =>
    rw [holdsChecked, Instruction.encodeWith, xNumber_eq, x_ofByte, Checked.get_index, Checked.ok_bind, key,
      Checked.get_index]
    rfl

end Condition

namespace Arith

theorem computeChecked_eq (d : Dialect) (a b : UInt8) (operation : Arith) :
    operation.computeChecked d a b = .ok (operation.compute d a b) := by
  unfold computeChecked
  by_cases reversed : operation = subtract ∧ a < b ∧ d.reverseSubtract
  · obtain ⟨rfl, borrows, reverse⟩ := reversed
    have order := Nat.le_of_lt (UInt8.lt_iff_toNat_lt.mp borrows)
    have difference : UInt8.ofNat (b.toNat - a.toNat) = b - a := by
      rw [UInt8.ofNat_sub order, UInt8.ofNat_toNat, UInt8.ofNat_toNat]
    rw [if_pos ⟨rfl, borrows, reverse⟩, Checked.sub_of_le order, Checked.ok_bind, difference, compute,
      if_pos ⟨borrows, reverse⟩]
    rfl
  · rw [if_neg reversed]
    rfl

end Arith

namespace Instruction

open Opcode

variable (d : Dialect) (r : RandomSource) (s : State)

theorem checked_encodeWith (ins : Instruction) (spare : Nibble) :
    ins.checked d r s (ins.encodeWith spare) = .ok (ins.effect d r s) := by
  have address (a : Nibble) (nnn : Address) : (ofAddress a nnn).lowAddress = nnn.toWord := by
    rw [lowAddress, ← wrap_eq_and, wrap]
    exact congrArg Address.toWord (nnn_ofAddress a nnn)
  cases ins with
  | clear => rfl
  | ret => exact s.retChecked_eq
  | jump nnn | loadIndex nnn =>
    rw [checked, encodeWith, address]
    rfl
  | call nnn =>
    rw [checked, encodeWith, address]
    exact s.callChecked_eq nnn
  | jumpOffset nnn =>
    have first : Checked.get s.v 0 = .ok s.v[(0 : Register)] := Checked.get_index s.v 0
    rw [checked, encodeWith, address, first, Checked.ok_bind, ← wrap_eq_and]
    rfl
  | skip condition =>
    rw [checked, Condition.holdsChecked_eq]
    rfl
  | loadByte x kk | random x kk =>
    rw [checked, encodeWith, xNumber_eq, lowByte_eq, x_ofByte, kk_ofByte, State.setRegisterChecked_eq]
    rfl
  | addByte x kk =>
    rw [checked, encodeWith, xNumber_eq, lowByte_eq, x_ofByte, kk_ofByte, Checked.get_index, Checked.ok_bind,
      State.setRegisterChecked_eq]
    rfl
  | arith operation x y =>
    rw [checked, encodeWith, xNumber_eq, yNumber_eq, x_ofNibbles, y_ofNibbles, Checked.get_index, Checked.ok_bind,
      Checked.get_index, Checked.ok_bind, Arith.computeChecked_eq, Checked.ok_bind, State.storeChecked_eq]
    rfl
  | shift direction x =>
    rw [checked, encodeWith, xNumber_eq, x_ofNibbles, Checked.get_index, Checked.ok_bind]
    dsimp only
    rw [State.storeChecked_eq]
    rfl
  | addIndex x =>
    rw [checked, encodeWith, xNumber_eq, x_ofByte, State.addIndexChecked_eq]
    rfl
  | loadGlyph x =>
    rw [checked, encodeWith, xNumber_eq, x_ofByte, State.loadGlyphChecked_eq]
    rfl
  | draw x y n =>
    rw [checked, encodeWith, xNumber_eq, yNumber_eq, nNumber_eq, x_ofNibbles, y_ofNibbles, n_ofNibbles,
      State.drawChecked_eq]
    rfl
  | loadDelay x =>
    rw [checked, encodeWith, xNumber_eq, x_ofByte, State.setRegisterChecked_eq]
    rfl
  | waitKey x => rfl
  | setDelay x | setSound x =>
    rw [checked, encodeWith, xNumber_eq, x_ofByte, Checked.get_index]
    rfl
  | storeDecimal x =>
    rw [checked, encodeWith, xNumber_eq, x_ofByte, Checked.get_index, Checked.ok_bind, State.writeChecked_eq]
    rfl
  | storeRegisters x =>
    rw [checked, encodeWith, xNumber_eq, x_ofByte, Checked.upTo_of_lt _ x.isLt, Checked.ok_bind, State.writeChecked_eq]
    rfl
  | loadRegisters x =>
    have same : s.loaded (x.val + 1) =
        Vector.ofFn fun r => if r ≤ x then s.memory.byte (s.index + UInt16.ofNat r.val) else s.v[r] := by
      refine congrArg Vector.ofFn (funext fun r => if_congr ?_ rfl rfl)
      exact Nat.lt_succ_iff
    rw [checked, encodeWith, xNumber_eq, x_ofByte, State.loadRegistersChecked_eq, same]
    rfl

theorem no_instruction_traps (d : Dialect) (r : RandomSource) (s : State) (op : Opcode) (ins : Instruction)
    (decoded : decode? op = some ins) :
    ins.checked d r s op = .ok ((ins.execute d s r).map Prod.fst) ∧
    ∀ fault, ins.execute d s r = .error fault ↔
      (op.toNat / 4096 = 2 ∧ 16 ≤ s.sp.toNat ∧ fault = .stackOverflow (op % 4096) s.fetchedFrom) ∨
      (op = 0x00EE ∧ (s.sp.toNat = 0 ∨ 16 < s.sp.toNat) ∧ fault = .stackUnderflow s.fetchedFrom) := by
  constructor
  · have unchecked := checked_encodeWith d r s ins op.y
    rw [encodeWith_of_decode? decoded] at unchecked
    rw [unchecked, execute, attempt]
    cases ins.effect d r s <;> rfl
  · intro fault
    rw [execute_eq_error_iff, effect_eq_error_iff, group_eq_two_iff, ← decode?_eq_ret_iff, decoded, ← toWord_nnn,
      or_comm, Option.some.injEq, Option.some.injEq]
    refine or_congr_left ?_
    constructor
    · rintro ⟨nnn, rfl, full, overflow⟩
      obtain ⟨_, rfl⟩ := decode?_eq_call_iff.mp decoded
      exact ⟨rfl, full, overflow⟩
    · intro calls
      exact ⟨op.nnn, calls⟩

/-- A state that no machine comes to: its pointers are past the end of what they point into. -/
def corrupt : State := { State.initial with index := 0xFFFF, pc := 0xFFFF, sp := 200 }

theorem no_instruction_traps_corrupt :
    let r := RandomSource.ofList []
    decode? 0x00EE = some ret ∧ ret.execute Dialect.standard corrupt r = .error (.stackUnderflow 0xFFD) ∧
      ret.checked Dialect.standard r corrupt 0x00EE = .ok (.error (.stackUnderflow 0xFFD)) := by
  intro r
  have decoded : decode? 0x00EE = some ret := rfl
  obtain ⟨passes, faults⟩ := no_instruction_traps Dialect.standard r corrupt 0x00EE ret decoded
  have faulted := (faults (.stackUnderflow 0xFFD)).mpr (.inr ⟨rfl, .inr (by decide), rfl⟩)
  refine ⟨decoded, faulted, ?_⟩
  rw [passes, faulted]
  rfl

end Instruction

end Chip8
