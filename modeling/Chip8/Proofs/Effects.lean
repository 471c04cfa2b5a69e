import Chip8.Machine.Effect

namespace Chip8

variable {s t : State} {fault : Fault}

namespace State

theorem getElem_setRegister_self {x : Register} {b : UInt8} : (s.setRegister x b).v[x] = b :=
  Vector.getElem_set_self x.isLt

theorem getElem_setRegister_of_ne {x y : Register} {b : UInt8} (other : y ≠ x) : (s.setRegister x b).v[y] = s.v[y] := by
  have apart : x.val ≠ y.val := fun same => other (Fin.ext same.symm)
  exact Vector.getElem_set_ne x.isLt y.isLt apart

theorem getElem_setFlag_self (flag : Bool) : (s.setFlag flag).v[(0xF : Register)] = flag.toUInt8 :=
  getElem_setRegister_self

theorem getElem_setFlag_of_ne {y : Register} (other : y ≠ 0xF) (flag : Bool) : (s.setFlag flag).v[y] = s.v[y] :=
  getElem_setRegister_of_ne other

theorem call_eq_ok_iff {target : Address} :
    s.call target = .ok t ↔ ∃ room : s.sp.toNat < 16,
      t = { s with stack := s.stack.set s.sp.toNat s.pc room, sp := s.sp + 1, pc := target.toWord } := by
  unfold call
  split
  · rename_i room
    simp [room, eq_comm]
  · rename_i full
    simp [full]

theorem call_eq_error_iff {target : Address} :
    s.call target = .error fault ↔ 16 ≤ s.sp.toNat ∧ fault = .stackOverflow target.toWord s.fetchedFrom := by
  unfold call
  split
  · rename_i room
    simp [Nat.not_le.mpr room]
  · rename_i full
    simp [Nat.not_lt.mp full, eq_comm]

theorem ret_eq_ok_iff :
    s.ret = .ok t ↔ 0 < s.sp.toNat ∧ ∃ last : s.sp.toNat - 1 < 16,
      t = { s with pc := s.stack[s.sp.toNat - 1], sp := s.sp - 1 } := by
  unfold ret
  split
  · rename_i inside
    have last : s.sp.toNat - 1 < 16 := Nat.lt_of_lt_of_le (Nat.sub_one_lt_of_lt inside.1) inside.2
    simp [inside, last, eq_comm]
  · rename_i outside
    constructor
    · intro returned
      cases returned
    · rintro ⟨positive, last, _⟩
      exact absurd ⟨positive, Nat.le_of_pred_lt last⟩ outside

theorem ret_eq_error_iff :
    s.ret = .error fault ↔ (s.sp.toNat = 0 ∨ 16 < s.sp.toNat) ∧ fault = .stackUnderflow s.fetchedFrom := by
  have complement : s.sp.toNat = 0 ∨ 16 < s.sp.toNat ↔ ¬(0 < s.sp.toNat ∧ s.sp.toNat ≤ 16) := by omega
  rw [complement]
  unfold ret
  split
  · rename_i inside
    simp [inside]
  · rename_i outside
    simp [outside, eq_comm]

section Maps

variable (f : State → State) (sp : (f s).sp = s.sp) (stack : (f s).stack = s.stack) (pc : (f s).pc = s.pc)
  (apart : ∀ stack sp pc, { f s with stack, sp, pc } = f { s with stack, sp, pc })

include sp stack pc apart

theorem call_map (target : Address) : (f s).call target = (s.call target).map f := by
  by_cases room : s.sp.toNat < 16
  · simp only [call, sp, stack, pc, room, dite_true, apart, Except.map]
  · simp only [call, fetchedFrom, sp, pc, room, dite_false, Except.map]

theorem ret_map : (f s).ret = s.ret.map f := by
  by_cases inside : 0 < s.sp.toNat ∧ s.sp.toNat ≤ 16
  · simp only [ret, sp, stack, inside, true_and, dite_true, apart, Except.map]
  · simp only [ret, fetchedFrom, sp, pc, inside, dite_false, Except.map]

end Maps

theorem skipIf_eq (condition : Bool) : s.skipIf condition = { s with pc := (s.skipIf condition).pc } := by
  unfold skipIf
  split <;> rfl

theorem addIndex_eq (d : Dialect) (b : UInt8) :
    s.addIndex d b =
      { s with index := UInt16.ofNat ((s.index.toNat + b.toNat) % 4096), v := (s.addIndex d b).v } := by
  unfold addIndex
  dsimp only
  split <;> rfl

theorem v_addIndex {d : Dialect} {b : UInt8} (unflagged : d.indexOverflowFlag = false) :
    (s.addIndex d b).v = s.v := by
  simp [addIndex, unflagged]

theorem getElem_addIndex_of_ne {d : Dialect} {b : UInt8} {y : Register} (other : y ≠ 0xF) :
    (s.addIndex d b).v[y] = s.v[y] := by
  unfold addIndex
  dsimp only
  split
  · exact getElem_setFlag_of_ne other _
  · rfl

end State

namespace Instruction

def paints : Instruction → Bool
  | clear | draw _ _ _ => true
  | _ => false

def stores : Instruction → Bool
  | storeDecimal _ | storeRegisters _ => true
  | _ => false

def nests : Instruction → Bool
  | call _ | ret => true
  | _ => false

variable {d : Dialect} {r : RandomSource} {ins : Instruction}

theorem store_eq (x : Register) (result : UInt8 × Option Bool) :
    store s x result = { s with v := (store s x result).v } := by
  obtain ⟨value, _ | flag⟩ := result <;> rfl

theorem effect_eq_error_iff :
    ins.effect d r s = .error fault ↔
      (ins = ret ∧ (s.sp.toNat = 0 ∨ 16 < s.sp.toNat) ∧ fault = .stackUnderflow s.fetchedFrom) ∨
      ∃ nnn, ins = call nnn ∧ 16 ≤ s.sp.toNat ∧ fault = .stackOverflow nnn.toWord s.fetchedFrom := by
  cases ins with
  | ret => simp [effect, State.ret_eq_error_iff]
  | call nnn => simp [effect, State.call_eq_error_iff]
  | _ => simp [effect]

theorem execute_of_effect (effect : ins.effect d r s = .ok t) :
    ins.execute d s r = .ok (t, if ins.draws then r.advance else r) := by
  simp only [execute, attempt, effect]

theorem execute_eq_error_iff : ins.execute d s r = .error fault ↔ ins.effect d r s = .error fault := by
  simp only [execute, attempt]
  cases ins.effect d r s with
  | ok t => simp
  | error fault => simp

theorem draws_eq_false_of_effect_eq_error (faulted : ins.effect d r s = .error fault) : ins.draws = false := by
  rcases effect_eq_error_iff.mp faulted with ⟨rfl, _⟩ | ⟨nnn, rfl, _⟩ <;> rfl

/-- What the instruction leaves alone of a state that it leads to another one. -/
structure Footprint (ins : Instruction) (s t : State) : Prop where
  opcode : t.opcode = s.opcode
  keys : t.keys = s.keys
  frame : ins.paints = false → t.frame = s.frame
  redraw : ins.paints = false → t.redraw = s.redraw
  memory : ins.stores = false → t.memory = s.memory
  stack : ins.nests = false → t.stack = s.stack
  sp : ins.nests = false → t.sp = s.sp
  delay : (∀ x, ins ≠ setDelay x) → t.delay = s.delay
  sound : (∀ x, ins ≠ setSound x) → t.sound = s.sound
  waiting : (∀ x, ins ≠ waitKey x) → t.waiting = s.waiting

theorem footprint_registers (ins : Instruction) (s : State) (v : Vector UInt8 16) (index pc : UInt16) :
    ins.Footprint s { s with v, index, pc } :=
  ⟨rfl, rfl, fun _ => rfl, fun _ => rfl, fun _ => rfl, fun _ => rfl, fun _ => rfl, fun _ => rfl, fun _ => rfl,
    fun _ => rfl⟩

theorem footprint_effect (executed : ins.effect d r s = .ok t) : ins.Footprint s t := by
  cases ins with
  | ret =>
    obtain ⟨_, _, rfl⟩ := State.ret_eq_ok_iff.mp executed
    exact { footprint_registers ret s s.v s.index s.pc with sp := nofun }
  | call nnn =>
    obtain ⟨_, rfl⟩ := State.call_eq_ok_iff.mp executed
    exact { footprint_registers (call nnn) s s.v s.index s.pc with sp := nofun, stack := nofun }
  | clear =>
    obtain rfl := Except.ok.inj executed
    exact { footprint_registers clear s s.v s.index s.pc with frame := nofun, redraw := nofun }
  | draw x y n =>
    obtain rfl := Except.ok.inj executed
    exact { footprint_registers (draw x y n) s s.v s.index s.pc with frame := nofun, redraw := nofun }
  | storeDecimal x =>
    obtain rfl := Except.ok.inj executed
    exact { footprint_registers (storeDecimal x) s s.v s.index s.pc with memory := nofun }
  | storeRegisters x =>
    obtain rfl := Except.ok.inj executed
    exact { footprint_registers (storeRegisters x) s s.v s.index s.pc with memory := nofun }
  | setDelay x =>
    obtain rfl := Except.ok.inj executed
    exact { footprint_registers (setDelay x) s s.v s.index s.pc with delay := fun other => absurd rfl (other x) }
  | setSound x =>
    obtain rfl := Except.ok.inj executed
    exact { footprint_registers (setSound x) s s.v s.index s.pc with sound := fun other => absurd rfl (other x) }
  | waitKey x =>
    obtain rfl := Except.ok.inj executed
    exact { footprint_registers (waitKey x) s s.v s.index s.pc with waiting := fun other => absurd rfl (other x) }
  | skip condition =>
    obtain rfl := Except.ok.inj executed
    rw [State.skipIf_eq]
    exact footprint_registers _ s s.v s.index _
  | arith op x y =>
    obtain rfl := Except.ok.inj executed
    rw [store_eq]
    exact footprint_registers _ s _ s.index s.pc
  | shift direction x =>
    obtain rfl := Except.ok.inj executed
    rw [store_eq]
    exact footprint_registers _ s _ s.index s.pc
  | addIndex x =>
    obtain rfl := Except.ok.inj executed
    rw [State.addIndex_eq]
    exact footprint_registers _ s _ _ s.pc
  | jump | jumpOffset =>
    obtain rfl := Except.ok.inj executed
    exact footprint_registers _ s s.v s.index _
  | loadIndex | loadGlyph =>
    obtain rfl := Except.ok.inj executed
    exact footprint_registers _ s s.v _ s.pc
  | loadByte | addByte | random | loadDelay | loadRegisters =>
    obtain rfl := Except.ok.inj executed
    exact footprint_registers _ s _ s.index s.pc

end Instruction

end Chip8
