import Chip8.Proofs.Requests

namespace Chip8

namespace Arith

def flagged : Arith → Bool
  | move | or | and | xor => false
  | add | subtract | subtractFrom => true

theorem isSome_flag (op : Arith) (d : Dialect) (a b : UInt8) : (op.compute d a b).2.isSome = op.flagged := by
  cases op <;> rfl

end Arith

namespace Instruction

def writes (d : Dialect) : Instruction → Register → Bool
  | loadByte x _, y | addByte x _, y | random x _, y | loadDelay x, y => y = x
  | arith op x _, y => y = x || op.flagged && y = 0xF
  | shift _ x, y => y = x || y = 0xF
  | draw _ _ _, y => y = 0xF
  | addIndex _, y => d.indexOverflowFlag && y = 0xF
  | loadRegisters x, y => y ≤ x
  | _, _ => false

def stored : Instruction → Nat
  | storeDecimal _ => 3
  | storeRegisters x => x.val + 1
  | _ => 0

/-- Whether the instruction writes to a cell. It writes from the index register on, around the end of memory. -/
def WritesCell (s : State) (ins : Instruction) (a : Address) : Prop :=
  ∃ j < ins.stored, (s.index.toNat + j) % 4096 = a.val

instance decidableWritesCell (s : State) (ins : Instruction) (a : Address) : Decidable (WritesCell s ins a) :=
  inferInstanceAs (Decidable (∃ j < ins.stored, (s.index.toNat + j) % 4096 = a.val))

variable {d : Dialect} {r : RandomSource} {s t : State} {ins : Instruction} {x y : Register}

theorem getElem_store_of_ne {result : UInt8 × Option Bool} (other : y ≠ x)
    (unflagged : result.2.isSome = true → y ≠ 0xF) : (store s x result).v[y] = s.v[y] := by
  obtain ⟨value, _ | flag⟩ := result
  · exact State.getElem_setRegister_of_ne other
  · exact (State.getElem_setFlag_of_ne (unflagged rfl) flag).trans (State.getElem_setRegister_of_ne other)

theorem getElem_v_effect (unwritten : ins.writes d y = false) (executed : ins.effect d r s = .ok t) :
    t.v[y] = s.v[y] := by
  cases ins with
  | ret =>
    obtain ⟨_, _, rfl⟩ := State.ret_eq_ok_iff.mp executed
    rfl
  | call nnn =>
    obtain ⟨_, rfl⟩ := State.call_eq_ok_iff.mp executed
    rfl
  | skip condition =>
    obtain rfl := Except.ok.inj executed
    rw [State.skipIf_eq]
  | loadByte | addByte | random | loadDelay =>
    obtain rfl := Except.ok.inj executed
    exact State.getElem_setRegister_of_ne (of_decide_eq_false unwritten)
  | arith op x z =>
    obtain rfl := Except.ok.inj executed
    simp only [writes, Bool.or_eq_false_iff, decide_eq_false_iff_not] at unwritten
    apply getElem_store_of_ne unwritten.1
    intro flag
    rw [Arith.isSome_flag] at flag
    simpa [flag] using unwritten.2
  | shift direction x =>
    obtain rfl := Except.ok.inj executed
    simp only [writes, Bool.or_eq_false_iff, decide_eq_false_iff_not] at unwritten
    exact getElem_store_of_ne unwritten.1 fun _ => unwritten.2
  | draw x z n =>
    obtain rfl := Except.ok.inj executed
    exact State.getElem_setFlag_of_ne (of_decide_eq_false unwritten) _
  | addIndex x =>
    obtain rfl := Except.ok.inj executed
    cases flag : d.indexOverflowFlag with
    | false => rw [State.v_addIndex flag]
    | true =>
      simp only [writes, flag, Bool.true_and, decide_eq_false_iff_not] at unwritten
      exact State.getElem_addIndex_of_ne unwritten
  | loadRegisters x =>
    obtain rfl := Except.ok.inj executed
    have beyond : ¬y ≤ x := of_decide_eq_false unwritten
    simp [beyond]
  | _ =>
    obtain rfl := Except.ok.inj executed
    rfl

theorem getElem_memory_effect {a : Address} (unwritten : ¬WritesCell s ins a)
    (executed : ins.effect d r s = .ok t) : t.memory[a] = s.memory[a] := by
  have missed (j : Nat) (inside : j < ins.stored) : (s.index.toNat + j) % 4096 ≠ a.val :=
    fun met => unwritten ⟨j, inside, met⟩
  cases ins with
  | storeDecimal x =>
    obtain rfl := Except.ok.inj executed
    exact Memory.getElem_write_of_forall_ne _ _ _ a missed
  | storeRegisters x =>
    obtain rfl := Except.ok.inj executed
    apply Memory.getElem_write_of_forall_ne
    intro j inside
    rw [List.length_take] at inside
    exact missed j (Nat.lt_of_lt_of_le inside (Nat.min_le_left _ _))
  | _ => rw [(footprint_effect executed).memory rfl]

theorem index_effect (noLoad : ∀ nnn, ins ≠ loadIndex nnn) (noAdd : ∀ x, ins ≠ addIndex x)
    (noGlyph : ∀ x, ins ≠ loadGlyph x) (executed : ins.effect d r s = .ok t) : t.index = s.index := by
  cases ins with
  | loadIndex nnn => exact absurd rfl (noLoad nnn)
  | addIndex x => exact absurd rfl (noAdd x)
  | loadGlyph x => exact absurd rfl (noGlyph x)
  | ret =>
    obtain ⟨_, _, rfl⟩ := State.ret_eq_ok_iff.mp executed
    rfl
  | call nnn =>
    obtain ⟨_, rfl⟩ := State.call_eq_ok_iff.mp executed
    rfl
  | skip condition =>
    obtain rfl := Except.ok.inj executed
    rw [State.skipIf_eq]
  | arith | shift =>
    obtain rfl := Except.ok.inj executed
    rw [store_eq]
  | _ =>
    obtain rfl := Except.ok.inj executed
    rfl

theorem sp_call {nnn : Address} (executed : (call nnn).effect d r s = .ok t) : t.sp.toNat = s.sp.toNat + 1 := by
  obtain ⟨room, rfl⟩ := State.call_eq_ok_iff.mp executed
  have one : (1 : UInt8).toNat = 1 := rfl
  rw [UInt8.toNat_add, one]
  omega

theorem sp_ret (executed : ret.effect d r s = .ok t) : t.sp.toNat + 1 = s.sp.toNat := by
  obtain ⟨positive, last, rfl⟩ := State.ret_eq_ok_iff.mp executed
  have one : (1 : UInt8).toNat = 1 := rfl
  rw [UInt8.toNat_sub, one]
  omega

theorem getElem_stack_effect {slot : Fin 16} (uncalled : ∀ nnn, ins = call nnn → slot.val ≠ s.sp.toNat)
    (executed : ins.effect d r s = .ok t) : t.stack[slot] = s.stack[slot] := by
  cases ins with
  | ret =>
    obtain ⟨_, _, rfl⟩ := State.ret_eq_ok_iff.mp executed
    rfl
  | call nnn =>
    obtain ⟨room, rfl⟩ := State.call_eq_ok_iff.mp executed
    exact Vector.getElem_set_ne room slot.isLt (uncalled nnn rfl).symm
  | _ => rw [(footprint_effect executed).stack rfl]

end Instruction

namespace Machine

variable {m : Machine} {ins : Instruction}

theorem effect_of_executed (executed : m.cycle.1 = .ok (.executed ins)) :
    ins.effect m.dialect m.random m.state.fetched = .ok m.cycle.2.state := by
  cases cycled : m.cycle with
  | mk result m' =>
    rw [cycled] at executed
    cases executed
    cases cycles cycled with
    | executed awake decoded effect => exact effect

theorem cycle_writes_only (executed : m.cycle.1 = .ok (.executed ins)) :
    let s := m.state
    let t := m.cycle.2.state
    (∀ y : Register, ins.writes m.dialect y = false → t.v[y] = s.v[y]) ∧
    (∀ a : Address, ¬ins.WritesCell s a → t.memory[a] = s.memory[a]) ∧
    ((∀ nnn, ins ≠ .loadIndex nnn) → (∀ x, ins ≠ .addIndex x) → (∀ x, ins ≠ .loadGlyph x) → t.index = s.index) ∧
    ((∀ nnn, ins = .call nnn → t.sp.toNat = s.sp.toNat + 1) ∧ (ins = .ret → t.sp.toNat + 1 = s.sp.toNat) ∧
      ((∀ nnn, ins ≠ .call nnn) → ins ≠ .ret → t.sp = s.sp)) ∧
    (∀ slot : Fin 16, (∀ nnn, ins = .call nnn → slot.val ≠ s.sp.toNat) → t.stack[slot] = s.stack[slot]) ∧
    ((∀ x, ins ≠ .setDelay x) → t.delay = s.delay) ∧ ((∀ x, ins ≠ .setSound x) → t.sound = s.sound) ∧
    (ins ≠ .clear → (∀ x y n, ins ≠ .draw x y n) → t.frame = s.frame ∧ t.redraw = s.redraw) ∧
    ((∀ x, ins ≠ .waitKey x) → t.waiting = s.waiting) ∧ t.keys = s.keys := by
  intro s t
  have effect := effect_of_executed executed
  have footprint := Instruction.footprint_effect effect
  refine ⟨?_, ?_, ?_, ⟨?_, ?_, ?_⟩, ?_, footprint.delay, footprint.sound, ?_, footprint.waiting, footprint.keys⟩
  · intro y unwritten
    exact Instruction.getElem_v_effect (s := s.fetched) unwritten effect
  · intro a unwritten
    exact Instruction.getElem_memory_effect (s := s.fetched) unwritten effect
  · intro noLoad noAdd noGlyph
    exact Instruction.index_effect (s := s.fetched) noLoad noAdd noGlyph effect
  · rintro nnn rfl
    exact Instruction.sp_call (s := s.fetched) effect
  · rintro rfl
    exact Instruction.sp_ret (s := s.fetched) effect
  · intro noCall noRet
    have flat : ins.nests = false := by
      cases ins with
      | call nnn => exact absurd rfl (noCall nnn)
      | ret => exact absurd rfl noRet
      | _ => rfl
    exact footprint.sp flat
  · intro slot uncalled
    exact Instruction.getElem_stack_effect (s := s.fetched) uncalled effect
  · intro noClear noDraw
    have plain : ins.paints = false := by
      cases ins with
      | clear => exact absurd rfl noClear
      | draw x y n => exact absurd rfl (noDraw x y n)
      | _ => rfl
    exact ⟨footprint.frame plain, footprint.redraw plain⟩

/-- The requests up to an instruction that stores two registers in the last cell and in the first one. -/
def storesAroundEnd : List Call := [.load [0x60, 0x07, 0x61, 0x08, 0xAF, 0xFF, 0xF1, 0x55], .cycle, .cycle, .cycle]

theorem cycle_writes_only_around_end :
    let m := (start Dialect.standard (RandomSource.ofList [])).after storesAroundEnd
    m.cycle.1 = .ok (.executed (.storeRegisters 1)) ∧ m.cycle.2.state.index = 0xFFF ∧
      m.cycle.2.state.memory[(1 : Address)] = m.state.memory[(1 : Address)] ∧
      m.cycle.2.state.v[(1 : Register)] = 8 := by
  intro m
  have replied : (m.perform .cycle).1 = .stepped (.executed (.storeRegisters 1)) := by decide +kernel
  have executed := perform_cycle_eq_stepped_iff.mp replied
  have index : m.state.index = 0xFFF := by decide +kernel
  have value : m.state.v[(1 : Register)] = 8 := by decide +kernel
  obtain ⟨registers, cells, pointer, _⟩ := cycle_writes_only executed
  refine ⟨executed, (pointer nofun nofun nofun).trans index, cells 1 ?_, (registers 1 rfl).trans value⟩
  decide +kernel

end Machine

end Chip8
