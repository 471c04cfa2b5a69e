import Chip8.Proofs.Memory
import Chip8.Proofs.Opcodes
import Chip8.Proofs.Requests

namespace Chip8

namespace Frame

def Binary (f : Frame) : Prop := ∀ c, f.pixel c = 0 ∨ f.pixel c = 1

theorem Binary.dark : dark.Binary := by
  intro c
  left
  simp [Frame.dark, pixel]

theorem Binary.flip {f : Frame} (binary : f.Binary) (c : Cell) : (f.flip c).Binary := by
  intro d
  rw [pixel_flip]
  split
  · rcases binary d with off | on
    · right; rw [off]; rfl
    · left; rw [on]; rfl
  · exact binary d

theorem Binary.flipAll {f : Frame} (binary : f.Binary) (cells : List Cell) : (f.flipAll cells).Binary := by
  induction cells generalizing f with
  | nil => exact binary
  | cons c cells ih => exact ih (binary.flip c)

end Frame

namespace State

structure Bounded (s : State) : Prop where
  pc : s.pc ≤ 0xFFF
  index : s.index ≤ 0xFFF
  sp : s.sp ≤ 16
  stack : ∀ slot : Fin 16, s.stack[slot] ≤ 0xFFF
  frame : s.frame.Binary
  waiting : ∀ x, s.waiting = some x → s.opcode = (0xF00A : UInt16) ||| (UInt16.ofNat x.val <<< 8)

theorem Bounded.initial : initial.Bounded where
  pc := by decide
  index := by decide
  sp := by decide
  stack := by simp [State.initial]
  frame := Frame.Binary.dark
  waiting := by simp [State.initial]

variable {s t : State}

theorem Bounded.fetched (bounded : s.Bounded) (awake : s.waiting = none) : s.fetched.Bounded where
  pc := wrap_le _
  index := bounded.index
  sp := bounded.sp
  stack := bounded.stack
  frame := bounded.frame
  waiting := by simp [State.fetched, awake]

/-- The fields that no bound is about may change freely, and some of the others within their bounds. -/
theorem Bounded.update (bounded : s.Bounded) {v : Vector UInt8 16} {index pc : UInt16} {delay sound : UInt8}
    {memory : Memory} {frame : Frame} {keys : Vector Bool 16} {redraw : Bool} (pcBound : pc ≤ 0xFFF)
    (indexBound : index ≤ 0xFFF) (binary : frame.Binary) :
    { s with v, index, pc, delay, sound, memory, frame, keys, redraw }.Bounded :=
  ⟨pcBound, indexBound, bounded.sp, bounded.stack, binary, bounded.waiting⟩

theorem Bounded.skipIf (bounded : s.Bounded) (condition : Bool) : (s.skipIf condition).Bounded := by
  unfold State.skipIf
  split
  · exact bounded.update (wrap_le _) bounded.index bounded.frame
  · exact bounded

theorem Bounded.addIndex (bounded : s.Bounded) (d : Dialect) (b : UInt8) : (s.addIndex d b).Bounded := by
  rw [addIndex_eq]
  exact bounded.update bounded.pc (ofNat_le_of_le (by omega)) bounded.frame

theorem Bounded.call (bounded : s.Bounded) {target : Address} (called : s.call target = .ok t) : t.Bounded := by
  obtain ⟨room, rfl⟩ := call_eq_ok_iff.mp called
  refine ⟨target.toWord_le, bounded.index, ?_, ?_, bounded.frame, bounded.waiting⟩
  · have one : (1 : UInt8).toNat = 1 := rfl
    rw [UInt8.le_iff_toNat_le, UInt8.toNat_add, one]
    show (s.sp.toNat + 1) % 256 ≤ 16
    omega
  · intro slot
    simp only [Vector.getElem_index, Vector.getElem_set]
    split
    · exact bounded.pc
    · exact bounded.stack slot

theorem Bounded.ret (bounded : s.Bounded) (returned : s.ret = .ok t) : t.Bounded := by
  obtain ⟨positive, inside, rfl⟩ := ret_eq_ok_iff.mp returned
  refine ⟨bounded.stack ⟨s.sp.toNat - 1, inside⟩, bounded.index, ?_, bounded.stack, bounded.frame, bounded.waiting⟩
  have one : (1 : UInt8).toNat = 1 := rfl
  have top := UInt8.le_iff_toNat_le.mp bounded.sp
  rw [UInt8.le_iff_toNat_le, UInt8.toNat_sub, one]
  show (2 ^ 8 - 1 + s.sp.toNat) % 256 ≤ 16
  omega

theorem opcode_of_decode?_waitKey {op : Opcode} {x : Register}
    (decoded : Instruction.decode? op = some (.waitKey x)) :
    op = (0xF00A : UInt16) ||| (UInt16.ofNat x.val <<< 8) := by
  have named : ∀ x : Register, Opcode.ofByte 0xF x 0x0A = (0xF00A : UInt16) ||| (UInt16.ofNat x.val <<< 8) := by
    decide
  exact (Instruction.encodeWith_of_decode? decoded).symm.trans (named x)

theorem Bounded.effect {d : Dialect} {r : RandomSource} {ins : Instruction} (bounded : s.Bounded)
    (decoded : Instruction.decode? s.opcode = some ins) (executed : ins.effect d r s = .ok t) : t.Bounded := by
  cases ins with
  | ret => exact bounded.ret executed
  | call nnn => exact bounded.call executed
  | clear =>
    obtain rfl := Except.ok.inj executed
    exact bounded.update bounded.pc bounded.index Frame.Binary.dark
  | jump nnn =>
    obtain rfl := Except.ok.inj executed
    exact bounded.update nnn.toWord_le bounded.index bounded.frame
  | jumpOffset nnn =>
    obtain rfl := Except.ok.inj executed
    exact bounded.update (wrap_le _) bounded.index bounded.frame
  | skip condition =>
    obtain rfl := Except.ok.inj executed
    exact bounded.skipIf _
  | arith op x y =>
    obtain rfl := Except.ok.inj executed
    rw [Instruction.store_eq]
    exact bounded.update bounded.pc bounded.index bounded.frame
  | shift direction x =>
    obtain rfl := Except.ok.inj executed
    rw [Instruction.store_eq]
    exact bounded.update bounded.pc bounded.index bounded.frame
  | loadByte | addByte | random | loadDelay | loadRegisters =>
    obtain rfl := Except.ok.inj executed
    exact bounded.update bounded.pc bounded.index bounded.frame
  | loadIndex nnn =>
    obtain rfl := Except.ok.inj executed
    exact bounded.update bounded.pc nnn.toWord_le bounded.frame
  | addIndex x =>
    obtain rfl := Except.ok.inj executed
    exact bounded.addIndex d _
  | loadGlyph x =>
    obtain rfl := Except.ok.inj executed
    refine bounded.update bounded.pc (ofNat_le_of_le ?_) bounded.frame
    simp only [Layout.fontStart, Layout.glyphSize]
    omega
  | draw x y n =>
    obtain rfl := Except.ok.inj executed
    exact bounded.update bounded.pc bounded.index (bounded.frame.flipAll _)
  | waitKey x =>
    obtain rfl := Except.ok.inj executed
    refine ⟨bounded.pc, bounded.index, bounded.sp, bounded.stack, bounded.frame, ?_⟩
    intro x' waits
    cases waits
    exact opcode_of_decode?_waitKey decoded
  | setDelay | setSound | storeDecimal | storeRegisters =>
    obtain rfl := Except.ok.inj executed
    exact bounded.update bounded.pc bounded.index bounded.frame

theorem Bounded.serves {c : Call} (bounded : s.Bounded) (serves : s.Serves c t) : t.Bounded := by
  cases serves with
  | kept => exact bounded
  | answered named up waits =>
    exact ⟨bounded.pc, bounded.index, bounded.sp, bounded.stack, bounded.frame, nofun⟩
  | _ => exact bounded.update bounded.pc bounded.index bounded.frame

end State

namespace Machine

open State

theorem bounded_perform {m : Machine} (bounded : m.state.Bounded) (c : Call) : (m.perform c).2.state.Bounded := by
  rcases perform_cases m c with ⟨_, t, serves, after⟩ | ⟨ins, t, _, _, awake, decoded, effect, after⟩
  · rw [after]
    exact bounded.serves serves
  · rw [after]
    exact (bounded.fetched awake).effect decoded effect

theorem Reachable.bounded {m : Machine} (reached : m.Reachable) : m.state.Bounded := by
  induction reached with
  | start d r => exact Bounded.initial
  | perform reached c ih => exact bounded_perform ih c

theorem bounds_after (d : Dialect) (r : RandomSource) (calls : List Call) :
    let s := ((start d r).after calls).state
    s.pc ≤ 0xFFF ∧ s.index ≤ 0xFFF ∧ s.sp ≤ 16 ∧ (∀ slot : Fin 16, s.stack[slot] ≤ 0xFFF) ∧
      (∀ c : Cell, s.frame.pixel c = 0 ∨ s.frame.pixel c = 1) ∧
      ∀ x, s.waiting = some x → x.val < 16 ∧ s.opcode = (0xF00A : UInt16) ||| (UInt16.ofNat x.val <<< 8) := by
  have bounded := ((Reachable.start d r).after calls).bounded
  refine ⟨bounded.pc, bounded.index, bounded.sp, bounded.stack, bounded.frame, ?_⟩
  intro x waits
  exact ⟨x.isLt, bounded.waiting x waits⟩

end Machine

end Chip8
