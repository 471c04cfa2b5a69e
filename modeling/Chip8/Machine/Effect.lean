import Chip8.Machine.Basic
import Chip8.Random.Source

namespace Chip8

namespace Condition

def holds (s : State) : Condition → Bool
  | equalByte x kk => s.v[x] == kk
  | notEqualByte x kk => s.v[x] != kk
  | equalRegister x y => s.v[x] == s.v[y]
  | notEqualRegister x y => s.v[x] != s.v[y]
  | keyDown x => s.keys[Fin.ofNat 16 s.v[x].toNat]
  | keyUp x => !s.keys[Fin.ofNat 16 s.v[x].toNat]

end Condition

namespace Arith

/-- What is stored for the operands `a` and `b`, and the flag of the operations that have one: a carry, or that
    nothing was borrowed. -/
def compute (d : Dialect) (a b : UInt8) : Arith → UInt8 × Option Bool
  | move => (b, none)
  | or => (a ||| b, none)
  | and => (a &&& b, none)
  | xor => (a ^^^ b, none)
  | add => (a + b, some (256 ≤ a.toNat + b.toNat))
  | subtract => (if a < b ∧ d.reverseSubtract then b - a else a - b, some (b ≤ a))
  | subtractFrom => (b - a, some (a ≤ b))

end Arith

namespace Shift

def compute (a : UInt8) : Shift → UInt8 × Bool
  | left => (a <<< 1, 128 ≤ a)
  | right => (a >>> 1, a % 2 = 1)

end Shift

namespace Instruction

/-- The result of an operation goes to Vx and its flag to VF, the flag last. -/
def store (s : State) (x : Register) : UInt8 × Option Bool → State
  | (value, none) => s.setRegister x value
  | (value, some flag) => (s.setRegister x value).setFlag flag

def digits (b : UInt8) : List UInt8 := [b / 100, b / 10 % 10, b % 10]

/-- The state that an instruction leads to from the state after its fetch; the random byte is the next one of `r`. -/
def effect (d : Dialect) (r : RandomSource) (s : State) : Instruction → Except Fault State
  | clear => .ok { s with frame := Frame.dark, redraw := true }
  | ret => s.ret
  | jump nnn => .ok { s with pc := nnn.toWord }
  | call nnn => s.call nnn
  | jumpOffset nnn => .ok { s with pc := wrap (nnn.toWord + s.v[0].toUInt16) }
  | skip condition => .ok (s.skipIf (condition.holds s))
  | loadByte x kk => .ok (s.setRegister x kk)
  | addByte x kk => .ok (s.setRegister x (s.v[x] + kk))
  | arith op x y => .ok (store s x (op.compute d s.v[x] s.v[y]))
  | shift direction x =>
    let (value, out) := direction.compute s.v[x]
    .ok (store s x (value, some out))
  | loadIndex nnn => .ok { s with index := nnn.toWord }
  | addIndex x => .ok (s.addIndex d s.v[x])
  | loadGlyph x =>
    .ok { s with index := UInt16.ofNat (Layout.fontStart + Layout.glyphSize * (s.v[x].toNat % 16)) }
  | random x kk => .ok (s.setRegister x (r.peek &&& kk))
  | draw x y n => .ok (s.draw x y n)
  | loadDelay x => .ok (s.setRegister x s.delay)
  | waitKey x => .ok { s with waiting := some x }
  | setDelay x => .ok { s with delay := s.v[x] }
  | setSound x => .ok { s with sound := s.v[x] }
  | storeDecimal x => .ok { s with memory := s.memory.write s.index (digits s.v[x]) }
  | storeRegisters x => .ok { s with memory := s.memory.write s.index (s.v.toList.take (x.val + 1)) }
  | loadRegisters x =>
    let loaded (r : Register) : UInt8 :=
      if r ≤ x then s.memory.byte (s.index + UInt16.ofNat r.val) else s.v[r]
    .ok { s with v := Vector.ofFn loaded }

/-- An instruction at work: the state it leads to or its fault, and the random source that it leaves. What was
    drawn before a fault stays drawn. -/
def attempt (d : Dialect) (ins : Instruction) (s : State) (r : RandomSource) : Except Fault State × RandomSource :=
  (ins.effect d r s, if ins.draws then r.advance else r)

def execute (d : Dialect) (ins : Instruction) (s : State) (r : RandomSource) :
    Except Fault (State × RandomSource) :=
  match ins.attempt d s r with
  | (.ok t, later) => .ok (t, later)
  | (.error fault, _) => .error fault

end Instruction

end Chip8
