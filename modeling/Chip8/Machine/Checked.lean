import Chip8.Machine.Effect

namespace Chip8

inductive Trap where
  | index (i size : Nat)
  | overflow
  | underflow
deriving DecidableEq

abbrev Checked := Except Trap

namespace Checked

variable {α : Type} {size : Nat}

def get (xs : Vector α size) (i : Nat) : Checked α :=
  if h : i < size then .ok xs[i] else .error (.index i size)

def set (xs : Vector α size) (i : Nat) (a : α) : Checked (Vector α size) :=
  if h : i < size then .ok (xs.set i a h) else .error (.index i size)

def upTo (xs : Vector α size) (last : Nat) : Checked (List α) :=
  if last < size then .ok (xs.toList.take (last + 1)) else .error (.index last size)

/-- A sum in a type of `range` numbers. -/
def add (range a b : Nat) : Checked Nat := if a + b < range then .ok (a + b) else .error .overflow

def mul (range a b : Nat) : Checked Nat := if a * b < range then .ok (a * b) else .error .overflow

def sub (a b : Nat) : Checked Nat := if b ≤ a then .ok (a - b) else .error .underflow

def shiftRight (width a distance : Nat) : Checked Nat :=
  if distance < width then .ok (a >>> distance) else .error .overflow

variable {β : Type} {i : Nat}

@[simp]
theorem ok_bind (a : α) (f : α → Checked β) : (Except.ok a >>= f) = f a := rfl

theorem get_of_lt (xs : Vector α size) (inside : i < size) : get xs i = .ok xs[i] := dif_pos inside

theorem set_of_lt (xs : Vector α size) (a : α) (inside : i < size) : set xs i a = .ok (xs.set i a inside) :=
  dif_pos inside

theorem upTo_of_lt (xs : Vector α size) (inside : i < size) : upTo xs i = .ok (xs.toList.take (i + 1)) :=
  if_pos inside

@[simp]
theorem get_index (xs : Vector α size) (i : Fin size) : get xs i.val = .ok xs[i] := get_of_lt xs i.isLt

@[simp]
theorem set_index (xs : Vector α size) (i : Fin size) (a : α) : set xs i.val a = .ok (xs.put i a) :=
  set_of_lt xs a i.isLt

theorem add_of_lt {range a b : Nat} (fits : a + b < range) : add range a b = .ok (a + b) := if_pos fits

theorem eq_of_add {range a b sum : Nat} (added : add range a b = .ok sum) : sum = a + b := by
  unfold add at added
  split at added
  · exact (Except.ok.inj added).symm
  · cases added

theorem mul_of_lt {range a b : Nat} (fits : a * b < range) : mul range a b = .ok (a * b) := if_pos fits

theorem sub_of_le {a b : Nat} (order : b ≤ a) : sub a b = .ok (a - b) := if_pos order

theorem shiftRight_of_lt {width a distance : Nat} (short : distance < width) :
    shiftRight width a distance = .ok (a >>> distance) := if_pos short

theorem foldlM_eq_ok {step : β → α → Checked β} {next : β → α → β} {xs : List α}
    (turns : ∀ b, ∀ a ∈ xs, step b a = .ok (next b a)) (b : β) : xs.foldlM step b = .ok (xs.foldl next b) := by
  induction xs generalizing b with
  | nil => rfl
  | cons a xs ih =>
    rw [List.foldlM_cons, turns b a (.head xs)]
    exact ih (fun b a' member => turns b a' (.tail a member)) (next b a)

end Checked

namespace Opcode

def xNumber (op : Opcode) : Nat := ((op &&& 0x0F00) >>> 8).toNat

def yNumber (op : Opcode) : Nat := ((op &&& 0x00F0) >>> 4).toNat

def nNumber (op : Opcode) : Nat := (op &&& 0x000F).toNat

def lowByte (op : Opcode) : UInt8 := (op &&& 0x00FF).toUInt8

def lowAddress (op : Opcode) : UInt16 := op &&& 0x0FFF

end Opcode

namespace State

def cellNumber (a : UInt16) : Nat := (a &&& 0x0FFF).toNat

def byteChecked (s : State) (a : UInt16) : Checked UInt8 := Checked.get s.memory (cellNumber a)

def setRegisterChecked (s : State) (x : Nat) (b : UInt8) : Checked State := do
  let v ← Checked.set s.v x b
  return { s with v }

def storeChecked (s : State) (x : Nat) : UInt8 × Option Bool → Checked State
  | (b, none) => s.setRegisterChecked x b
  | (b, some flag) => do
    let t ← s.setRegisterChecked x b
    t.setRegisterChecked 0xF flag.toUInt8

def callChecked (s : State) (target : UInt16) : Checked (Except Fault State) :=
  if Layout.stackDepth ≤ s.sp.toNat then return .error (.stackOverflow target s.fetchedFrom)
  else do
    let stack ← Checked.set s.stack s.sp.toNat s.pc
    let sp ← Checked.add UInt8.size s.sp.toNat 1
    return .ok { s with stack, sp := UInt8.ofNat sp, pc := target }

def retChecked (s : State) : Checked (Except Fault State) :=
  if s.sp.toNat = 0 ∨ Layout.stackDepth < s.sp.toNat then return .error (.stackUnderflow s.fetchedFrom)
  else do
    let sp ← Checked.sub s.sp.toNat 1
    let pc ← Checked.get s.stack sp
    return .ok { s with pc, sp := UInt8.ofNat sp }

def drawBit (row : UInt8) (left line : Nat) (drawn : Frame × Bool) (bit : Nat) : Checked (Frame × Bool) := do
  let distance ← Checked.sub 7 bit
  let shifted ← Checked.shiftRight 8 row.toNat distance
  if shifted % 2 = 0 then return drawn
  let column ← Checked.add UInt64.size left bit
  let pixels ← Checked.get drawn.1 line
  let pixel ← Checked.get pixels (column % Layout.frameWidth)
  let pixels ← Checked.set pixels (column % Layout.frameWidth) (pixel ^^^ 1)
  let frame ← Checked.set drawn.1 line pixels
  return (frame, drawn.2 || pixel == 1)

def drawRow (s : State) (top left : Nat) (drawn : Frame × Bool) (down : Nat) : Checked (Frame × Bool) := do
  let row ← s.byteChecked (s.index + UInt16.ofNat down)
  let line ← Checked.add UInt64.size top down
  (List.range 8).foldlM (drawBit row left (line % Layout.frameHeight)) drawn

def drawChecked (s : State) (x y n : Nat) : Checked State := do
  let left ← Checked.get s.v x
  let top ← Checked.get s.v y
  let (frame, met) ← (List.range n).foldlM (s.drawRow top.toNat left.toNat) (s.frame, false)
  let t ← s.setRegisterChecked 0xF met.toUInt8
  return { t with frame, redraw := true }

def addIndexChecked (s : State) (d : Dialect) (x : Nat) : Checked State := do
  let b ← Checked.get s.v x
  let sum ← Checked.add UInt32.size s.index.toNat b.toNat
  let moved := { s with index := UInt16.ofNat sum &&& 0x0FFF }
  if d.indexOverflowFlag then moved.setRegisterChecked 0xF (decide (0xFFF < sum)).toUInt8 else return moved

def loadGlyphChecked (s : State) (x : Nat) : Checked State := do
  let b ← Checked.get s.v x
  let offset ← Checked.mul UInt16.size (b &&& 0xF).toNat Layout.glyphSize
  let index ← Checked.add UInt16.size Layout.fontStart offset
  return { s with index := UInt16.ofNat index }

def writeChecked (s : State) (bytes : List UInt8) : Checked State := do
  let memory ← bytes.zipIdx.foldlM
    (fun memory (b, offset) => Checked.set memory (cellNumber (s.index + UInt16.ofNat offset)) b) s.memory
  return { s with memory }

def loadRegistersChecked (s : State) (x : Nat) : Checked State := do
  let replaced ← Checked.upTo s.v x
  let v ← (List.range replaced.length).foldlM
    (fun v offset => do Checked.set v offset (← s.byteChecked (s.index + UInt16.ofNat offset))) s.v
  return { s with v }

end State

namespace Condition

def holdsChecked (s : State) (op : Opcode) : Condition → Checked Bool
  | equalByte _ _ => return (← Checked.get s.v op.xNumber) == op.lowByte
  | notEqualByte _ _ => return (← Checked.get s.v op.xNumber) != op.lowByte
  | equalRegister _ _ => return (← Checked.get s.v op.xNumber) == (← Checked.get s.v op.yNumber)
  | notEqualRegister _ _ => return (← Checked.get s.v op.xNumber) != (← Checked.get s.v op.yNumber)
  | keyDown _ => do Checked.get s.keys ((← Checked.get s.v op.xNumber) &&& 0xF).toNat
  | keyUp _ => return !(← Checked.get s.keys ((← Checked.get s.v op.xNumber) &&& 0xF).toNat)

end Condition

namespace Arith

def computeChecked (d : Dialect) (a b : UInt8) (operation : Arith) : Checked (UInt8 × Option Bool) :=
  if operation = subtract ∧ a < b ∧ d.reverseSubtract then do
    let difference ← Checked.sub b.toNat a.toNat
    return (UInt8.ofNat difference, some (b ≤ a))
  else return operation.compute d a b

end Arith

namespace Instruction

/-- The instruction of an opcode, carried out with every check that a step may need: an index against the size of
    what it picks from, a number against the type that is to hold it. The operands are those of the opcode. -/
def checked (d : Dialect) (r : RandomSource) (s : State) (op : Opcode) : Instruction → Checked (Except Fault State)
  | clear => return .ok { s with frame := Frame.dark, redraw := true }
  | ret => s.retChecked
  | jump _ => return .ok { s with pc := op.lowAddress }
  | call _ => s.callChecked op.lowAddress
  | jumpOffset _ => return .ok { s with pc := (op.lowAddress + (← Checked.get s.v 0).toUInt16) &&& 0x0FFF }
  | skip condition => return .ok (s.skipIf (← condition.holdsChecked s op))
  | loadByte _ _ => return .ok (← s.setRegisterChecked op.xNumber op.lowByte)
  | addByte _ _ => return .ok (← s.setRegisterChecked op.xNumber ((← Checked.get s.v op.xNumber) + op.lowByte))
  | arith operation _ _ => do
    let a ← Checked.get s.v op.xNumber
    let b ← Checked.get s.v op.yNumber
    return .ok (← s.storeChecked op.xNumber (← operation.computeChecked d a b))
  | shift direction _ => do
    let (value, out) := direction.compute (← Checked.get s.v op.xNumber)
    return .ok (← s.storeChecked op.xNumber (value, some out))
  | loadIndex _ => return .ok { s with index := op.lowAddress }
  | addIndex _ => return .ok (← s.addIndexChecked d op.xNumber)
  | loadGlyph _ => return .ok (← s.loadGlyphChecked op.xNumber)
  | random _ _ => return .ok (← s.setRegisterChecked op.xNumber (r.peek &&& op.lowByte))
  | draw _ _ _ => return .ok (← s.drawChecked op.xNumber op.yNumber op.nNumber)
  | loadDelay _ => return .ok (← s.setRegisterChecked op.xNumber s.delay)
  | waitKey x => return .ok { s with waiting := some x }
  | setDelay _ => return .ok { s with delay := ← Checked.get s.v op.xNumber }
  | setSound _ => return .ok { s with sound := ← Checked.get s.v op.xNumber }
  | storeDecimal _ => return .ok (← s.writeChecked (digits (← Checked.get s.v op.xNumber)))
  | storeRegisters _ => return .ok (← s.writeChecked (← Checked.upTo s.v op.xNumber))
  | loadRegisters _ => return .ok (← s.loadRegistersChecked op.xNumber)

end Instruction

end Chip8
