import Chip8.Fault
import Chip8.InstructionSet.Basic

namespace Chip8

namespace Arith

def nibble : Arith → Nibble
  | move => 0x0
  | or => 0x1
  | and => 0x2
  | xor => 0x3
  | add => 0x4
  | subtract => 0x5
  | subtractFrom => 0x7

def ofNibble? (d : Nibble) : Option Arith :=
  [move, or, and, xor, add, subtract, subtractFrom].find? (·.nibble = d)

end Arith

namespace Shift

def nibble : Shift → Nibble
  | right => 0x6
  | left => 0xE

def ofNibble? (d : Nibble) : Option Shift :=
  [right, left].find? (·.nibble = d)

end Shift

namespace Instruction

/-- The opcode of an instruction; `spare` is the third nibble of a shift. -/
def encodeWith (spare : Nibble) : Instruction → Opcode
  | clear => 0x00E0
  | ret => 0x00EE
  | jump nnn => .ofAddress 0x1 nnn
  | call nnn => .ofAddress 0x2 nnn
  | skip (.equalByte x kk) => .ofByte 0x3 x kk
  | skip (.notEqualByte x kk) => .ofByte 0x4 x kk
  | skip (.equalRegister x y) => .ofNibbles 0x5 x y 0x0
  | loadByte x kk => .ofByte 0x6 x kk
  | addByte x kk => .ofByte 0x7 x kk
  | arith op x y => .ofNibbles 0x8 x y op.nibble
  | shift direction x => .ofNibbles 0x8 x spare direction.nibble
  | skip (.notEqualRegister x y) => .ofNibbles 0x9 x y 0x0
  | loadIndex nnn => .ofAddress 0xA nnn
  | jumpOffset nnn => .ofAddress 0xB nnn
  | random x kk => .ofByte 0xC x kk
  | draw x y n => .ofNibbles 0xD x y n
  | skip (.keyDown x) => .ofByte 0xE x 0x9E
  | skip (.keyUp x) => .ofByte 0xE x 0xA1
  | loadDelay x => .ofByte 0xF x 0x07
  | waitKey x => .ofByte 0xF x 0x0A
  | setDelay x => .ofByte 0xF x 0x15
  | setSound x => .ofByte 0xF x 0x18
  | addIndex x => .ofByte 0xF x 0x1E
  | loadGlyph x => .ofByte 0xF x 0x29
  | storeDecimal x => .ofByte 0xF x 0x33
  | storeRegisters x => .ofByte 0xF x 0x55
  | loadRegisters x => .ofByte 0xF x 0x65

def decodeArith? (x y : Register) (d : Nibble) : Option Instruction :=
  match Arith.ofNibble? d with
  | some op => some (arith op x y)
  | none => (Shift.ofNibble? d).map (shift · x)

def decodeMisc? (x : Register) (kk : UInt8) : Option Instruction :=
  match kk.toNat with
  | 0x07 => some (loadDelay x)
  | 0x0A => some (waitKey x)
  | 0x15 => some (setDelay x)
  | 0x18 => some (setSound x)
  | 0x1E => some (addIndex x)
  | 0x29 => some (loadGlyph x)
  | 0x33 => some (storeDecimal x)
  | 0x55 => some (storeRegisters x)
  | 0x65 => some (loadRegisters x)
  | _ => none

def decode? (op : Opcode) : Option Instruction :=
  match op.group.val with
  | 0x0 => if op = 0x00E0 then some clear else if op = 0x00EE then some ret else none
  | 0x1 => some (jump op.nnn)
  | 0x2 => some (call op.nnn)
  | 0x3 => some (skip (.equalByte op.x op.kk))
  | 0x4 => some (skip (.notEqualByte op.x op.kk))
  | 0x5 => if op.n = 0 then some (skip (.equalRegister op.x op.y)) else none
  | 0x6 => some (loadByte op.x op.kk)
  | 0x7 => some (addByte op.x op.kk)
  | 0x8 => decodeArith? op.x op.y op.n
  | 0x9 => if op.n = 0 then some (skip (.notEqualRegister op.x op.y)) else none
  | 0xA => some (loadIndex op.nnn)
  | 0xB => some (jumpOffset op.nnn)
  | 0xC => some (random op.x op.kk)
  | 0xD => some (draw op.x op.y op.n)
  | 0xE =>
    if op.kk = 0x9E then some (skip (.keyDown op.x))
    else if op.kk = 0xA1 then some (skip (.keyUp op.x))
    else none
  | 0xF => decodeMisc? op.x op.kk
  | _ => none

def decode (op : Opcode) (address : UInt16) : Except Fault Instruction :=
  match decode? op with
  | some ins => .ok ins
  | none => .error (.unknownOpcode op address)

end Instruction

end Chip8
