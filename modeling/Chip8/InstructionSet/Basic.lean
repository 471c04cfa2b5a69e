import Chip8.InstructionSet.Fields

namespace Chip8

inductive Condition where
  | equalByte (x : Register) (kk : UInt8)
  | notEqualByte (x : Register) (kk : UInt8)
  | equalRegister (x y : Register)
  | notEqualRegister (x y : Register)
  /-- The key named by the low nibble of Vx is down. -/
  | keyDown (x : Register)
  | keyUp (x : Register)
deriving DecidableEq

inductive Arith where
  | move
  | or
  | and
  | xor
  | add
  | subtract
  | subtractFrom
deriving DecidableEq

inductive Shift where
  | left
  | right
deriving DecidableEq

inductive Instruction where
  | clear
  | ret
  | jump (nnn : Address)
  | call (nnn : Address)
  | jumpOffset (nnn : Address)
  | skip (condition : Condition)
  | loadByte (x : Register) (kk : UInt8)
  | addByte (x : Register) (kk : UInt8)
  | arith (op : Arith) (x y : Register)
  | shift (direction : Shift) (x : Register)
  | loadIndex (nnn : Address)
  | addIndex (x : Register)
  | loadGlyph (x : Register)
  | random (x : Register) (kk : UInt8)
  | draw (x y : Register) (n : Nibble)
  | loadDelay (x : Register)
  | waitKey (x : Register)
  | setDelay (x : Register)
  | setSound (x : Register)
  | storeDecimal (x : Register)
  | storeRegisters (x : Register)
  | loadRegisters (x : Register)
deriving DecidableEq

namespace Instruction

def draws : Instruction → Bool
  | random _ _ => true
  | _ => false

end Instruction

end Chip8
