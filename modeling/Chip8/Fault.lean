import Chip8.Layout
import Chip8.Text.Hex

namespace Chip8

inductive Fault where
  | unknownOpcode (opcode address : UInt16)
  | stackOverflow (target address : UInt16)
  | stackUnderflow (address : UInt16)
  | programTooLong (length : Nat)
  | noSuchKey (key : UInt8)
deriving DecidableEq

namespace Fault

def address (a : UInt16) : String := Text.hex0x 3 a.toNat

def message : Fault → String
  | unknownOpcode opcode a => "Unknown opcode " ++ Text.hex0x 4 opcode.toNat ++ " at " ++ address a
  | stackOverflow target a => "Stack overflow calling " ++ address target ++ " from " ++ address a
  | stackUnderflow a => "Stack underflow returning from " ++ address a
  | programTooLong length =>
    "Address out of range: " ++ toString length ++ " bytes at " ++ Text.hex0x 3 Layout.programStart ++
      " would run past the end of memory"
  | noSuchKey key => "Invalid key " ++ Text.hex0x 2 key.toNat

end Fault

end Chip8
