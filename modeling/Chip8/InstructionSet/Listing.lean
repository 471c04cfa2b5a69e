import Chip8.InstructionSet.Basic
import Chip8.Text.Fields

namespace Chip8

namespace Condition

def listing : Condition → String
  | equalByte x kk => Text.withFields "SkipEqualByte" [("x", toString x.val), ("kk", toString kk.toNat)]
  | notEqualByte x kk => Text.withFields "SkipNotEqualByte" [("x", toString x.val), ("kk", toString kk.toNat)]
  | equalRegister x y => Text.withFields "SkipEqualRegister" [("x", toString x.val), ("y", toString y.val)]
  | notEqualRegister x y => Text.withFields "SkipNotEqualRegister" [("x", toString x.val), ("y", toString y.val)]
  | keyDown x => Text.withFields "SkipKeyPressed" [("x", toString x.val)]
  | keyUp x => Text.withFields "SkipKeyReleased" [("x", toString x.val)]

end Condition

namespace Arith

def name : Arith → String
  | move => "Move"
  | or => "Or"
  | and => "And"
  | xor => "Xor"
  | add => "AddRegister"
  | subtract => "Subtract"
  | subtractFrom => "SubtractReversed"

end Arith

namespace Shift

def name : Shift → String
  | left => "ShiftLeft"
  | right => "ShiftRight"

end Shift

namespace Instruction

def withAddress (name : String) (nnn : Address) : String := Text.withFields name [("nnn", toString nnn.val)]

def withRegister (name : String) (x : Register) : String := Text.withFields name [("x", toString x.val)]

def withByte (name : String) (x : Register) (kk : UInt8) : String :=
  Text.withFields name [("x", toString x.val), ("kk", toString kk.toNat)]

def listing : Instruction → String
  | clear => "Clear"
  | ret => "Return"
  | jump nnn => withAddress "Jump" nnn
  | call nnn => withAddress "Call" nnn
  | jumpOffset nnn => withAddress "JumpOffset" nnn
  | skip condition => condition.listing
  | loadByte x kk => withByte "LoadByte" x kk
  | addByte x kk => withByte "AddByte" x kk
  | arith op x y => Text.withFields op.name [("x", toString x.val), ("y", toString y.val)]
  | shift direction x => withRegister direction.name x
  | loadIndex nnn => withAddress "LoadIndex" nnn
  | addIndex x => withRegister "AddIndex" x
  | loadGlyph x => withRegister "LoadGlyph" x
  | random x kk => withByte "Random" x kk
  | draw x y n =>
    Text.withFields "Draw" [("x", toString x.val), ("y", toString y.val), ("n", toString n.val)]
  | loadDelay x => withRegister "LoadDelay" x
  | waitKey x => withRegister "WaitKey" x
  | setDelay x => withRegister "SetDelay" x
  | setSound x => withRegister "SetSound" x
  | storeDecimal x => withRegister "StoreBcd" x
  | storeRegisters x => withRegister "StoreRegisters" x
  | loadRegisters x => withRegister "LoadRegisters" x

end Instruction

end Chip8
