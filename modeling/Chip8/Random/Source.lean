namespace Chip8

structure RandomSource where
  stream : Nat → UInt8
  drawn : Nat

namespace RandomSource

def ofStream (stream : Nat → UInt8) : RandomSource := ⟨stream, 0⟩

def ofList (bytes : List UInt8) : RandomSource := ofStream fun k => bytes.getD k 0

def peek (r : RandomSource) : UInt8 := r.stream r.drawn

def advance (r : RandomSource) : RandomSource := { r with drawn := r.drawn + 1 }

end RandomSource

end Chip8
