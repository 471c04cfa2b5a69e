namespace Chip8

structure Dialect where
  /-- Adding to the index register stores in VF whether the sum passed 0xFFF. -/
  indexOverflowFlag : Bool
  /-- A subtraction that borrows stores the difference the other way round. -/
  reverseSubtract : Bool
deriving DecidableEq

def Dialect.standard : Dialect := ⟨false, false⟩

end Chip8
