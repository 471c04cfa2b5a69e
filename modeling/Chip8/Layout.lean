namespace Chip8.Layout

abbrev memorySize : Nat := 4096

abbrev registerCount : Nat := 16

abbrev stackDepth : Nat := 16

abbrev keyCount : Nat := 16

abbrev frameWidth : Nat := 64

abbrev frameHeight : Nat := 32

def programStart : Nat := 0x200

def programCapacity : Nat := memorySize - programStart

def fontStart : Nat := 0x050

def glyphSize : Nat := 5

def timerRate : Nat := 60

def defaultRate : Nat := 500

end Chip8.Layout
