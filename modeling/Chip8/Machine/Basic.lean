import Chip8.Frame
import Chip8.Dialect
import Chip8.Fault
import Chip8.InstructionSet.Basic

namespace Chip8

abbrev Key := Fin Layout.keyCount

structure State where
  v : Vector UInt8 Layout.registerCount
  index : UInt16
  pc : UInt16
  sp : UInt8
  stack : Vector UInt16 Layout.stackDepth
  delay : UInt8
  sound : UInt8
  memory : Memory
  frame : Frame
  keys : Vector Bool Layout.keyCount
  opcode : Opcode
  /-- The frame has changed since it was last taken. -/
  redraw : Bool
  /-- The register that waits for a key; nothing is executed before one goes down. -/
  waiting : Option Register
deriving DecidableEq

namespace State

def initial : State where
  v := Vector.replicate Layout.registerCount 0
  index := 0
  pc := UInt16.ofNat Layout.programStart
  sp := 0
  stack := Vector.replicate Layout.stackDepth 0
  delay := 0
  sound := 0
  memory := Memory.initial
  frame := Frame.dark
  keys := Vector.replicate Layout.keyCount false
  opcode := 0
  redraw := false
  waiting := none

def fetched (s : State) : State :=
  { s with pc := wrap (s.pc + 2), opcode := s.memory.word s.pc }

def fetchedFrom (s : State) : UInt16 := wrap (s.pc - 2)

def setRegister (s : State) (x : Register) (b : UInt8) : State := { s with v := s.v.put x b }

def setFlag (s : State) (flag : Bool) : State := s.setRegister 0xF flag.toUInt8

def skipIf (s : State) (condition : Bool) : State := if condition then { s with pc := wrap (s.pc + 2) } else s

def call (s : State) (target : Address) : Except Fault State :=
  if h : s.sp.toNat < Layout.stackDepth then
    .ok { s with stack := s.stack.set s.sp.toNat s.pc h, sp := s.sp + 1, pc := target.toWord }
  else .error (.stackOverflow target.toWord s.fetchedFrom)

def ret (s : State) : Except Fault State :=
  if h : 0 < s.sp.toNat ∧ s.sp.toNat ≤ Layout.stackDepth then
    .ok { s with pc := s.stack[s.sp.toNat - 1], sp := s.sp - 1 }
  else .error (.stackUnderflow s.fetchedFrom)

def draw (s : State) (x y : Register) (n : Nibble) : State :=
  let cells := Sprite.cells s.v[y].toNat s.v[x].toNat (s.memory.read s.index n.val)
  { s.setFlag (cells.any s.frame.isLit) with frame := s.frame.flipAll cells, redraw := true }

def addIndex (s : State) (d : Dialect) (b : UInt8) : State :=
  let sum := s.index.toNat + b.toNat
  let moved := { s with index := UInt16.ofNat (sum % 4096) }
  if d.indexOverflowFlag then moved.setFlag (4096 ≤ sum) else moved

end State

end Chip8
