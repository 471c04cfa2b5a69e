import Chip8.InstructionSet.Encoding
import Chip8.Machine.Effect

namespace Chip8

structure Machine where
  state : State
  random : RandomSource
  dialect : Dialect

inductive Step where
  | executed (ins : Instruction)
  | blocked
deriving DecidableEq

namespace Machine

def start (d : Dialect) (r : RandomSource) : Machine := ⟨State.initial, r, d⟩

def load (m : Machine) (program : List UInt8) : Except Fault Unit × Machine :=
  if program.length ≤ Layout.programCapacity then
    let memory := m.state.memory.write (UInt16.ofNat Layout.programStart) program
    (.ok (), { m with state := { m.state with memory } })
  else (.error (.programTooLong program.length), m)

/-- Fetches an instruction and executes it, unless a register waits for a key. The state is replaced once the
    instruction has run to its end, while the random source is used as it runs. -/
def cycle (m : Machine) : Except Fault Step × Machine :=
  if m.state.waiting.isSome then (.ok .blocked, m)
  else
    let fetched := m.state.fetched
    match Instruction.decode fetched.opcode m.state.pc with
    | .error fault => (.error fault, m)
    | .ok ins =>
      match ins.attempt m.dialect fetched m.random with
      | (.ok state, random) => (.ok (.executed ins), { m with state, random })
      | (.error fault, random) => (.error fault, { m with random })

def keyDown (m : Machine) (k : Key) : Machine :=
  let pressed := { m.state with keys := m.state.keys.put k true }
  match m.state.keys[k], m.state.waiting with
  | false, some x =>
    { m with state := { pressed.setRegister x (UInt8.ofNat k.val) with waiting := none } }
  | _, _ => { m with state := pressed }

def keyUp (m : Machine) (k : Key) : Machine :=
  { m with state := { m.state with keys := m.state.keys.put k false } }

def key? (number : UInt8) : Except Fault Key :=
  if h : number.toNat < Layout.keyCount then .ok ⟨number.toNat, h⟩ else .error (.noSuchKey number)

def onKey (m : Machine) (act : Machine → Key → Machine) (number : UInt8) : Except Fault Unit × Machine :=
  match key? number with
  | .ok k => (.ok (), act m k)
  | .error fault => (.error fault, m)

def press (m : Machine) (number : UInt8) : Except Fault Unit × Machine := m.onKey keyDown number

def release (m : Machine) (number : UInt8) : Except Fault Unit × Machine := m.onKey keyUp number

def tick (m : Machine) : Machine :=
  let down (b : UInt8) : UInt8 := if b = 0 then 0 else b - 1
  { m with state := { m.state with delay := down m.state.delay, sound := down m.state.sound } }

def takeFrame (m : Machine) : Option Frame × Machine :=
  if m.state.redraw then (some m.state.frame, { m with state := { m.state with redraw := false } })
  else (none, m)

def beeping (m : Machine) : Bool := 0 < m.state.sound

end Machine

end Chip8
