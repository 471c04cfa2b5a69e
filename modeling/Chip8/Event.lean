import Chip8.Machine.Cycle
import Chip8.Text.Fields

namespace Chip8

inductive Level where
  | trace
  | debug
  | info
  | warn
deriving DecidableEq

inductive Event where
  | fetched (opcode : Opcode) (v : Vector UInt8 Layout.registerCount) (index pc : UInt16)
  | waiting (x : Register)
  | halting (pc : UInt16) (fault : Fault)
  | stored (length : Nat)
  | resumed (k : Key) (x : Register)
  | dialect (d : Dialect)
  | loaded (path : String) (length : Nat)
  | blocked (executed : Nat)
  | frameUpdated (executed : Nat)
  | sound (on : Bool)
deriving DecidableEq

def Dialect.listing (d : Dialect) : String :=
  Text.withFields "Quirks"
    [("index_overflow_sets_vf", toString d.indexOverflowFlag),
      ("legacy_reverse_subtract", toString d.reverseSubtract)]

namespace Level

def name : Level → String
  | trace => "TRACE"
  | debug => "DEBUG"
  | info => "INFO"
  | warn => "WARN"

end Level

namespace Event

def level : Event → Level
  | fetched _ _ _ _ => .trace
  | waiting _ | stored _ | resumed _ _ | frameUpdated _ | sound _ => .debug
  | dialect _ | loaded _ _ | blocked _ => .info
  | halting _ _ => .warn

def message : Event → String
  | fetched opcode v index pc =>
    Text.hex 4 opcode.toNat ++ " v[" ++ ", ".intercalate (v.toList.map fun b => Text.hex 2 b.toNat) ++ "] i" ++
      Text.hex 4 index.toNat ++ " pc" ++ Text.hex 4 pc.toNat
  | waiting x => "V" ++ Text.hex 1 x.val ++ " waiting for a key press"
  | halting pc fault => "halting at " ++ Text.hex0x 3 pc.toNat ++ ": " ++ fault.message
  | stored length => "loaded " ++ toString length ++ " byte rom at " ++ Text.hex0x 3 Layout.programStart
  | resumed k x => "key " ++ Text.hex 1 k.val ++ " resumes execution into V" ++ Text.hex 1 x.val
  | dialect d => "quirks: " ++ d.listing
  | loaded path length => "loaded " ++ path ++ " (" ++ toString length ++ " bytes)"
  | blocked executed => "blocked on a key press after " ++ toString executed ++ " instructions"
  | frameUpdated executed => "frame updated after " ++ toString executed ++ " instructions"
  | sound on => "sound " ++ if on then "on" else "off"

def line (e : Event) : String := e.level.name ++ " " ++ e.message

end Event

namespace Machine

def loadEvents (m : Machine) (program : List UInt8) : List Event :=
  match (m.load program).1 with
  | .ok _ => [.stored program.length]
  | .error _ => []

/-- The events of a cycle: the fetch with the state before it, then a register that waits or the fault. A
    machine that waits for a key fetches nothing and records nothing. -/
def cycleEvents (m : Machine) : List Event :=
  let s := m.state
  let fetch : Event := .fetched (s.memory.word s.pc) s.v s.index s.pc
  match m.cycle.1 with
  | .ok .blocked => []
  | .ok (.executed (.waitKey x)) => [fetch, .waiting x]
  | .ok (.executed _) => [fetch]
  | .error fault => [fetch, .halting s.pc fault]

def keyDownEvents (m : Machine) (k : Key) : List Event :=
  match m.state.keys[k], m.state.waiting with
  | false, some x => [.resumed k x]
  | _, _ => []

end Machine

end Chip8
