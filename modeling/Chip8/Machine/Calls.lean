import Chip8.Event

namespace Chip8

inductive Call where
  | load (program : List UInt8)
  | cycle
  | press (number : UInt8)
  | release (number : UInt8)
  | tick
  | takeFrame
deriving DecidableEq

inductive Reply where
  | done
  | stepped (step : Step)
  | frame (taken : Option Frame)
  | fault (fault : Fault)
deriving DecidableEq

namespace Reply

def ofStep : Except Fault Step → Reply
  | .ok step => .stepped step
  | .error f => .fault f

def ofUnit : Except Fault Unit → Reply
  | .ok () => .done
  | .error f => .fault f

end Reply

namespace Machine

def perform (m : Machine) : Call → Reply × Machine
  | .load program => (m.load program).map Reply.ofUnit id
  | .cycle => m.cycle.map Reply.ofStep id
  | .press number => (m.press number).map Reply.ofUnit id
  | .release number => (m.release number).map Reply.ofUnit id
  | .tick => (.done, m.tick)
  | .takeFrame =>
    let (taken, m') := m.takeFrame
    (.frame taken, m')

def events (m : Machine) : Call → List Event
  | .load program => m.loadEvents program
  | .cycle => m.cycleEvents
  | .press number =>
    match key? number with
    | .ok k => m.keyDownEvents k
    | .error _ => []
  | .release _ | .tick | .takeFrame => []

end Machine

end Chip8
