import Chip8.Host.Keyboard
import Chip8.Host.Loop
import Chip8.Host.Screen
import Chip8.Random.ChaCha
import Chip8.Text.Quoted

namespace Chip8.Host

structure Setup where
  path : String
  pace : Pace
  seed : Option UInt64
  dialect : Dialect
  held : String
  /-- Whether the session waits so as not to run ahead of its clock. What it prints does not depend on it. -/
  throttled : Bool
deriving DecidableEq

structure ReadError where
  reason : String
  code : Nat
deriving DecidableEq

def ReadError.message (e : ReadError) : String := e.reason ++ " (os error " ++ toString e.code ++ ")"

abbrev Reading := Except ReadError (List UInt8)

inductive Failure where
  | unreadable (path : String) (error : ReadError)
  | unloadable (path : String) (fault : Fault)
  | unmappedKey (c : Char)
  | faulted (fault : Fault)
deriving DecidableEq

def Failure.chain : Failure → List String
  | unreadable path error => ["unable to read rom " ++ path, error.message]
  | unloadable path fault => ["unable to load rom " ++ path, fault.message]
  | unmappedKey c => ["no Chip-8 key is mapped to " ++ Text.quoted c]
  | faulted fault => [fault.message]

structure Report where
  printed : String
  result : Except Failure Stop

namespace Session

def randomSource (c : Setup) (outside : RandomSource) : RandomSource :=
  match c.seed with
  | some seed => RandomSource.ofSeed seed
  | none => outside

def hold (m : Machine) : List Char → Except Failure Machine
  | [] => .ok m
  | c :: held =>
    match keyOf? c with
    | some k => hold (m.keyDown k) held
    | none => .error (.unmappedKey c)

/-- The machine that a session starts with: the program is read, then loaded, then the keys are held down. -/
def prepare (c : Setup) (reading : Reading) (outside : RandomSource) : Except Failure Machine :=
  match reading with
  | .error error => .error (.unreadable c.path error)
  | .ok program =>
    match (Machine.start c.dialect (randomSource c outside)).load program with
    | (.error fault, _) => .error (.unloadable c.path fault)
    | (.ok (), m) => hold m c.held.toList

def result : Ending → Except Failure Stop
  | .stopped why => .ok why
  | .faulted fault => .error (.faulted fault)

def conclude (l : Loop) (ending : Ending) : Report :=
  ⟨Screen.render l.machine.state.frame ++ "\n", result ending⟩

def run (c : Setup) (reading : Reading) (outside : RandomSource) (fuel : Nat) : Option Report :=
  match prepare c reading outside with
  | .error failure => some ⟨"", .error failure⟩
  | .ok m =>
    let (l, ending) := (Loop.start m).follow c.pace fuel
    ending.map (conclude l)

def openingEvents (c : Setup) (reading : Reading) (outside : RandomSource) : List Event :=
  .dialect c.dialect ::
    match reading with
    | .error _ => []
    | .ok program =>
      let m := Machine.start c.dialect (randomSource c outside)
      m.loadEvents program ++ if (m.load program).1.isOk then [.loaded c.path program.length] else []

def events (c : Setup) (reading : Reading) (outside : RandomSource) (fuel : Nat) : List Event :=
  openingEvents c reading outside ++
    match prepare c reading outside with
    | .error _ => []
    | .ok m => (Loop.start m).events c.pace fuel

end Session

end Chip8.Host
