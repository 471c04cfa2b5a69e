import Chip8.Host.Argument
import Chip8.Host.Session
import Chip8.Text.Decimal

namespace Chip8.Host

inductive Setting where
  | rate
  | limit
  | seed
  | held
deriving DecidableEq

inductive Switch where
  | indexOverflow
  | reverseSubtract
  | unthrottled
deriving DecidableEq

inductive OptionName where
  | setting (s : Setting)
  | switch (s : Switch)
  | version
  | help
deriving DecidableEq

inductive UsageError where
  | unexpected (argument : String)
  | needlessValue (option : String)
  | repeated (option : String)
  | missingValue (option : String)
  | invalidValue (option value : String)
  | missingPath
deriving DecidableEq

inductive Request where
  | session (c : Setup)
  | version
  | help
deriving DecidableEq

structure Outcome where
  code : UInt8
  out : String
  err : String
deriving DecidableEq

namespace Setting

def name : Setting → String
  | rate => "hz"
  | limit => "cycles"
  | seed => "seed"
  | held => "hold"

end Setting

namespace Switch

def name : Switch → String
  | indexOverflow => "quirk-index-overflow"
  | reverseSubtract => "quirk-legacy-subtract"
  | unthrottled => "unthrottled"

end Switch

namespace OptionName

def all : List OptionName :=
  [setting .rate, setting .limit, setting .seed, setting .held, switch .indexOverflow, switch .reverseSubtract,
    switch .unthrottled, version, help]

def name : OptionName → String
  | setting s => s.name
  | switch s => s.name
  | version => "version"
  | help => "help"

def ofName? (name : String) : Option OptionName := all.find? (·.name = name)

end OptionName

structure Given where
  path : Option String
  rate : Option UInt64
  limit : Option UInt64
  seed : Option UInt64
  held : Option String
  switches : List Switch
deriving DecidableEq

namespace Given

def nothing : Given := ⟨none, none, none, none, none, []⟩

def has (g : Given) : Setting → Bool
  | .rate => g.rate.isSome
  | .limit => g.limit.isSome
  | .seed => g.seed.isSome
  | .held => g.held.isSome

def number (s : Setting) (text : String) : Except UsageError UInt64 :=
  match Text.uint64? text.toList with
  | some n => .ok n
  | none => .error (.invalidValue s.name text)

def set (g : Given) (s : Setting) (text : String) : Except UsageError Given :=
  if g.has s then .error (.repeated s.name)
  else
    match s with
    | .rate => (number s text).map fun n => { g with rate := some n }
    | .limit => (number s text).map fun n => { g with limit := some n }
    | .seed => (number s text).map fun n => { g with seed := some n }
    | .held => .ok { g with held := some text }

def turnOn (g : Given) (s : Switch) : Except UsageError Given :=
  if s ∈ g.switches then .error (.repeated s.name) else .ok { g with switches := s :: g.switches }

def place (g : Given) (text : String) : Except UsageError Given :=
  if g.path.isSome then .error (.unexpected text)
  else if text.isEmpty then .error (.invalidValue "ROM" text)
  else .ok { g with path := some text }

def setup (g : Given) : Except UsageError Setup :=
  match g.path with
  | none => .error .missingPath
  | some path =>
    .ok {
      path
      pace := ⟨g.rate.getD (UInt64.ofNat Layout.defaultRate), g.limit⟩
      seed := g.seed
      dialect := ⟨.indexOverflow ∈ g.switches, .reverseSubtract ∈ g.switches⟩
      held := g.held.getD ""
      throttled := .unthrottled ∉ g.switches }

end Given

namespace CommandLine

def placeAll (g : Given) : List String → Except UsageError Given
  | [] => .ok g
  | text :: rest => do placeAll (← g.place text) rest

def finish (g : Given) : Except UsageError Request := g.setup.map .session

def parseOnto (g : Given) : List String → Except UsageError Request
  | [] => finish g
  | text :: rest =>
    match Argument.ofText text with
    | .endOfOptions => placeAll g rest >>= finish
    | .plain path => do parseOnto (← g.place path) rest
    | .short letter =>
      if letter = 'V' then .ok .version else if letter = 'h' then .ok .help else .error (.unexpected text)
    | .long name value =>
      match OptionName.ofName? name, value with
      | none, _ => .error (.unexpected text)
      | some .version, none => .ok .version
      | some .help, none => .ok .help
      | some (.switch s), none => do parseOnto (← g.turnOn s) rest
      | some (.setting s), some value => do parseOnto (← g.set s value) rest
      | some (.setting s), none =>
        match rest with
        | [] => .error (.missingValue name)
        | next :: rest =>
          match Argument.ofText next with
          | .plain value => do parseOnto (← g.set s value) rest
          | _ => .error (.missingValue name)
      | some _, some _ => .error (.needlessValue name)

def parse (arguments : List String) : Except UsageError Request := parseOnto .nothing arguments

def version : String := "chip8 0.1.0\n"

def usage : String := "Usage: chip8 [OPTIONS] <ROM>\n"

def help : String :=
  "Runs a Chip-8 ROM headlessly and prints the final frame\n\n" ++ usage ++
    "\nArguments:\n" ++
    "  <ROM>  Path to the ROM image\n" ++
    "\nOptions:\n" ++
    "      --hz <HZ>                Instructions per second [default: 500]\n" ++
    "      --cycles <CYCLES>        Stop after this many instructions\n" ++
    "      --seed <SEED>            Seed for Cxkk so runs are reproducible\n" ++
    "      --hold <HOLD>            Keys held down for the whole run, in the QWERTY layout (e.g. \"qe\")\n" ++
    "      --quirk-index-overflow   Fx1E sets VF when I passes 0xFFF\n" ++
    "      --quirk-legacy-subtract  8xy5 stores Vy - Vx when it borrows\n" ++
    "      --unthrottled            Run as fast as possible\n" ++
    "  -h, --help                   Print help\n" ++
    "  -V, --version                Print version\n"

end CommandLine

namespace UsageError

def reason : UsageError → String
  | unexpected argument => "unexpected argument '" ++ argument ++ "' found"
  | needlessValue option => "the option '--" ++ option ++ "' takes no value"
  | repeated option => "the option '--" ++ option ++ "' cannot be used multiple times"
  | missingValue option => "a value is required for '--" ++ option ++ "' but none was supplied"
  | invalidValue option value => "invalid value '" ++ value ++ "' for '" ++ option ++ "'"
  | missingPath => "the following required arguments were not provided: <ROM>"

def outcome (e : UsageError) : Outcome :=
  ⟨2, "", "error: " ++ e.reason ++ "\n\n" ++ CommandLine.usage ++ "\nFor more information, try '--help'.\n"⟩

end UsageError

namespace Failure

def text (f : Failure) : String :=
  match f.chain with
  | [] => ""
  | attempt :: causes =>
    let below := causes.map fun cause => "    " ++ cause ++ "\n"
    "Error: " ++ attempt ++ "\n" ++ if causes.isEmpty then "" else "\nCaused by:\n" ++ String.join below

end Failure

namespace Report

def outcome (r : Report) : Outcome :=
  match r.result with
  | .ok _ => ⟨0, r.printed, ""⟩
  | .error failure => ⟨1, r.printed, failure.text⟩

end Report

namespace CommandLine

def session (arguments : List String) : Except Outcome Setup :=
  match parse arguments with
  | .error error => .error error.outcome
  | .ok .version => .error ⟨0, version, ""⟩
  | .ok .help => .error ⟨0, help, ""⟩
  | .ok (.session c) => .ok c

def outcome (arguments : List String) (read : String → Reading) (outside : RandomSource) (fuel : Nat) :
    Option Outcome :=
  match session arguments with
  | .error outcome => some outcome
  | .ok c => (Session.run c (read c.path) outside fuel).map Report.outcome

end CommandLine

end Chip8.Host
