import Chip8.Host.CommandLine

namespace Chip8.Host

/-- The reason and the number that the system gives for an error on a file. Some of its numbers come negated,
    and some reasons without their capital. -/
def ReadError.ofSystem : IO.Error → ReadError
  | .noFileOrDirectory _ code details | .inappropriateType _ code details | .permissionDenied _ code details
  | .invalidArgument _ code details | .resourceExhausted _ code details =>
    ⟨details.capitalize, if code < 0x80000000 then code.toNat else UInt32.size - code.toNat⟩
  | other => ⟨toString other, 0⟩

def readProgram (path : String) : IO Reading := do
  try return .ok (← IO.FS.readBinFile path).toList
  catch error => return .error (ReadError.ofSystem error)

def systemRandom : IO RandomSource := do
  let bytes := (← IO.getRandomBytes 32).toList
  let byte (k : Nat) : Nat := (bytes.getD k 0).toNat
  let word (k : Fin 8) : UInt32 :=
    UInt32.ofNat (byte (4 * k) + 0x100 * byte (4 * k + 1) + 0x10000 * byte (4 * k + 2) + 0x1000000 * byte (4 * k + 3))
  return RandomSource.ofKey (Vector.ofFn word)

/-- Takes turns to the end; with `throttled` it sleeps whenever the loop's clock is ahead of the time since
    `started`. -/
partial def takeTurns (c : Setup) (started : Nat) (l : Loop) : IO Report := do
  match l.turn c.pace with
  | (l, some ending) => return Session.conclude l ending
  | (l, none) =>
    if c.throttled then
      let elapsed := (← IO.monoNanosNow) - started
      IO.sleep (UInt32.ofNat ((l.clock.now - elapsed) / 1000000))
    takeTurns c started l

def runSession (c : Setup) : IO Report := do
  match Session.prepare c (← readProgram c.path) (← systemRandom) with
  | .error failure => return ⟨"", .error failure⟩
  | .ok m => takeTurns c (← IO.monoNanosNow) (Loop.start m)

end Chip8.Host

open Chip8.Host in
def main (arguments : List String) : IO UInt32 := do
  let outcome ← match CommandLine.session arguments with
    | .error outcome => pure outcome
    | .ok c => Report.outcome <$> runSession c
  IO.print outcome.out
  IO.eprint outcome.err
  return outcome.code.toUInt32
