import Chip8.Indexing
import Chip8.Random.Source

namespace Chip8

abbrev Key256 := Vector UInt32 8

namespace ChaCha

abbrev Block := Vector UInt32 16

def rotateLeft (w distance : UInt32) : UInt32 := (w <<< distance) ||| (w >>> (32 - distance))

def rotateRight (w distance : UInt32) : UInt32 := rotateLeft w (32 - distance)

def quarterRound (s : Block) (a b c d : Fin 16) : Block :=
  let s := s.put a (s[a] + s[b])
  let s := s.put d (rotateLeft (s[d] ^^^ s[a]) 16)
  let s := s.put c (s[c] + s[d])
  let s := s.put b (rotateLeft (s[b] ^^^ s[c]) 12)
  let s := s.put a (s[a] + s[b])
  let s := s.put d (rotateLeft (s[d] ^^^ s[a]) 8)
  let s := s.put c (s[c] + s[d])
  s.put b (rotateLeft (s[b] ^^^ s[c]) 7)

def doubleRound (s : Block) : Block :=
  let s := quarterRound s 0 4 8 12
  let s := quarterRound s 1 5 9 13
  let s := quarterRound s 2 6 10 14
  let s := quarterRound s 3 7 11 15
  let s := quarterRound s 0 5 10 15
  let s := quarterRound s 1 6 11 12
  let s := quarterRound s 2 7 8 13
  quarterRound s 3 4 9 14

/-- The input of block number `counter`: four constants, the key, and the number in 64 bits before 64 zero bits.
    -/
def input (key : Key256) (counter : Nat) : Block :=
  #v[0x61707865, 0x3320646E, 0x79622D32, 0x6B206574,
    key[0], key[1], key[2], key[3], key[4], key[5], key[6], key[7],
    UInt32.ofNat counter, UInt32.ofNat (counter / UInt32.size), 0, 0]

def block (key : Key256) (counter : Nat) : Block :=
  let start := input key counter
  let mixed := Nat.repeat doubleRound 6 start
  Vector.zipWith (· + ·) start mixed

def word (key : Key256) (k : Nat) : UInt32 := (block key (k / 16))[Fin.ofNat 16 k]

end ChaCha

namespace Key256

def multiplier : UInt64 := 6364136223846793005

def increment : UInt64 := 11634580027462260723

def next (s : UInt64) : UInt64 := s * multiplier + increment

/-- A word out of the generator's state: high bits folded onto lower ones and rotated by the highest five. -/
def output (s : UInt64) : UInt32 :=
  let folded := ((s >>> 18) ^^^ s) >>> 27
  ChaCha.rotateRight folded.toUInt32 (s >>> 59).toUInt32

def ofSeed (seed : UInt64) : Key256 := Vector.ofFn fun k => output (Nat.repeat next (k.val + 1) seed)

end Key256

namespace RandomSource

def ofKey (key : Key256) : RandomSource := ofStream fun k => (ChaCha.word key k).toUInt8

def ofSeed (seed : UInt64) : RandomSource := ofKey (Key256.ofSeed seed)

end RandomSource

end Chip8
