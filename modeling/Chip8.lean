import Chip8.Host.Loop.Requests
import Chip8.InstructionSet.Listing
import Chip8.Main
import Chip8.Proofs.Opcodes
import Chip8.Proofs.Requests
import Chip8.Proofs.Bounds
import Chip8.Proofs.Screen
import Chip8.Proofs.Faults
import Chip8.Proofs.CallStack
import Chip8.Proofs.KeyWait
import Chip8.Proofs.Panel
import Chip8.Proofs.Commutation
import Chip8.Proofs.RandomDraws
import Chip8.Proofs.TimerIndependence
import Chip8.Proofs.Stopping
import Chip8.Proofs.TickRate
import Chip8.Proofs.Formats
import Chip8.Proofs.Writes
import Chip8.Proofs.StraightLine
import Chip8.Proofs.TakenFrames
import Chip8.Proofs.Countdown
import Chip8.Proofs.Dialects
import Chip8.Proofs.HeldKeys
import Chip8.Proofs.Outcomes
import Chip8.Proofs.WriteSets
import Chip8.Proofs.Glyphs
import Chip8.Proofs.SessionLog
import Chip8.Proofs.Numerals
import Chip8.Proofs.Arguments
import Chip8.Proofs.CommandLine
import Chip8.Proofs.Drawing
import Chip8.Proofs.ProgramCounter
import Chip8.Proofs.RegisterArithmetic
import Chip8.Proofs.Traps
import Chip8.Proofs.RegisterTransfer
import Chip8.Proofs.IndexRegister
import Chip8.Proofs.Decimals
import Chip8.Proofs.Rendering
import Chip8.Proofs.Counters
