import Chip8.Text.Graphic
import Chip8.Text.Hex

namespace Chip8.Text

def escapes : List (Char × String) :=
  [(Char.ofNat 0x00, "\\0"), (Char.ofNat 0x09, "\\t"), (Char.ofNat 0x0D, "\\r"), (Char.ofNat 0x0A, "\\n"),
   (Char.ofNat 0x27, "\\'"), (Char.ofNat 0x5C, "\\\\")]

/-- A character as it is written between quotes; one that is neither graphic nor has an escape of its own is
    written by its code point. -/
def escaped (c : Char) : String :=
  match escapes.lookup c with
  | some text => text
  | none => if isGraphic c then c.toString else "\\u\x7b" ++ hexLower c.toNat ++ "\x7d"

def quoted (c : Char) : String := "'" ++ escaped c ++ "'"

end Chip8.Text
