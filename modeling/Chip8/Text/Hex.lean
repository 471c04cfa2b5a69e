namespace Chip8.Text

def hex (width n : Nat) : String :=
  let digits := (Nat.toDigits 16 n).map Char.toUpper
  String.ofList (List.replicate (width - digits.length) '0' ++ digits)

def hexLower (n : Nat) : String := String.ofList (Nat.toDigits 16 n)

def hex0x (width n : Nat) : String := "0x" ++ hex width n

end Chip8.Text
