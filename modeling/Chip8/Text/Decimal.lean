namespace Chip8.Text

def ofDigits (digits : List Char) : Nat := digits.foldl (fun n c => 10 * n + (c.toNat - 48)) 0

def decimal? (text : List Char) : Option Nat :=
  if !text.isEmpty && text.all Char.isDigit then some (ofDigits text) else none

def uint64? (text : List Char) : Option UInt64 :=
  let unsigned := match text with
    | '+' :: digits => digits
    | _ => text
  match decimal? unsigned with
  | some n => if n < UInt64.size then some (UInt64.ofNat n) else none
  | none => none

end Chip8.Text
