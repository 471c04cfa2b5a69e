namespace Chip8.Host

inductive Argument where
  | endOfOptions
  | long (name : String) (value : Option String)
  | short (letter : Char)
  | plain (text : String)
deriving DecidableEq

namespace Argument

def splitValue : List Char → List Char × Option (List Char)
  | [] => ([], none)
  | c :: rest =>
    if c = '=' then ([], some rest)
    else
      let (name, value) := splitValue rest
      (c :: name, value)

def ofChars : List Char → Argument
  | '-' :: '-' :: [] => endOfOptions
  | '-' :: '-' :: rest =>
    let (name, value) := splitValue rest
    long (String.ofList name) (value.map String.ofList)
  | '-' :: letter :: _ => short letter
  | text => plain (String.ofList text)

def ofText (text : String) : Argument := ofChars text.toList

end Argument

end Chip8.Host
