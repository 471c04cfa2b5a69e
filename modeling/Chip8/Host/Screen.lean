import Chip8.Frame

namespace Chip8.Host

namespace Screen

def border : List Char := '+' :: List.replicate Layout.frameWidth '-' ++ ['+']

def pixelChar (b : UInt8) : Char := if b = 1 then '█' else ' '

def rowLine (row : Vector UInt8 Layout.frameWidth) : List Char := '|' :: row.toList.map pixelChar ++ ['|']

def lines (f : Frame) : List (List Char) := border :: f.toList.map rowLine ++ [border]

def render (f : Frame) : String := "\n".intercalate ((lines f).map String.ofList)

end Screen

end Chip8.Host
