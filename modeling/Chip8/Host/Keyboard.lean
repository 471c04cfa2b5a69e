import Chip8.Machine.Basic

namespace Chip8.Host

def keyboard : Vector Char Layout.keyCount :=
  #v['x', '1', '2', '3', 'q', 'w', 'e', 'a', 's', 'd', 'z', 'c', '4', 'r', 'f', 'v']

def keyOf? (c : Char) : Option Key := keyboard.finIdxOf? c.toLower

end Chip8.Host
