import Chip8.Indexing
import Chip8.Layout

namespace Chip8

abbrev Address := Fin 4096

namespace Address

/-- Addresses are computed in sixteen bits and name the cell of their low twelve, so what is read or written from a
    cell on continues at cell 0 after cell 0xFFF. -/
def ofWord (a : UInt16) : Address := ⟨a.toNat % 4096, Nat.mod_lt _ (by decide)⟩

def toWord (a : Address) : UInt16 := UInt16.ofNat a.val

theorem toNat_toWord (a : Address) : a.toWord.toNat = a.val := by
  have ha := a.isLt
  simp only [toWord, UInt16.toNat_ofNat']
  omega

end Address

def wrap (a : UInt16) : UInt16 := (Address.ofWord a).toWord

theorem toNat_wrap (a : UInt16) : (wrap a).toNat = a.toNat % 4096 :=
  (Address.ofWord a).toNat_toWord

def glyphs : List UInt8 :=
  [0xF0, 0x90, 0x90, 0x90, 0xF0,
   0x20, 0x60, 0x20, 0x20, 0x70,
   0xF0, 0x10, 0xF0, 0x80, 0xF0,
   0xF0, 0x10, 0xF0, 0x10, 0xF0,
   0x90, 0x90, 0xF0, 0x10, 0x10,
   0xF0, 0x80, 0xF0, 0x10, 0xF0,
   0xF0, 0x80, 0xF0, 0x90, 0xF0,
   0xF0, 0x10, 0x20, 0x40, 0x40,
   0xF0, 0x90, 0xF0, 0x90, 0xF0,
   0xF0, 0x90, 0xF0, 0x10, 0xF0,
   0xF0, 0x90, 0xF0, 0x90, 0x90,
   0xE0, 0x90, 0xE0, 0x90, 0xE0,
   0xF0, 0x80, 0x80, 0x80, 0xF0,
   0xE0, 0x90, 0x90, 0x90, 0xE0,
   0xF0, 0x80, 0xF0, 0x80, 0xF0,
   0xF0, 0x80, 0xF0, 0x80, 0x80]

abbrev Memory := Vector UInt8 Layout.memorySize

namespace Memory

def byte (m : Memory) (a : UInt16) : UInt8 := m[Address.ofWord a]

def word (m : Memory) (a : UInt16) : UInt16 :=
  UInt16.ofNat (256 * (m.byte a).toNat + (m.byte (a + 1)).toNat)

def read (m : Memory) (a : UInt16) : Nat → List UInt8
  | 0 => []
  | count + 1 => m.byte a :: m.read (a + 1) count

def write (m : Memory) (a : UInt16) : List UInt8 → Memory
  | [] => m
  | b :: bytes => Memory.write (m.put (Address.ofWord a) b) (a + 1) bytes

theorem length_read (m : Memory) (a : UInt16) (count : Nat) : (m.read a count).length = count := by
  induction count generalizing a with
  | zero => rfl
  | succ count ih => simp [read, ih]

theorem getElem?_read (m : Memory) (a : UInt16) {count j : Nat} (h : j < count) :
    (m.read a count)[j]? = some (m.byte (a + UInt16.ofNat j)) := by
  induction count generalizing a j with
  | zero => omega
  | succ count ih =>
    cases j with
    | zero => simp [read]
    | succ j =>
      have shifted : a + 1 + UInt16.ofNat j = a + UInt16.ofNat (j + 1) := by
        apply UInt16.toNat_inj.mp
        simp only [UInt16.toNat_add, UInt16.toNat_ofNat']
        have one : (1 : UInt16).toNat = 1 := rfl
        omega
      simp only [read, List.getElem?_cons_succ]
      rw [ih (a + 1) (by omega), shifted]

theorem getElem_write_of_forall_ne (m : Memory) (a : UInt16) (bytes : List UInt8) (c : Address)
    (h : ∀ j < bytes.length, (a.toNat + j) % 4096 ≠ c.val) : (m.write a bytes)[c] = m[c] := by
  induction bytes generalizing m a with
  | nil => rfl
  | cons b bytes ih =>
    rw [write, ih]
    · have first := h 0 (by simp)
      apply Vector.getElem_set_ne
      simpa [Address.ofWord] using first
    · intro j hj
      have next := h (j + 1) (by simpa using hj)
      have one : (1 : UInt16).toNat = 1 := rfl
      simp only [UInt16.toNat_add, one]
      omega

theorem getElem_write (m : Memory) (a : UInt16) (bytes : List UInt8) (fits : bytes.length ≤ 4096) (c : Address)
    (j : Nat) (hj : j < bytes.length) (hc : (a.toNat + j) % 4096 = c.val) :
    (m.write a bytes)[c] = bytes[j] := by
  induction bytes generalizing m a j with
  | nil => simp at hj
  | cons b bytes ih =>
    simp only [List.length_cons] at fits hj
    have one : (1 : UInt16).toNat = 1 := rfl
    rw [write]
    cases j with
    | zero =>
      have here : Address.ofWord a = c := Fin.ext (by simpa [Address.ofWord] using hc)
      subst here
      rw [getElem_write_of_forall_ne]
      · simp
      · intro k hk
        simp only [UInt16.toNat_add, one, Address.ofWord]
        omega
    | succ j =>
      rw [ih _ _ (by omega) j (by omega)]
      · simp
      · simp only [UInt16.toNat_add, one]
        omega

def zero : Memory := Vector.replicate Layout.memorySize 0

def initial : Memory := zero.write (UInt16.ofNat Layout.fontStart) glyphs

end Memory

end Chip8
