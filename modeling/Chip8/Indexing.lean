namespace Chip8

-- The zero is the one that the numerals of indices ask for, whatever other zeros are in scope.
instance neZero_sixteen : @NeZero Nat Zero.ofOfNat0 16 := ⟨by decide⟩

instance neZero_thirtyTwo : @NeZero Nat Zero.ofOfNat0 32 := ⟨by decide⟩

instance neZero_sixtyFour : @NeZero Nat Zero.ofOfNat0 64 := ⟨by decide⟩

instance neZero_memorySize : @NeZero Nat Zero.ofOfNat0 4096 := ⟨by decide⟩

instance vector_getElem_index {α : Type} {n : Nat} : GetElem (Vector α n) (Fin n) α fun _ _ => True where
  getElem xs i _ := xs.get i

end Chip8

namespace Vector

variable {α : Type} {n : Nat}

def put (xs : Vector α n) (i : Fin n) (a : α) : Vector α n := xs.set i.val a i.isLt

@[simp]
theorem getElem_index (xs : Vector α n) (i : Fin n) : xs[i] = xs[i.val] := rfl

@[simp]
theorem put_eq_set (xs : Vector α n) (i : Fin n) (a : α) : xs.put i a = xs.set i.val a i.isLt := rfl

theorem length_take_index (xs : Vector α n) (i : Fin n) : (xs.toList.take (i.val + 1)).length = i.val + 1 := by
  rw [List.length_take, Vector.length_toList]
  exact Nat.min_eq_left i.isLt

end Vector
