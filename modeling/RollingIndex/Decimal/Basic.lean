/-!
# Powers, widths and rounding

The powers of two and of ten, the numbers that words of so many bits can hold, and the rounding of a
quotient of natural numbers to the nearest natural number, where one halfway between two goes to the
even one. The rounded quotient

* **lies within half a unit** (`two_mul_roundDiv_le`, `le_two_mul_roundDiv`);
* **is the quotient itself where that is exact** (`roundDiv_mul_self`).
-/

namespace RollingIndex

/-! ## Powers and widths -/

/-- A power of two. -/
def powerOfTwo (exponent : Nat) : Nat := Nat.pow 2 exponent

/-- A power of ten. -/
def powerOfTen (exponent : Nat) : Nat := Nat.pow 10 exponent

theorem powerOfTwo_pos (exponent : Nat) : 0 < powerOfTwo exponent := Nat.pow_pos (by decide)

theorem powerOfTen_pos (exponent : Nat) : 0 < powerOfTen exponent := Nat.pow_pos (by decide)

/-- Whether a number fits so many bits. -/
def fitsBits (bits n : Nat) : Bool := n < powerOfTwo bits

/-- Whether an integer fits 64 bits, one of which is the sign. -/
def fitsSigned64 : Int → Bool
  | .ofNat n => fitsBits 63 n
  | .negSucc n => fitsBits 63 n

/-! ## Rounding a quotient -/

/-- The natural number nearest to `num / den`; of two equally near ones the even one. -/
def roundDiv (num den : Nat) : Nat :=
  let quotient := num / den
  let rest := num % den
  if 2 * rest < den then quotient
  else if den < 2 * rest then quotient + 1
  else quotient + quotient % 2

/-- The rounded quotient exceeds the quotient by at most one half. -/
theorem two_mul_roundDiv_le {num den : Nat} (h : 0 < den) :
    2 * (roundDiv num den * den) ≤ 2 * num + den := by
  have hdiv := Nat.div_add_mod num den
  rw [Nat.mul_comm] at hdiv
  have hodd : num / den % 2 = 0 ∨ num / den % 2 = 1 := by omega
  unfold roundDiv
  dsimp only
  split
  · omega
  · split
    · rw [Nat.add_mul]; omega
    · rcases hodd with hodd | hodd <;> rw [hodd, Nat.add_mul] <;> omega

/-- The rounded quotient falls short of the quotient by at most one half. -/
theorem le_two_mul_roundDiv {num den : Nat} (h : 0 < den) :
    2 * num ≤ 2 * (roundDiv num den * den) + den := by
  have hdiv := Nat.div_add_mod num den
  have hlt := Nat.mod_lt num h
  rw [Nat.mul_comm] at hdiv
  have hodd : num / den % 2 = 0 ∨ num / den % 2 = 1 := by omega
  unfold roundDiv
  dsimp only
  split
  · omega
  · split
    · rw [Nat.add_mul]; omega
    · rcases hodd with hodd | hodd <;> rw [hodd, Nat.add_mul] <;> omega

/-- A quotient that is a natural number is not changed. -/
theorem roundDiv_mul_self (n : Nat) {den : Nat} (h : 0 < den) : roundDiv (n * den) den = n := by
  simp [roundDiv, Nat.mul_div_cancel n h, h]

end RollingIndex
