/-!
# Rounding quotients

`roundDiv` rounds a quotient of natural numbers to the nearest whole number, a half going to the
even neighbour.  Its law `roundDiv_near` says that the result is at most half a unit away.
-/

namespace BlobCluster.Numeric

/-! ## Bounds -/

/-- The first natural number that a signed word of 64 bits cannot hold. -/
def signedBound : Nat := 9223372036854775808

/-! ## Quotients -/

/-- The whole number nearest to a quotient, of two the even one.  Comparing twice the rest with the
divisor avoids fractions. -/
def roundDiv (n d : Nat) : Nat :=
  let q := n / d
  let r := n % d
  if 2 * r < d then q
  else if d < 2 * r then q + 1
  else if q % 2 = 0 then q
  else q + 1

/-- The rounded quotient is at most half a unit from the quotient. -/
theorem roundDiv_near (n : Nat) {d : Nat} (hd : 0 < d) :
    2 * n ≤ 2 * d * roundDiv n d + d ∧ 2 * d * roundDiv n d ≤ 2 * n + d := by
  have hdiv := Nat.div_add_mod n d
  have hlt := Nat.mod_lt n hd
  have key : ∀ q r : Nat, d * q + r = n → r < d →
      2 * n ≤ 2 * d * q + 2 * r ∧ 2 * d * q + 2 * r ≤ 2 * n := by
    intro q r h _
    rw [Nat.mul_assoc]
    omega
  have h1 := key _ _ hdiv hlt
  have h2 : 2 * d * (n / d + 1) = 2 * d * (n / d) + 2 * d := by rw [Nat.mul_add, Nat.mul_one]
  unfold roundDiv
  simp only
  split
  · omega
  · split
    · omega
    · split <;> omega

end BlobCluster.Numeric
