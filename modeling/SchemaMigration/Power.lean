/-!
# Powers of two and of ten

The two scales on which widths in bits and places after the point are counted.

* `twoTo n` is the first number that has no binary numeral of `n` digits.
* `tenTo n` is the same for decimal numerals.
-/

namespace SchemaMigration

/-- Two to the power of a number. -/
def twoTo (n : Nat) : Nat :=
  Nat.pow 2 n

/-- Ten to the power of a number. -/
def tenTo (n : Nat) : Nat :=
  Nat.pow 10 n

/-- One more binary digit doubles the bound. -/
theorem twoTo_succ (n : Nat) : twoTo (n + 1) = twoTo n * 2 := rfl

/-- One more decimal digit multiplies the bound by ten. -/
theorem tenTo_succ (n : Nat) : tenTo (n + 1) = tenTo n * 10 := rfl

/-- A power of two is positive, so it can divide. -/
theorem twoTo_pos (n : Nat) : 0 < twoTo n := by
  induction n with
  | zero => exact Nat.one_pos
  | succ n ih => rw [twoTo_succ]; exact Nat.mul_pos ih (by decide)

/-- A power of ten is positive, so it can divide. -/
theorem tenTo_pos (n : Nat) : 0 < tenTo n := by
  induction n with
  | zero => exact Nat.one_pos
  | succ n ih => rw [tenTo_succ]; exact Nat.mul_pos ih (by decide)

end SchemaMigration
