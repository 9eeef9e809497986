/-!
# Capped amounts

Demand and credit are counted up to a greatest amount, which also stands for "without bound".
Sums and products are cut off there. An amount without bound absorbs whatever it is added to or
multiplied with, zero included.
-/

namespace TimedBatch

-- Powers of natural numbers are taken to be those of the core library, whatever is imported.
attribute [instance (20000), default_instance 20000] instPowNat

/-- An amount of demand or credit. -/
@[ext] structure Amount where
  count : Nat
  count_le : count ≤ 2 ^ 64 - 1
  deriving DecidableEq

namespace Amount

/-- The greatest amount, which stands for "without bound". -/
def unbounded : Amount :=
  ⟨2 ^ 64 - 1, Nat.le_refl _⟩

/-- The amount nearest to a number: the number itself up to the greatest amount. -/
def ofNat (number : Nat) : Amount :=
  ⟨min number (2 ^ 64 - 1), Nat.min_le_right _ _⟩

instance (number : Nat) : OfNat Amount number :=
  ⟨ofNat number⟩

instance : Inhabited Amount :=
  ⟨0⟩

instance : LE Amount :=
  ⟨fun first second => first.count ≤ second.count⟩

instance : LT Amount :=
  ⟨fun first second => first.count < second.count⟩

instance (first second : Amount) : Decidable (first ≤ second) :=
  inferInstanceAs (Decidable (first.count ≤ second.count))

instance (first second : Amount) : Decidable (first < second) :=
  inferInstanceAs (Decidable (first.count < second.count))

/-- Sums are cut off at the greatest amount. -/
instance : Add Amount :=
  ⟨fun first second => ofNat (first.count + second.count)⟩

/-- Products are cut off at the greatest amount, and a factor without bound decides the product
even where the other factor is zero. -/
instance : Mul Amount :=
  ⟨fun first second =>
    if first = unbounded ∨ second = unbounded then unbounded
    else ofNat (first.count * second.count)⟩

/-- Differences stop at zero. -/
instance : Sub Amount :=
  ⟨fun first second => ofNat (first.count - second.count)⟩

@[simp]
theorem count_unbounded : unbounded.count = 2 ^ 64 - 1 :=
  rfl

@[simp]
theorem count_zero : (0 : Amount).count = 0 :=
  rfl

@[simp]
theorem count_one : (1 : Amount).count = 1 :=
  rfl

theorem le_def {first second : Amount} : first ≤ second ↔ first.count ≤ second.count :=
  Iff.rfl

theorem lt_def {first second : Amount} : first < second ↔ first.count < second.count :=
  Iff.rfl

@[simp]
theorem count_ofNat (number : Nat) : (ofNat number).count = min number (2 ^ 64 - 1) :=
  rfl

@[simp]
theorem count_add (first second : Amount) :
    (first + second).count = min (first.count + second.count) (2 ^ 64 - 1) :=
  rfl

@[simp]
theorem add_zero (amount : Amount) : amount + 0 = amount := by
  have bound := amount.count_le
  ext
  rw [count_add, count_zero]
  omega

theorem zero_add (amount : Amount) : 0 + amount = amount := by
  have bound := amount.count_le
  ext
  rw [count_add, count_zero]
  omega

theorem add_comm (first second : Amount) : first + second = second + first := by
  ext
  rw [count_add, count_add, Nat.add_comm]

/-- It does not matter how a sum is grouped: where a part is cut off, so is the whole. -/
theorem add_assoc (first second third : Amount) :
    first + second + third = first + (second + third) := by
  ext
  simp only [count_add]
  omega

@[simp]
theorem count_sub (first second : Amount) :
    (first - second).count = first.count - second.count := by
  have bound := first.count_le
  show min (first.count - second.count) (2 ^ 64 - 1) = first.count - second.count
  omega

theorem mul_def (first second : Amount) :
    first * second =
      if first = unbounded ∨ second = unbounded then unbounded
      else ofNat (first.count * second.count) :=
  rfl

theorem count_mul (first second : Amount) :
    (first * second).count =
      if first = unbounded ∨ second = unbounded then 2 ^ 64 - 1
      else min (first.count * second.count) (2 ^ 64 - 1) := by
  rw [mul_def]
  split <;> rfl

theorem le_unbounded (amount : Amount) : amount ≤ unbounded :=
  amount.count_le

theorem eq_unbounded_iff {amount : Amount} : amount = unbounded ↔ amount.count = 2 ^ 64 - 1 := by
  simp [Amount.ext_iff]

theorem mul_le_mul_right {first second : Amount} (le : first ≤ second) (factor : Amount) :
    first * factor ≤ second * factor := by
  rw [le_def, count_mul second factor]
  split
  · exact (first * factor).count_le
  · rename_i bounded
    have small : first ≠ unbounded := by
      intro whole
      rw [whole] at le
      have reaches : second = unbounded := Amount.ext (Nat.le_antisymm second.count_le le)
      exact bounded (Or.inl reaches)
    rw [count_mul, if_neg (not_or.mpr ⟨small, fun whole => bounded (Or.inr whole)⟩)]
    have products := Nat.mul_le_mul_right factor.count (le_def.mp le)
    omega

end Amount

end TimedBatch
