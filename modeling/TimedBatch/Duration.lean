/-!
# Durations

A duration counts nanoseconds and stays below `2 ^ 64` seconds. Instants of a clock are durations
since the clock was made. Sums are cut off at the longest duration and differences at zero.
-/

namespace TimedBatch

/-- A span of time, or an instant as the span since the clock was made. -/
@[ext] structure Duration where
  nanos : Nat
  nanos_le : nanos ≤ 2 ^ 64 * 10 ^ 9 - 1
  deriving DecidableEq

namespace Duration

def longest : Duration :=
  ⟨2 ^ 64 * 10 ^ 9 - 1, Nat.le_refl _⟩

/-- The duration nearest to a number of nanoseconds. -/
def ofNanos (nanos : Nat) : Duration :=
  ⟨min nanos (2 ^ 64 * 10 ^ 9 - 1), Nat.min_le_right _ _⟩

/-- The duration nearest to a number of milliseconds. -/
def ofMillis (millis : Nat) : Duration :=
  ofNanos (millis * 10 ^ 6)

/-- The duration nearest to a number of seconds and nanoseconds. -/
def ofParts (seconds nanos : Nat) : Duration :=
  ofNanos (seconds * 10 ^ 9 + nanos)

def zero : Duration :=
  ⟨0, Nat.zero_le _⟩

instance : Inhabited Duration :=
  ⟨zero⟩

instance : LE Duration :=
  ⟨fun first second => first.nanos ≤ second.nanos⟩

instance : LT Duration :=
  ⟨fun first second => first.nanos < second.nanos⟩

instance (first second : Duration) : Decidable (first ≤ second) :=
  inferInstanceAs (Decidable (first.nanos ≤ second.nanos))

instance (first second : Duration) : Decidable (first < second) :=
  inferInstanceAs (Decidable (first.nanos < second.nanos))

/-- Sums are cut off at the longest duration. -/
instance : Add Duration :=
  ⟨fun first second => ofNanos (first.nanos + second.nanos)⟩

/-- Differences stop at zero. -/
instance : Sub Duration :=
  ⟨fun first second => ofNanos (first.nanos - second.nanos)⟩

instance : Max Duration :=
  ⟨fun first second => if first ≤ second then second else first⟩

@[simp]
theorem nanos_zero : zero.nanos = 0 :=
  rfl

@[simp]
theorem nanos_longest : longest.nanos = 2 ^ 64 * 10 ^ 9 - 1 :=
  rfl

@[simp]
theorem nanos_ofNanos (nanos : Nat) :
    (ofNanos nanos).nanos = min nanos (2 ^ 64 * 10 ^ 9 - 1) :=
  rfl

theorem le_def {first second : Duration} : first ≤ second ↔ first.nanos ≤ second.nanos :=
  Iff.rfl

theorem lt_def {first second : Duration} : first < second ↔ first.nanos < second.nanos :=
  Iff.rfl

@[simp]
theorem nanos_add (first second : Duration) :
    (first + second).nanos = min (first.nanos + second.nanos) (2 ^ 64 * 10 ^ 9 - 1) :=
  rfl

@[simp]
theorem nanos_sub (first second : Duration) :
    (first - second).nanos = first.nanos - second.nanos := by
  have bound := first.nanos_le
  show min (first.nanos - second.nanos) (2 ^ 64 * 10 ^ 9 - 1) = first.nanos - second.nanos
  omega

@[simp]
theorem nanos_max (first second : Duration) :
    (max first second).nanos = max first.nanos second.nanos := by
  show (if first ≤ second then second else first).nanos = _
  split <;> rename_i order <;> rw [le_def] at order <;> omega

def seconds (duration : Duration) : Nat :=
  duration.nanos / 10 ^ 9

/-- The nanoseconds beyond the whole seconds. -/
def subsecondNanos (duration : Duration) : Nat :=
  duration.nanos % 10 ^ 9

def millis (duration : Duration) : Nat :=
  duration.nanos / 10 ^ 6

/-! ## Text -/

/-- The digits of `part / 10 ^ width` after the decimal point, without trailing zeros. -/
def fractionDigits (width part : Nat) : List Char :=
  let digits := Nat.toDigits 10 part
  let padded := List.replicate (width - digits.length) '0' ++ digits
  (padded.reverse.dropWhile (· = '0')).reverse

/-- A number of units, each of `10 ^ width` smaller ones, as a decimal followed by the name of
the unit. -/
def textIn (unit : String) (width : Nat) (smaller : Nat) : String :=
  let fraction := fractionDigits width (smaller % 10 ^ width)
  let point := if fraction.isEmpty then [] else ['.']
  toString (smaller / 10 ^ width) ++ String.ofList (point ++ fraction) ++ unit

/-- A duration in the largest unit in which it is at least one; zero is written in nanoseconds. -/
def text (duration : Duration) : String :=
  if 10 ^ 9 ≤ duration.nanos then textIn "s" 9 duration.nanos
  else if 10 ^ 6 ≤ duration.nanos then textIn "ms" 6 duration.nanos
  else if 10 ^ 3 ≤ duration.nanos then textIn "µs" 3 duration.nanos
  else textIn "ns" 0 duration.nanos

end Duration

end TimedBatch
