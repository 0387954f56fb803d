import Mathlib.Algebra.Group.Nat.Defs
import SensorLink.Double.CounterEngine

namespace SensorLink

namespace CounterEngine

/-- The state that so many steps make of a state; where there is none, the counter starts at zero. -/
def advance (state : Option Bytes) (n : Nat) : Option Bytes :=
  if n = 0 then state else some (leBytes 8 (counter state + n))

variable {state : Option Bytes} {m n : Nat}

@[simp] theorem advance_zero (state : Option Bytes) : advance state 0 = state := rfl

theorem advance_of_pos (h : 0 < n) : advance state n = some (leBytes 8 (counter state + n)) :=
  if_neg (Nat.ne_of_gt h)

theorem advance_one (e : CounterEngine) : advance e.state 1 = some e.nextState := rfl

theorem counter_leBytes (n : Nat) : counter (some (leBytes 8 n)) = n % 2 ^ 64 := by
  have hlen : (leBytes 8 n).length = 8 := length_leBytes 8 n
  simp only [counter, if_pos hlen]
  exact ofLeBytes_leBytes 8 n

/-- Steps that are made in turn add up, even past the end of the counter. -/
theorem advance_advance (state : Option Bytes) (m n : Nat) :
    advance (advance state m) n = advance state (m + n) := by
  rcases Nat.eq_zero_or_pos m with rfl | hm
  · rw [advance_zero, Nat.zero_add]
  rcases Nat.eq_zero_or_pos n with rfl | hn
  · rfl
  have hword : leBytes 8 ((counter state + m) % 2 ^ 64 + n) = leBytes 8 (counter state + (m + n)) := by
    rw [← leBytes_mod 8 (_ + n), ← leBytes_mod 8 (counter state + (m + n)), ← Nat.add_assoc]
    exact congrArg (leBytes 8) (Nat.mod_add_mod _ (2 ^ 64) n)
  rw [advance_of_pos hm, advance_of_pos hn, advance_of_pos (Nat.add_pos_left hm n),
    counter_leBytes, hword]

theorem counter_advance (h : counter state + n < 2 ^ 64) :
    counter (advance state n) = counter state + n := by
  rcases Nat.eq_zero_or_pos n with rfl | hn
  · rfl
  · rw [advance_of_pos hn, counter_leBytes, Nat.mod_eq_of_lt h]

theorem advance_ne (h : counter state + n < 2 ^ 64) (hn : 0 < n) : advance state n ≠ state := by
  intro heq
  have hcount := counter_advance h
  rw [heq] at hcount
  omega

end CounterEngine

end SensorLink
