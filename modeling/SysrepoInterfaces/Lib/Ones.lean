import Mathlib.Algebra.Group.Nat.Defs

/-!
# SysrepoInterfaces.Lib.Ones

The ones among the lowest bits of a number, as a loop that shifts to the right
counts them.
-/

namespace Ones

/-- The ones among the `n` lowest bits. -/
def ones : Nat → Nat → Nat
  | 0, _ => 0
  | n + 1, x => x % 2 + ones n (x / 2)

@[simp] theorem ones_zero_right (n : Nat) : ones n 0 = 0 := by
  induction n with
  | zero => rfl
  | succ n ih => simp [ones, ih]

theorem ones_le (n x : Nat) : ones n x ≤ n := by
  induction n generalizing x with
  | zero => simp [ones]
  | succ n ih =>
      have hrest := ih (x / 2)
      rw [ones]
      omega

/-- The low bits and the high bits are counted one after the other. -/
theorem ones_add {m y : Nat} (n x : Nat) (h : y < 2 ^ m) :
    ones (m + n) (y + 2 ^ m * x) = ones m y + ones n x := by
  induction m generalizing y with
  | zero =>
      obtain rfl : y = 0 := by omega
      simp [ones]
  | succ m ih =>
      have hmul : 2 ^ (m + 1) * x = 2 * (2 ^ m * x) := by
        rw [Nat.pow_succ, Nat.mul_comm (2 ^ m) 2, Nat.mul_assoc]
      have hmod : (y + 2 * (2 ^ m * x)) % 2 = y % 2 := by omega
      have hdiv : (y + 2 * (2 ^ m * x)) / 2 = y / 2 + 2 ^ m * x := by omega
      have hhalf : y / 2 < 2 ^ m := by omega
      have hlength : m + 1 + n = m + n + 1 := by omega
      rw [hmul, hlength, ones, hmod, hdiv, ih hhalf, ones]
      omega

/-- A number whose `k` highest bits are its ones. -/
theorem ones_of_testBit {n k x : Nat} (hk : k ≤ n)
    (h : ∀ i < n, x.testBit i = decide (n - k ≤ i)) : ones n x = k := by
  induction n generalizing k x with
  | zero =>
      rw [ones]
      omega
  | succ n ih =>
      have hlow : x % 2 = 1 ↔ n + 1 - k ≤ 0 := by
        have hbit := h 0 (by omega)
        rw [Nat.testBit_zero] at hbit
        exact decide_eq_decide.mp hbit
      have hhigh : ∀ k', k' ≤ n → (∀ i < n, (n + 1 - k ≤ i + 1 ↔ n - k' ≤ i)) →
          ones n (x / 2) = k' := by
        intro k' hk' hiff
        refine ih hk' fun i hi => ?_
        have hbit := h (i + 1) (by omega)
        rw [Nat.testBit_succ] at hbit
        rw [hbit]
        exact decide_eq_decide.mpr (hiff i hi)
      rw [ones]
      by_cases hall : k = n + 1
      · rw [hhigh n (by omega) (by omega)]
        omega
      · rw [hhigh k (by omega) (by omega)]
        omega

end Ones
