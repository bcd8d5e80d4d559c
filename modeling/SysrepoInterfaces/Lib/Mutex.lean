import Mathlib.Data.Set.Insert
import Mathlib.Tactic.Common

/-!
# SysrepoInterfaces.Lib.Mutex

A mutex that an unlock frees whoever calls it, as a default mutex of pthreads
does.  It excludes as long as every unlock is by a thread that has locked it.
-/

variable {ι : Type}

/-- Who holds the mutex, and who is between a lock and an unlock of its own. -/
@[ext] structure Mutex (ι : Type) where
  holder : Option ι
  inside : Set ι

namespace Mutex

/-- The mutex before anyone has locked it. -/
def free : Mutex ι where
  holder := none
  inside := ∅

def lock (m : Mutex ι) (i : ι) : Mutex ι where
  holder := some i
  inside := insert i m.inside

def unlock (m : Mutex ι) (i : ι) : Mutex ι where
  holder := none
  inside := m.inside \ {i}

/-- The one inside is the holder. -/
def Exact (m : Mutex ι) : Prop := ∀ i, i ∈ m.inside ↔ m.holder = some i

variable {m : Mutex ι} {i j : ι}

theorem exact_free : (free : Mutex ι).Exact := by
  intro i
  simp [free]

/-- Two threads inside are one. -/
theorem Exact.eq_of_mem (h : m.Exact) (hi : i ∈ m.inside) (hj : j ∈ m.inside) : i = j := by
  have hholder := (h i).mp hi
  rw [(h j).mp hj] at hholder
  exact (Option.some.inj hholder).symm

theorem Exact.lock (h : m.Exact) (hfree : m.holder = none) : (m.lock i).Exact := by
  have hempty : ∀ j, j ∉ m.inside := by
    intro j hj
    rw [h j, hfree] at hj
    cases hj
  intro j
  simp [Mutex.lock, hempty, eq_comm]

/-- An unlock by the thread inside frees the mutex for good. -/
theorem Exact.unlock (h : m.Exact) (hi : i ∈ m.inside) : (m.unlock i).Exact := by
  intro j
  have hone : j ∈ m.inside → j = i := fun hj => h.eq_of_mem hj hi
  simpa [Mutex.unlock] using hone

end Mutex
