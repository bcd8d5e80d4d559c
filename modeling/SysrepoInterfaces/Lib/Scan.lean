import Mathlib.Data.List.Induction

/-!
# SysrepoInterfaces.Lib.Scan

A scan that keeps the first of the elements with the least weight: it starts
from the head and moves on where an element weighs less than the one it has.
-/

namespace Scan

variable {α : Type} {w : α → Nat} {xs : List α} {i v : Nat}

end Scan
