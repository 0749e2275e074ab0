/-!
Counting: the sum of numbers in a list.
-/

set_option autoImplicit false

namespace ApiSite

/-- The sum of the numbers in a list. -/
def total : List Nat → Nat
  | [] => 0
  | n :: rest => n + total rest

end ApiSite
