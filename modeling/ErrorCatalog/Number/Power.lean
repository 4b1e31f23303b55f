/-!
# `ErrorCatalog/Number/Power.lean` — powers of two and of ten

The two bases in which numbers are written here, and the number of 64 or 128 bits that is the first
too large one.
-/

set_option autoImplicit false

namespace ErrorCatalog

def twoTo (n : Nat) : Nat := Nat.pow 2 n

def tenTo (n : Nat) : Nat := Nat.pow 10 n

end ErrorCatalog
