/-!
# Powers of two and of ten
-/

namespace RapidUpload

/-- Two to a power. -/
def pow2 (n : Nat) : Nat := Nat.pow 2 n

/-- Ten to a power. -/
def pow10 (n : Nat) : Nat := Nat.pow 10 n

end RapidUpload
