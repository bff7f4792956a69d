namespace Bayeux

/-!
# Points in time

Points in time are milliseconds since an epoch, and distances between them are signed.
-/

structure Timestamp where
  millis : Nat
deriving DecidableEq, Repr

namespace Timestamp

/-- The distance from an earlier point, wrapped to a signed integer of 64 bits. -/
def since (later earlier : Timestamp) : Int :=
  Int.bmod ((later.millis : Int) - earlier.millis) UInt64.size

def order (a b : Timestamp) : Ordering :=
  compare a.millis b.millis

end Timestamp

end Bayeux
