namespace Bayeux

/-!
# Limits

How many held connections one browser may have.
-/

inductive SessionLimit where
  | unlimited
  | deny
  | atMost (max : Nat)
deriving DecidableEq, Repr

namespace SessionLimit

/-- A negative number lifts the limit, and zero denies every connection. -/
def ofInt (value : Int) : SessionLimit :=
  if value < 0 then unlimited
  else if value = 0 then deny
  else atMost value.toNat

/-- The number that stands for a limit, cut off at `2 ^ 63 - 1`. -/
def toInt : SessionLimit → Int
  | unlimited => -1
  | deny => 0
  | atMost max => (min max (1 <<< 63 - 1) : Nat)

/-- Every number but a negative one stands for a limit of its own. -/
theorem toInt_ofInt {value : Int} (low : 0 ≤ value) (high : value < (1 <<< 63 : Nat)) :
    (ofInt value).toInt = value := by
  unfold ofInt
  split
  · omega
  · split
    · simp [toInt, *]
    · simp only [toInt]
      omega

end SessionLimit

end Bayeux
