namespace Bayeux
namespace Text

/-!
# Integers in decimal

An integer of a bounded range, as an option spells it: an optional sign, then ASCII
digits and nothing else.
-/

/-- The value of a nonempty run of ASCII digits. -/
def digits? (text : List Char) : Option Nat :=
  if text.isEmpty then none
  else
    text.foldl
      (fun value c =>
        value.bind fun n =>
          if '0' ≤ c ∧ c ≤ '9' then some (10 * n + (c.toNat - 48)) else none)
      (some 0)

/-- A natural number below a bound; a plus sign may precede it. -/
def natBelow? (bound : Nat) (text : List Char) : Option Nat :=
  let digits := match text with
    | '+' :: rest => rest
    | _ => text
  (digits? digits).filter (· < bound)

/-- An integer `n` with `-bound ≤ n < bound`; a sign may precede it. -/
def intWithin? (bound : Nat) (text : List Char) : Option Int :=
  match text with
  | '-' :: rest => ((digits? rest).filter (· ≤ bound)).map fun n => -(n : Int)
  | _ => (natBelow? bound text).map fun n => (n : Int)

/-- A natural number of 64 bits. -/
def unsigned64? (text : String) : Option Nat :=
  natBelow? UInt64.size text.toList

/-- A signed integer of 64 bits. -/
def signed64? (text : String) : Option Int :=
  intWithin? (1 <<< 63) text.toList

/-- One of the words for the truth values. -/
def truth? (text : String) : Option Bool :=
  if text = "true" then some true else if text = "false" then some false else none

end Text
end Bayeux
