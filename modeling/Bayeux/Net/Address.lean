import Bayeux.Text.Quoted

namespace Bayeux
namespace Net

/-!
# Socket addresses

A socket address is an address of version 4 or 6 and a port.
-/

inductive Host where
  /-- Four bytes. -/
  | v4 (bytes : List Nat)
  /-- Eight groups of 16 bits, and a zone that is zero unless one is named. -/
  | v6 (groups : List Nat) (zone : Nat)
deriving DecidableEq, Repr

structure SocketAddress where
  host : Host
  port : Nat
deriving DecidableEq, Repr

namespace Address

/-! ## Reading -/

/-- A reader takes what it recognises off the front of a text. -/
abbrev Reader (α : Type) := List Char → Option (α × List Char)

def char (c : Char) : Reader Unit
  | d :: rest => if d = c then some ((), rest) else none
  | [] => none

def digitValue? (radix : Nat) (c : Char) : Option Nat :=
  let value? :=
    if '0' ≤ c ∧ c ≤ '9' then some (c.toNat - 48)
    else if 'a' ≤ c ∧ c ≤ 'f' then some (c.toNat - 87)
    else if 'A' ≤ c ∧ c ≤ 'F' then some (c.toNat - 55)
    else none
  value?.filter (· < radix)

/-- The longest run of digits, if it has between one and `width` of them and its
value is below the bound. -/
def number (radix : Nat) (width : Option Nat) (bound : Nat) (zeroFirst : Bool) :
    Reader Nat := fun text =>
  let digits := text.takeWhile fun c => (digitValue? radix c).isSome
  let value := digits.foldl (fun n c => n * radix + (digitValue? radix c).getD 0) 0
  let tooWide := match width with
    | some most => decide (most < digits.length)
    | none => false
  if digits.isEmpty || tooWide || bound ≤ value
      || (!zeroFirst && digits.head? == some '0' && digits.length > 1) then none
  else some (value, text.drop digits.length)

/-- Numbers of one byte, each after a point except the first. -/
def bytes : Nat → Bool → Reader (List Nat)
  | 0, _, text => some ([], text)
  | count + 1, first, text => do
    let ((), text) ← if first then some ((), text) else char '.' text
    let (value, text) ← number 10 (some 3) 256 false text
    let (rest, text) ← bytes count false text
    return (value :: rest, text)

def v4 : Reader (List Nat) :=
  bytes 4 true

/-- The two groups that an address of version 4 fills. -/
def groupsOfBytes : List Nat → List Nat
  | [a, b, c, d] => [256 * a + b, 256 * c + d]
  | _ => []

/-- Up to `count` groups, each after a colon except the first.  Where two groups
are left, an address of version 4 may fill them and ends the groups.  The flag
tells whether one did. -/
def groups : Nat → Bool → List Char → List Nat × Bool × List Char
  | 0, _, text => ([], false, text)
  | count + 1, first, text =>
    match if first then some ((), text) else char ':' text with
    | none => ([], false, text)
    | some ((), after) =>
      match if count = 0 then none else v4 after with
      | some (four, rest) => (groupsOfBytes four, true, rest)
      | none =>
        match number 16 (some 4) UInt16.size true after with
        | none => ([], false, text)
        | some (value, rest) =>
          let (others, embedded, rest) := groups count false rest
          (value :: others, embedded, rest)

/-- Eight groups, or fewer with a double colon that stands for zeros. -/
def v6 : Reader (List Nat) := fun text => do
  let (front, embedded, rest) := groups 8 true text
  if front.length = 8 then return (front, rest)
  if embedded then none
  let ((), rest) ← char ':' rest
  let ((), rest) ← char ':' rest
  let (back, _, rest) := groups (7 - front.length) true rest
  return (front ++ List.replicate (8 - front.length - back.length) 0 ++ back, rest)

def port : Reader Nat := fun text => do
  let ((), text) ← char ':' text
  number 10 none UInt16.size true text

def socketV4 : Reader SocketAddress := fun text => do
  let (four, text) ← v4 text
  let (port, text) ← port text
  return ({ host := .v4 four, port }, text)

/-- A zone after a percent sign, if one is named. -/
def zone (text : List Char) : Nat × List Char :=
  match (char '%' text).bind fun ((), rest) => number 10 none UInt32.size true rest with
  | some (zone, rest) => (zone, rest)
  | none => (0, text)

def socketV6 : Reader SocketAddress := fun text => do
  let ((), text) ← char '[' text
  let (groups, text) ← v6 text
  let (zone, text) := zone text
  let ((), text) ← char ']' text
  let (port, text) ← port text
  return ({ host := .v6 groups zone, port }, text)

/-! ## Writing -/

def decimal (n : Nat) : String :=
  toString n

def v4Text (four : List Nat) : String :=
  ".".intercalate (four.map decimal)

def groupsText (groups : List Nat) : String :=
  ":".intercalate (groups.map fun group => String.ofList (Text.hexDigits group))

/-- The start and the length of the first longest run of zeros. -/
def zeroRun (groups : List Nat) : Nat × Nat :=
  let (_, best) := groups.zipIdx.foldl
    (fun ((run, best) : (Nat × Nat) × (Nat × Nat)) (group, index) =>
      if group = 0 then
        let run := if run.2 = 0 then (index, 1) else (run.1, run.2 + 1)
        (run, if best.2 < run.2 then run else best)
      else ((0, 0), best))
    ((0, 0), (0, 0))
  best

/-- The groups in hexadecimal, with the longest run of at least two zeros left out. -/
def compressed (groups : List Nat) : String :=
  let (start, length) := zeroRun groups
  if length > 1 then
    groupsText (groups.take start) ++ "::" ++ groupsText (groups.drop (start + length))
  else groupsText groups

/-- An address of version 6: one that embeds an address of version 4 shows it. -/
def v6Text (groups : List Nat) : String :=
  match groups with
  | [0, 0, 0, 0, 0, 0xFFFF, a, b] =>
    "::ffff:" ++ v4Text [a / 256, a % 256, b / 256, b % 256]
  | _ => compressed groups

end Address

namespace SocketAddress

/-- The address that a text spells, if it spells one. -/
def ofText? (text : String) : Option SocketAddress :=
  let whole (read : Address.Reader SocketAddress) :=
    match read text.toList with
    | some (address, []) => some address
    | _ => none
  (whole Address.socketV4).or (whole Address.socketV6)

def text (address : SocketAddress) : String :=
  match address.host with
  | .v4 four => Address.v4Text four ++ ":" ++ Address.decimal address.port
  | .v6 groups zone =>
    "[" ++ Address.v6Text groups ++ (if zone = 0 then "" else "%" ++ Address.decimal zone) ++
      "]:" ++ Address.decimal address.port

end SocketAddress

end Net
end Bayeux
