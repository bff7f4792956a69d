import Bayeux.Net.Address
import Bayeux.Net.Domain
import Bayeux.Net.Escape

namespace Bayeux
namespace Net

/-!
# Hosts of URLs

The host of a URL is held in the form in which it is shown.  A host of the web is an
address or a name; what a host of any other scheme is cannot be told.
-/

/-- Why a text is no host. -/
inductive HostFault where
  | empty
  | character
  | name
  | v4
  | v6
deriving DecidableEq, Repr

def HostFault.message : HostFault → String
  | empty => "empty host"
  | character => "invalid domain character"
  | name => "invalid international domain name"
  | v4 => "invalid IPv4 address"
  | v6 => "invalid IPv6 address"

namespace HostName

/-! ## Addresses -/

/-- A number in an address of version 4: octal after a zero, hexadecimal after `0x`. -/
def v4Number? (text : List Char) : Option Nat :=
  let read (radix : Nat) (digits : List Char) : Option Nat :=
    digits.foldl
      (fun value c => value.bind fun n =>
        (Address.digitValue? radix c).map fun digit => n * radix + digit)
      (some 0)
  match text with
  | [] => none
  | '0' :: 'x' :: rest => read 16 rest
  | '0' :: rest => read 8 rest
  | _ => read 10 text

/-- The parts between points; an empty last part does not count. -/
def numbers (text : List Char) : List (List Char) :=
  let parts := Text.splitAll '.' text
  if parts.length > 1 ∧ parts.getLast? = some [] then parts.dropLast else parts

/-- Whether a name can only be an address of version 4. -/
def endsInNumber (text : List Char) : Bool :=
  match (numbers text).getLast? with
  | some last => (!last.isEmpty && last.all Char.isDigit) || (v4Number? last).isSome
  | none => false

/-- An address of up to four numbers, the last of which fills the bytes that remain. -/
def v4 (text : List Char) : Except HostFault String :=
  match (numbers text).mapM v4Number? with
  | none => .error .v4
  | some numbers =>
    match numbers.reverse with
    | last :: others =>
      if numbers.length > 4 ∨ others.any (255 < ·) ∨ 1 <<< (8 * (5 - numbers.length)) ≤ last then
        .error .v4
      else
        let value := others.reverse.zipIdx.foldl
          (fun value (n, index) => value + n <<< (8 * (3 - index))) last
        let byte (place : Nat) : Nat := value >>> (8 * place) % 256
        .ok (Address.v4Text [byte 3, byte 2, byte 1, byte 0])
    | [] => .error .v4

/-- An address of version 6, after its opening bracket. -/
def v6 (text : List Char) : Except HostFault String :=
  match text.reverse with
  | ']' :: inner =>
    match Address.v6 inner.reverse with
    | some (groups, []) => .ok ("[" ++ Address.compressed groups ++ "]")
    | _ => .error .v6
  | _ => .error .v6

/-! ## Hosts -/

/-- The host of a URL of the web: escapes are undone before the name is read. -/
def special (text : List Char) : Except HostFault String :=
  match text with
  | '[' :: inner => v6 inner
  | _ =>
    match (Text.Utf8.decode? (Form.unescape (Text.Utf8.encode text))).bind Domain.ascii? with
    | none => .error .name
    | some name =>
      if name.isEmpty then .error .empty
      else if endsInNumber name then v4 name
      else .ok (String.ofList name)

/-- Characters that no host may hold. -/
def forbidden : String := "\x00\t\n\x0d #/:<>?@[\\]^|"

/-- The host of any other URL. -/
def other (text : List Char) : Except HostFault String :=
  match text with
  | '[' :: inner => v6 inner
  | _ =>
    if text.any forbidden.toList.contains then .error .character
    else .ok (Escape.text Escape.controlSet text)

end HostName

end Net
end Bayeux
