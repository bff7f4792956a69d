import Bayeux.Json.Numeral

namespace Bayeux
namespace Json

/-!
# Tokens

Scanning is a fold over the characters of a text, so a statement about joined texts is
a statement about a fold over joined lists.

A reader either reads a value or skips it, and skipping is more lenient: it
accepts unpaired surrogates and numbers of any size, and sometimes names another
cause.  A token therefore keeps what each of the two makes of it.  Scanning stops
at the first token that neither accepts.
-/

/-- What a broken literal began as. -/
inductive Opening where
  | quote
  /-- The word for null. -/
  | null
  /-- Another word, or a number. -/
  | scalar
  /-- No literal begins here at all. -/
  | absent
deriving DecidableEq, Repr

inductive Token where
  | openList
  | closeList
  | openObject
  | closeObject
  | comma
  | colon
  | null
  | truth (value : Bool)
  | number (value : Except Fault Number)
  | string (text : Except Fault String)
  /-- A literal that breaks off, with the cause for reading and for skipping. -/
  | broken (opening : Opening) (reading skipping : Fault)
  /-- A character that begins no token. -/
  | stray

/-! ## Strings -/

namespace Quotation

/-- How far an escape has been read. -/
inductive Phase where
  | plain
  | escape
  /-- After a unit escape began: the bytes seen, and their value if all were digits. -/
  | unit (bytes : Nat) (value : Option Nat)
  /-- After a leading surrogate, which a second escape must follow. -/
  | pair
  | pairEscape
deriving DecidableEq, Repr

end Quotation

/-- A string that is being read: its characters in reverse, a leading surrogate
that waits for its partner, and the first fault that only a reader minds. -/
structure Quotation where
  chars : List Char := []
  lead : Option Nat := none
  fault : Option Fault := none
  phase : Quotation.Phase := .plain
deriving DecidableEq, Repr

namespace Quotation

inductive Step where
  | extended (quotation : Quotation)
  | ended (token : Token)

/-- The token of a string that is broken for readers and skippers alike, unless a
reader minded something before. -/
def breakOff (q : Quotation) (fault : Fault) : Token :=
  .broken .quote (q.fault.getD fault) fault

def push (q : Quotation) (c : Char) : Quotation :=
  { q with chars := c :: q.chars, phase := .plain }

/-- Notes a fault that only a reader minds; the first one counts. -/
def note (q : Quotation) (fault : Fault) : Quotation :=
  { q with fault := q.fault.or (some fault), lead := none, phase := .plain }

def hexValue? (c : Char) : Option Nat :=
  if '0' ≤ c ∧ c ≤ '9' then some (c.toNat - 48)
  else if 'a' ≤ c ∧ c ≤ 'f' then some (c.toNat - 87)
  else if 'A' ≤ c ∧ c ≤ 'F' then some (c.toNat - 55)
  else none

/-- A character of the plain text of a string. -/
def plainStep (q : Quotation) (c : Char) : Step :=
  if c = '"' then
    .ended (.string (match q.fault with
      | some fault => .error fault
      | none => .ok (String.ofList q.chars.reverse)))
  else if c = '\\' then .extended { q with phase := .escape }
  else if c < ' ' then .ended (q.breakOff .controlCharacter)
  else .extended (q.push c)

/-- The character after a backslash. -/
def escapeStep (q : Quotation) (c : Char) : Step :=
  match c with
  | '"' | '\\' | '/' => .extended (q.push c)
  | 'b' => .extended (q.push '\x08')
  | 'f' => .extended (q.push '\x0c')
  | 'n' => .extended (q.push '\n')
  | 'r' => .extended (q.push '\x0d')
  | 't' => .extended (q.push '\t')
  | 'u' => .extended { q with phase := .unit 0 (some 0) }
  | _ => .ended (q.breakOff .invalidEscape)

/-- Takes in a code unit: a character, or one half of a surrogate pair. -/
def resolve (q : Quotation) (unit : Nat) : Quotation :=
  let leading := 0xD800 ≤ unit && unit ≤ 0xDBFF
  let trailing := 0xDC00 ≤ unit && unit ≤ 0xDFFF
  match q.lead with
  | some high =>
    if trailing then
      { q with lead := none }.push
        (Char.ofNat (0x10000 + (high - 0xD800) * 0x400 + (unit - 0xDC00)))
    else q.note .loneSurrogate
  | none =>
    if trailing then q.note .loneSurrogate
    else if leading then
      -- once a reader has given up, halves need no partner
      if q.fault.isSome then { q with phase := .plain }
      else { q with lead := some unit, phase := .pair }
    else q.push (Char.ofNat unit)

/-- A character of the four bytes of a unit escape. -/
def unitStep (q : Quotation) (bytes : Nat) (value : Option Nat) (c : Char) : Step :=
  let seen := bytes + c.utf8Size
  let joined := value.bind fun v => (hexValue? c).map (16 * v + ·)
  if seen < 4 then .extended { q with phase := .unit seen joined }
  else
    match joined with
    | some unit => .extended (q.resolve unit)
    | none => .ended (q.breakOff .invalidEscape)

def step (q : Quotation) (c : Char) : Step :=
  match q.phase with
  | .plain => q.plainStep c
  | .escape => q.escapeStep c
  | .unit bytes value => q.unitStep bytes value c
  | .pair =>
    if c = '\\' then .extended { q with phase := .pairEscape }
    else (q.note .unpairedSurrogate).plainStep c
  | .pairEscape =>
    if c = 'u' then .extended { q with phase := .unit 0 (some 0) }
    else (q.note .unpairedSurrogate).escapeStep c

end Quotation

/-! ## The scanner -/

namespace Scanner

inductive Mode where
  | between
  /-- Inside a word, with the letters still due. -/
  | word (due : List Char) (token : Token)
  | number (numeral : Numeral)
  | string (quotation : Quotation)
  | halted

end Scanner

/-- The tokens seen so far, in reverse, and what is being read. -/
structure Scanner where
  out : List Token := []
  mode : Scanner.Mode := .between

namespace Scanner

def emit (s : Scanner) (token : Token) : Scanner :=
  { out := token :: s.out, mode := .between }

def halt (s : Scanner) (token : Token) : Scanner :=
  { out := token :: s.out, mode := .halted }

/-- What a word that breaks off began as. -/
def wordOpening : Token → Opening
  | .null => .null
  | _ => .scalar

def isSpace (c : Char) : Bool :=
  c == ' ' || c == '\n' || c == '\t' || c == '\x0d'

/-- A character outside any literal. -/
def startStep (s : Scanner) (c : Char) : Scanner :=
  if isSpace c then { s with mode := .between }
  else
    match c with
    | '[' => s.emit .openList
    | ']' => s.emit .closeList
    | '\x7b' => s.emit .openObject
    | '\x7d' => s.emit .closeObject
    | ',' => s.emit .comma
    | ':' => s.emit .colon
    | '"' => { s with mode := .string {} }
    | 'n' => { s with mode := .word ['u', 'l', 'l'] .null }
    | 't' => { s with mode := .word ['r', 'u', 'e'] (.truth true) }
    | 'f' => { s with mode := .word ['a', 'l', 's', 'e'] (.truth false) }
    | _ =>
      match Numeral.start? c with
      | some numeral => { s with mode := .number numeral }
      | none => s.halt .stray

def step (s : Scanner) (c : Char) : Scanner :=
  match s.mode with
  | .between => s.startStep c
  | .word [] token => (s.emit token).startStep c
  | .word (due :: rest) token =>
    if c = due then
      if rest = [] then s.emit token else { s with mode := .word rest token }
    else s.halt (.broken (wordOpening token) .expectedIdent .expectedIdent)
  | .number numeral =>
    match numeral.step c with
    | .extended longer => { s with mode := .number longer }
    | .ended => (s.emit (.number numeral.value)).startStep c
    | .invalid => s.halt (.broken .scalar .invalidNumber .invalidNumber)
  | .string quotation =>
    match quotation.step c with
    | .extended longer => { s with mode := .string longer }
    | .ended (.broken opening reading skipping) => s.halt (.broken opening reading skipping)
    | .ended token => s.emit token
  | .halted => s

/-- The tokens at the end of the text. -/
def finish (s : Scanner) : List Token :=
  let last : List Token :=
    match s.mode with
    | .between | .halted => []
    | .word [] token => [token]
    | .word _ token => [.broken (wordOpening token) .endInValue .endInValue]
    | .number numeral =>
      if numeral.complete then [.number numeral.value]
      else [.broken .scalar .endInValue .invalidNumber]
    | .string quotation => [quotation.breakOff .endInString]
  (last ++ s.out).reverse

end Scanner

/-- The tokens of a text. -/
def scan (text : List Char) : List Token :=
  (text.foldl Scanner.step {}).finish

end Json
end Bayeux
