import Bayeux.Text.Split

namespace Bayeux
namespace Command

/-!
# Command line arguments

Parameters are given by a long name after two hyphens or by a letter after one.  A
value follows in the next argument or is attached to the name; letters of flags may
share one hyphen.  The first fault met from left to right is reported, where a value
that is not attached is looked at when the next parameter begins.
-/

inductive UsageFault where
  | unknown
  | missingValue
  /-- The value of a parameter is not of its type. -/
  | badValue
  | repeated
  /-- A flag was given a value. -/
  | unexpectedValue
  /-- No fault: the user asked for help. -/
  | help
deriving DecidableEq, Repr

structure Parameter where
  long : String
  letter : Option Char := none
  takesValue : Bool := true
  repeatable : Bool := false
  /-- Whether a negative number may follow as the value. -/
  negative : Bool := false
  accepts : String → Bool := fun _ => true

namespace Parameter

def help : Parameter :=
  { long := "help", letter := some 'h', takesValue := false }

def flag (long : String) : Parameter :=
  { long, takesValue := false }

end Parameter

/-- The parameters found so far, by their long names; a flag has an empty value. -/
abbrev Found := List (String × String)

namespace Found

def last? (found : Found) (name : String) : Option String :=
  (found.reverse.find? fun entry => entry.1 == name).map (·.2)

def all (found : Found) (name : String) : List String :=
  (found.filter fun entry => entry.1 == name).map (·.2)

def has (found : Found) (name : String) : Bool :=
  found.any fun entry => entry.1 == name

end Found

structure Reading where
  found : Found := []
  /-- The parameter met last, if its value is still to come or to be looked at. -/
  waiting : Option (Parameter × Option String) := none
  /-- Whether two hyphens have ended the parameters. -/
  ended : Bool := false

namespace Reading

/-- Takes in a parameter with its value. -/
def record (r : Reading) (p : Parameter) (value : Option String) :
    Except UsageFault Reading :=
  if p.takesValue && value.isNone then .error .missingValue
  else if !p.repeatable && r.found.has p.long then .error .repeated
  else if !(value.all p.accepts) then .error .badValue
  else .ok { r with found := r.found ++ [(p.long, value.getD "")] }

/-- Takes in the parameter that waits. -/
def flush (r : Reading) : Except UsageFault Reading :=
  match r.waiting with
  | some (p, value) => { r with waiting := none }.record p value
  | none => .ok r

/-- Begins a parameter, with the value that is attached to it. -/
def start (r : Reading) (p : Parameter) (attached : Option String) :
    Except UsageFault Reading := do
  let flushed ← r.flush
  if p.long = Parameter.help.long then throw .help
  if p.takesValue && attached.isNone then return { flushed with waiting := some (p, none) }
  flushed.record p attached

/-- A parameter by its long name, with what follows an equals sign. -/
def long (parameters : List Parameter) (r : Reading) (name : List Char) :
    Except UsageFault Reading :=
  let (name, value) := match Text.splitOnce? '=' name with
    | some (name, value) => (name, some (String.ofList value))
    | none => (name, none)
  match parameters.find? fun p => p.long == String.ofList name with
  | none => .error .unknown
  | some p => if !p.takesValue && value.isSome then .error .unexpectedValue else r.start p value

/-- Parameters by their letters; the rest after one with a value is that value. -/
def letters (parameters : List Parameter) (r : Reading) : List Char → Except UsageFault Reading
  | [] => .ok r
  | c :: rest =>
    match parameters.find? fun p => p.letter == some c with
    | none => .error .unknown
    | some p =>
      if p.takesValue then
        r.start p (match rest with
          | [] => none
          | '=' :: value => some (String.ofList value)
          | value => some (String.ofList value))
      else do
        let r ← r.start p none
        letters parameters r rest

/-- Whether a text is a number: digits with at most one point and one exponent. -/
def isNumber (text : List Char) : Bool :=
  let isExponent (c : Char) : Bool := c == 'e' || c == 'E'
  let mantissa := text.takeWhile (!isExponent ·)
  let exponent := text.dropWhile (!isExponent ·)
  let digits (cs : List Char) : Bool := cs.all Char.isDigit
  (mantissa.head?.map Char.isDigit).getD false &&
    digits (mantissa.filter (· != '.')) && mantissa.count '.' ≤ 1 &&
    (exponent.isEmpty || (exponent.length > 1 && digits exponent.tail))

/-- Whether the argument begins parameters by letters. -/
def isLetters (r : Reading) (rest : List Char) : Bool :=
  !rest.isEmpty && !(match r.waiting with
    | some (p, none) => p.negative && isNumber rest
    | _ => false)

/-- An argument that is no parameter must be a value that is waited for. -/
def plain (r : Reading) (argument : String) : Except UsageFault Reading :=
  match r.waiting with
  | some (p, none) => .ok { r with waiting := some (p, some argument) }
  | _ => .error .unknown

def argument (parameters : List Parameter) (r : Reading) (argument : String) :
    Except UsageFault Reading :=
  if r.ended then .error .unknown
  else
    match argument.toList with
    | ['-', '-'] => .ok { r with ended := true }
    | '-' :: '-' :: name => r.long parameters name
    | '-' :: rest => if r.isLetters rest then r.letters parameters rest else r.plain argument
    | _ => r.plain argument

end Reading

/-- The parameters that arguments give. -/
def read (parameters : List Parameter) (arguments : List String) : Except UsageFault Found := do
  let reading ← arguments.foldlM (Reading.argument (Parameter.help :: parameters)) {}
  return (← reading.flush).found

end Command
end Bayeux
