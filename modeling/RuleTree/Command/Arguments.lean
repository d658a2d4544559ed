import RuleTree.Text

/-!
# Command line arguments

Arguments are options with their values and operands. A long option takes its value after `=` or
from the next argument, whatever that looks like; a short one takes the rest of its own argument or
the next one. After `--` everything is an operand.
-/

namespace RuleTree.Command

/-- The options a command knows. -/
structure Options where
  long : List String
  /-- Short options, each with the long option it stands for. -/
  short : List (Char × String) := []
  /-- Long options without a value. -/
  flags : List String := []

/-- What the arguments of a command say. -/
structure Arguments where
  /-- Options with their values, in the order given. -/
  values : List (String × String) := []
  flags : List String := []
  operands : List String := []

/-- One argument. -/
inductive Argument where
  | endOfOptions
  | operand
  | flag (option : String)
  /-- An option with the value attached to it, if there is one. -/
  | option (name : String) (value : Option String)
  | unknown
deriving DecidableEq, Repr

namespace Options

/-- A long option and what follows the first `=`. -/
def splitLong (t : Text) : String × Option String :=
  let name := t.takeWhile (· ≠ '=')
  (String.ofList name,
    match t.drop name.length with
    | [] => none
    | _ :: value => some (String.ofList value))

def classifyLong (o : Options) (t : Text) : Argument :=
  let (name, value) := splitLong t
  if o.long.contains name then .option name value
  else if o.flags.contains name && value.isNone then .flag name
  else .unknown

def classify (o : Options) (arg : String) : Argument :=
  match arg.toList with
  | ['-', '-'] => .endOfOptions
  | '-' :: '-' :: rest => o.classifyLong rest
  | '-' :: c :: rest =>
    match o.short.lookup c with
    | some name => .option name (if rest = [] then none else some (String.ofList rest))
    | none => .unknown
  | _ => .operand

/-- Reads arguments. With `mixed` options may stand behind operands; otherwise the first operand
ends the options. -/
def read? (o : Options) (mixed : Bool) : List String → Option Arguments
  | [] => some {}
  | arg :: rest =>
    match o.classify arg with
    | .endOfOptions => some { operands := rest }
    | .unknown => none
    | .operand =>
      if mixed then
        (o.read? mixed rest).map fun a => { a with operands := arg :: a.operands }
      else some { operands := arg :: rest }
    | .flag name => (o.read? mixed rest).map fun a => { a with flags := name :: a.flags }
    | .option name (some value) =>
      (o.read? mixed rest).map fun a => { a with values := (name, value) :: a.values }
    | .option name none =>
      match rest with
      | [] => none
      | value :: rest =>
        (o.read? mixed rest).map fun a => { a with values := (name, value) :: a.values }

end Options

/-- The value of an option; the last one counts. -/
def Arguments.value? (a : Arguments) (name : String) : Option String :=
  a.values.reverse.lookup name

end RuleTree.Command
