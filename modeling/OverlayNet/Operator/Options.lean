import OverlayNet.Decimal.Natural
import OverlayNet.Text.Cut

set_option autoImplicit false

/-! # Options on the command line

An option is a flag or takes a value, which stands behind an equals sign or in the next argument. A
value in the next argument does not start with a hyphen, unless it is nothing but one. Every option
is given at most once, and there are no arguments besides options. -/

namespace OverlayNet.Operator

inductive Takes where
  | nothing
  | text
  /-- A path, which is not empty. -/
  | path
  /-- A number of 32 bits. -/
  | number
deriving DecidableEq, Repr

structure OptionSpec where
  name : String
  takes : Takes
  required : Bool
deriving DecidableEq, Repr

/-- The number below a bound that a text spells: digits behind at most one sign, where only zero may
have a minus sign. -/
def signedNumber? (bound : Nat) (characters : List Char) : Option Nat :=
  match characters with
  | '-' :: digits => (Decimal.digits? digits).filter (· = 0)
  | _ => Decimal.unsigned? bound characters

/-- Whether a text is a value of the kind that an option takes. -/
def Takes.accepts : Takes → String → Bool
  | .nothing, _ => false
  | .text, _ => true
  | .path, value => !value.isEmpty
  | .number, value => (signedNumber? UInt32.size value.toList).isSome

/-- The options that were given, with their values; a flag has the empty value. -/
abbrev Given : Type := List (String × String)

namespace Given

def flag (given : Given) (name : String) : Bool :=
  (given.lookup name).isSome

def valueOr (given : Given) (name usual : String) : String :=
  (given.lookup name).getD usual

def number? (given : Given) (name : String) : Option UInt32 :=
  ((given.lookup name).bind fun value => signedNumber? UInt32.size value.toList).map UInt32.ofNat

end Given

/-- What comes of a command line before anything is done. -/
inductive Refusal where
  | usage
  | help
  | version
deriving DecidableEq, Repr

/-- Whether an argument can stand as a value behind its option. -/
def isValue (argument : String) : Bool :=
  argument = "-" || argument.toList.head? ≠ some '-'

/-- The name of a long option and the value behind its equals sign. -/
def longOption? (argument : String) : Option (String × Option String) :=
  match argument.toList with
  | '-' :: '-' :: body =>
      match Text.cutFirst? '=' body with
      | some (name, value) => some (String.ofList name, some (String.ofList value))
      | none => some (String.ofList body, none)
  | _ => none

/-- The options in the arguments behind a subcommand, besides those that were given before. -/
def readOptions (specs : List OptionSpec) (given : Given) : List String → Except Refusal Given
  | [] => .ok given
  | argument :: rest =>
      if argument = "--" then if rest.isEmpty then .ok given else .error .usage
      else if argument = "--help" ∨ ['-', 'h'].isPrefixOf argument.toList then .error .help
      else
        match longOption? argument with
        | none => .error .usage
        | some (name, attached) =>
            match specs.find? (·.name = name) with
            | none => .error .usage
            | some spec =>
                if given.flag name then .error .usage
                else
                  match spec.takes, attached, rest with
                  | .nothing, none, rest => readOptions specs ((name, "") :: given) rest
                  | .nothing, some _, _ => .error .usage
                  | takes, some value, rest =>
                      if takes.accepts value then readOptions specs ((name, value) :: given) rest
                      else .error .usage
                  | takes, none, value :: rest =>
                      if isValue value && takes.accepts value then
                        readOptions specs ((name, value) :: given) rest
                      else .error .usage
                  | _, none, [] => .error .usage

/-- The options behind a subcommand, all required ones among them. -/
def options (specs : List OptionSpec) (arguments : List String) : Except Refusal Given := do
  let given ← readOptions specs [] arguments
  if specs.all fun spec => !spec.required || given.flag spec.name then .ok given
  else .error .usage

end OverlayNet.Operator
