/-
# The command line

    rubymm [--permissive] [--compact] [-v | --verbose] [-V | --version] [--] [INPUT]

Arguments are taken from left to right, and the first thing that settles the matter wins:
a fault, or the request for the version.  A flag is given at most once and has no value;
short flags may be joined.  After `--` every argument is an input, of which there is at
most one; `-` or none stands for standard input.

The command is the binary of `SPEC_FULL.md`, §10 and §16.3.  The flags `-h` and `--help` are left
out: they ask for a text about the flags, which is not modelled, and are refused here like any
flag that is not known.
-/

import RubyModel.Policy

namespace RubyModel
namespace Command

/-- What the arguments select. -/
structure Options where
  input : Option String := none
  permissive : Bool := false
  compact : Bool := false
  verbose : Bool := false
  deriving DecidableEq

/-- What the command is asked to do. -/
inductive Request where
  /-- Print the version. -/
  | version
  /-- Turn a tree into a model. -/
  | convert (options : Options)
  deriving DecidableEq

namespace Options

/-- The path of the input file, if it is not standard input. -/
def path? (options : Options) : Option String :=
  options.input.filter (· ≠ "-")

/-- The settings of the run. -/
def settings (options : Options) : Settings :=
  ({} : Settings).withUnknownNodes (Policy.ofSkip options.permissive)

/-- Takes an argument as the input. -/
def withInput (options : Options) (input : String) : Option Options :=
  if options.input.isSome ∨ input = "" then none else some { options with input := some input }

/-- Takes a long flag. -/
def withLong (options : Options) (flag : String) : Option Options :=
  match flag with
  | "--permissive" => if options.permissive then none else some { options with permissive := true }
  | "--compact" => if options.compact then none else some { options with compact := true }
  | "--verbose" => if options.verbose then none else some { options with verbose := true }
  | _ => none

/-- Takes joined short flags; the answer is `none` inside if the version is asked for. -/
def withShort (options : Options) : List Char → Option (Option Options)
  | [] => some (some options)
  | 'V' :: _ => some none
  | 'v' :: rest =>
    if options.verbose then none else withShort { options with verbose := true } rest
  | _ => none

/-- Takes all arguments as inputs. -/
def withInputs (options : Options) : List String → Option Options
  | [] => some options
  | input :: rest => do
    let options ← options.withInput input
    options.withInputs rest

/-- Takes the arguments; `none` if they cannot be understood. -/
def withArguments (options : Options) : List String → Option Request
  | [] => some (.convert options)
  | arg :: rest =>
    match arg.toList with
    | ['-', '-'] => (options.withInputs rest).map .convert
    | '-' :: '-' :: _ =>
      if arg = "--version" then some .version
      else do
        let options ← options.withLong arg
        options.withArguments rest
    | '-' :: first :: more => do
      match ← options.withShort (first :: more) with
      | none => return .version
      | some options => options.withArguments rest
    | _ => do
      let options ← options.withInput arg
      options.withArguments rest

/-- Takes the variable of the environment, which counts only if the flag is not given and
must then be `true` or `false`. -/
def withEnvironment (options : Options) (skip : Option String) : Option Options :=
  if options.permissive then some options
  else match skip with
    | none => some options
    | some "true" => some { options with permissive := true }
    | some "false" => some options
    | some _ => none

end Options

/-- What the arguments and the environment ask for; `none` if they cannot be understood. -/
def request (args : List String) (skip : Option String) : Option Request := do
  match ← ({} : Options).withArguments args with
  | .version => return .version
  | .convert options =>
    let options ← options.withEnvironment skip
    return .convert options

end Command
end RubyModel
