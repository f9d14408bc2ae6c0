/-
# What the command prints

On success the model goes to standard output, in the order of declaration, and the
warnings go to standard error.  A failure prints nothing on standard output and says on
standard error what was being done and what it was caused by:

    Error: failed to load the syntax tree from stdin

    Caused by:
        0: invalid serialized syntax tree: missing field `type`
        1: missing field `type`

A single cause is not numbered; the further lines of a cause are indented like its first.

`SPEC_FULL.md`, §10 and §16: the binary `rubymm`, without its logging.
-/

import RubyModel.Command.Options
import RubyModel.Program

namespace RubyModel
namespace Command

/-- What the command leaves behind. -/
structure Report where
  code : UInt32
  stdout : String
  /-- The lines on standard error. -/
  stderr : List String

/-- The text on standard error: each line ends in a line break. -/
def Report.errorText (report : Report) : String := String.join (report.stderr.map (· ++ "\n"))

/-- What is found where the input should be. -/
inductive Input where
  /-- The input cannot be opened. -/
  | unopened (reason : String)
  /-- The input cannot be read. -/
  | unreadable (reason : String)
  | content (bytes : List UInt8)

/-- The lines of a text. -/
def lines (text : String) : List String := (text.toList.splitOn '\n').map String.ofList

/-- A cause, with the given text before its first line and before each further one. -/
def indented (first further : String) (cause : String) : List String :=
  match lines cause with
  | [] => []
  | line :: rest => (first ++ line) :: rest.map (further ++ ·)

/-- The causes, numbered from `n` on. -/
def numbered (n : Nat) : List String → List String
  | [] => []
  | cause :: causes =>
    indented ("    " ++ toString n ++ ": ") "       " cause ++ numbered (n + 1) causes

/-- The report of a failure: what was being done, and the causes. -/
def failure (doing : String) (causes : List String) : Report where
  code := 1
  stdout := ""
  stderr := lines ("Error: " ++ doing) ++ ["", "Caused by:"] ++
    match causes with
    | [cause] => indented "    " "    " cause
    | causes => numbered 0 causes

/-- The report of a tree that could not be loaded. -/
def loadFailure (source reason : String) : Report :=
  failure ("failed to load the syntax tree from " ++ source)
    ["invalid serialized syntax tree: " ++ reason, reason]

/-- What stands for the reason why a text is not JSON. -/
def notJson : String := "<json>"

/-- The layout of the model. -/
def Options.layout (options : Options) : Json.Layout :=
  if options.compact then .compact else .indented

/-- The report of a model. -/
def success (options : Options) (tree : ModelTree) : Report where
  code := 0
  stdout := (ModelTree.rootJson tree.root).text options.layout ++ "\n"
  stderr := tree.diagnostics.flatMap fun diagnostic => lines diagnostic.text

/-- Turns the tree in the input into a model. -/
def convert (options : Options) (input : Input) : Report :=
  let source := options.path?.getD "stdin"
  match input with
  | .unopened reason => failure ("failed to open " ++ source) [reason]
  | .unreadable reason => loadFailure source reason
  | .content bytes =>
    match ModelTree.ofText options.settings bytes with
    | .ok tree => success options tree
    | .error (.load error) => loadFailure source (error.message?.getD notJson)
    | .error (.lower cause) => failure "failed to build the metamodel" [cause.message]

/-- The report of arguments that cannot be understood. -/
def usage : Report where
  code := 2
  stdout := ""
  stderr := ["Usage: rubymm [OPTIONS] [INPUT]"]

/-- The report of the version. -/
def version : Report where
  code := 0
  stdout := "rubymm 0.1.0\n"
  stderr := []

/-- Runs the command; `input` gives what is found at a path, or on standard input. -/
def run (args : List String) (skip : Option String) (input : Option String → Input) : Report :=
  match request args skip with
  | none => usage
  | some .version => version
  | some (.convert options) => convert options (input options.path?)

/-- Where the command reads its input from, if it reads any: a path, or standard input. -/
def source? (args : List String) (skip : Option String) : Option (Option String) :=
  match request args skip with
  | some (.convert options) => some options.path?
  | none | some .version => none

/-- The command looks at nothing but its source, so its input may be read before it runs. -/
theorem run_congr {args : List String} {skip : Option String} {input other : Option String → Input}
    (same : ∀ source ∈ source? args skip, input source = other source) :
    run args skip input = run args skip other := by
  unfold run
  unfold source? at same
  cases asked : request args skip with
  | none => rfl
  | some request =>
    rw [asked] at same
    cases request with
    | version => rfl
    | convert options => exact congrArg (convert options) (same _ rfl)

end Command
end RubyModel
