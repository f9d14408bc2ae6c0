/-
# What the command leaves behind

The command is the library with arguments in front and a text behind it:

| the input | status | standard output | standard error |
| --- | --- | --- | --- |
| is no tree | not 0 | nothing | what is wrong |
| is a tree without a model | not 0 | nothing | what is wrong |
| is a tree with a model | 0 | the model | the warnings |

The table is the binary of `SPEC_FULL.md`, §10, with the settings of §16.3.  Which line of it
applies does not depend on the layout, and depends on the other arguments by the policy only.  What
the arguments select is read off the flags before `--` (`selected`): one argument sets the flag that
it names and no other (`withArguments_cons`).
-/

import RubyModel.Command.Report
import RubyModel.Proofs.Layouts
import RubyModel.Proofs.TextRoundTrip
import RubyModel.Raw.Build

namespace RubyModel
namespace Command

open Raw (Node)

/-! ## What the arguments select -/

/-- The arguments that can be flags: those before `--`. -/
def flags (args : List String) : List String := args.takeWhile (· ≠ "--")

namespace Options

/-- The options have the flags of others. -/
structure Keeps (before after : Options) : Prop where
  permissive : after.permissive = before.permissive
  compact : after.compact = before.compact

/-- The options have the flags of others, and those that an argument names. -/
structure Takes (arg : String) (before after : Options) : Prop where
  permissive : after.permissive ↔ before.permissive ∨ "--permissive" = arg
  compact : after.compact ↔ before.compact ∨ "--compact" = arg

/-- What two steps keep, both together keep. -/
theorem Keeps.trans {first second third : Options} (h : Keeps first second)
    (h' : Keeps second third) : Keeps first third :=
  ⟨h'.permissive.trans h.permissive, h'.compact.trans h.compact⟩

/-- What does not start with two dashes names no flag. -/
theorem Keeps.takes {arg : String} {before after : Options} (h : Keeps before after)
    (single : ∀ tail, arg.toList ≠ '-' :: '-' :: tail) : arg ≠ "--" ∧ Takes arg before after := by
  have noFlag (flag : String) (long : ∃ tail, flag.toList = '-' :: '-' :: tail) : flag ≠ arg := by
    rintro rfl
    obtain ⟨tail, e⟩ := long
    exact single tail e
  refine ⟨(noFlag _ ⟨_, rfl⟩).symm, ?_, ?_⟩
  · rw [h.permissive, or_iff_left (noFlag _ ⟨_, rfl⟩)]
  · rw [h.compact, or_iff_left (noFlag _ ⟨_, rfl⟩)]

/-- An input path sets neither the policy nor the layout. -/
theorem withInput_keeps {options next : Options} {input : String}
    (h : options.withInput input = some next) : Keeps options next := by
  rw [withInput] at h
  split at h
  · cases h
  · cases h
    exact ⟨rfl, rfl⟩

/-- Nor do several arguments that can only be inputs. -/
theorem withInputs_keeps {options next : Options} {inputs : List String}
    (h : options.withInputs inputs = some next) : Keeps options next := by
  induction inputs generalizing options with
  | nil =>
    cases h
    exact ⟨rfl, rfl⟩
  | cons input inputs ih =>
    obtain ⟨middle, first, rest⟩ := Option.bind_eq_some_iff.1 h
    exact (withInput_keeps first).trans (ih rest)

/-- Nor do short flags that the command takes. -/
theorem withShort_keeps {options next : Options} {letters : List Char}
    (h : options.withShort letters = some (some next)) : Keeps options next := by
  fun_induction withShort options letters with
  | case1 options =>
    cases h
    exact ⟨rfl, rfl⟩
  | case2 => cases h
  | case3 => cases h
  | case4 options rest _ ih => exact ⟨(ih h).permissive, (ih h).compact⟩
  | case5 => cases h

/-- A long flag sets what it names, and keeps the rest. -/
theorem withLong_takes {options next : Options} {flag : String}
    (h : options.withLong flag = some next) : Takes flag options next := by
  unfold withLong at h
  split at h
  case h_4 => cases h
  all_goals
    split at h
    · cases h
    · cases h
      constructor <;> simp

/-- **One argument** sets the flag that it names, and `--` ends the flags. -/
theorem withArguments_cons {options last : Options} {arg : String} {rest : List String}
    (h : options.withArguments (arg :: rest) = some (.convert last)) :
    (arg = "--" ∧ Keeps options last) ∨
      arg ≠ "--" ∧ ∃ next, Takes arg options next ∧
        next.withArguments rest = some (.convert last) := by
  rw [withArguments] at h
  split at h
  case h_1 dashes =>
    obtain ⟨next, found, e⟩ := Option.map_eq_some_iff.1 h
    cases e
    exact .inl ⟨String.toList_inj.1 dashes, withInputs_keeps found⟩
  case h_2 tail notDashes long =>
    split at h
    · cases h
    · obtain ⟨next, found, later⟩ := Option.bind_eq_some_iff.1 h
      refine .inr ⟨?_, next, withLong_takes found, later⟩
      rintro rfl
      exact notDashes (List.cons.inj (List.cons.inj long).2).2.symm
  -- Short flags and inputs start with at most one dash, so they name neither of the two flags.
  case h_3 first more _ notLong short =>
    obtain ⟨_ | next, found, later⟩ := Option.bind_eq_some_iff.1 h
    · cases later
    · have single (tail : List Char) : arg.toList ≠ '-' :: '-' :: tail := by
        intro long
        rw [short] at long
        exact notLong (List.cons.inj (List.cons.inj long).2).1
      obtain ⟨notDashes, takes⟩ := (withShort_keeps found).takes single
      exact .inr ⟨notDashes, next, takes, later⟩
  case h_4 notLong _ =>
    obtain ⟨next, found, later⟩ := Option.bind_eq_some_iff.1 h
    obtain ⟨notDashes, takes⟩ := (withInput_keeps found).takes notLong
    exact .inr ⟨notDashes, next, takes, later⟩

/-- **The flags of all arguments** are those before `--`. -/
theorem withArguments_flags {options last : Options} {args : List String}
    (h : options.withArguments args = some (.convert last)) :
    (last.permissive ↔ options.permissive ∨ "--permissive" ∈ flags args) ∧
      (last.compact ↔ options.compact ∨ "--compact" ∈ flags args) := by
  induction args generalizing options with
  | nil =>
    cases h
    simp [flags]
  | cons arg rest ih =>
    obtain ⟨rfl, keeps⟩ | ⟨notDashes, next, takes, later⟩ := withArguments_cons h
    · simp [flags, keeps.permissive, keeps.compact]
    · have split : flags (arg :: rest) = arg :: flags rest :=
        List.takeWhile_cons_of_pos (decide_eq_true notDashes)
      obtain ⟨permissive, compact⟩ := ih later
      rw [split, List.mem_cons, List.mem_cons, ← or_assoc, ← or_assoc]
      rw [permissive, compact, takes.permissive, takes.compact]
      exact ⟨Iff.rfl, Iff.rfl⟩

/-- The environment can make a run permissive; it does not choose the layout. -/
theorem withEnvironment_eq {options last : Options} {skip : Option String}
    (h : options.withEnvironment skip = some last) :
    (last.permissive ↔ options.permissive ∨ skip = some "true") ∧
      last.compact = options.compact := by
  unfold withEnvironment at h
  split at h
  case isTrue given =>
    cases h
    simp [given]
  case isFalse notGiven =>
    split at h <;> cases h <;> simp [notGiven]

/-- The settings of a run hold the policy that is asked for. -/
theorem settings_eq_permissive_iff {options : Options} :
    options.settings.unknownNodes = .permissive ↔ options.permissive := by
  change Policy.ofSkip options.permissive = .permissive ↔ _
  cases options.permissive <;> decide

/-- The layout of a run is the one that is asked for. -/
theorem layout_eq_compact_iff {options : Options} :
    options.layout = .compact ↔ options.compact := by
  rw [layout]
  cases options.compact <;> decide

end Options

/-- **What the arguments and the environment select.** -/
theorem selected {args : List String} {skip : Option String} {options : Options}
    (h : request args skip = some (.convert options)) :
    (options.settings.unknownNodes = .permissive ↔
      "--permissive" ∈ flags args ∨ skip = some "true") ∧
    (options.layout = .compact ↔ "--compact" ∈ flags args) := by
  obtain ⟨_ | given, taken, h⟩ := Option.bind_eq_some_iff.1 h
  · cases h
  · obtain ⟨last, completed, e⟩ := Option.bind_eq_some_iff.1 h
    cases e
    obtain ⟨permissive, compact⟩ := Options.withArguments_flags taken
    obtain ⟨env, same⟩ := Options.withEnvironment_eq completed
    rw [Options.settings_eq_permissive_iff, Options.layout_eq_compact_iff, env, same, permissive,
      compact]
    simp only [Bool.false_eq_true, false_or, and_self]

/-! ## What is printed -/

/-- To end every part with a separator is to put it between them and after the last. -/
theorem flatMap_append_singleton {α : Type} (separator : α) {parts : List (List α)}
    (present : parts ≠ []) :
    parts.flatMap (· ++ [separator]) = [separator].intercalate parts ++ [separator] := by
  induction parts with
  | nil => exact absurd rfl present
  | cons part parts ih =>
    cases parts with
    | nil => simp
    | cons next parts =>
      rw [List.flatMap_cons, ih (List.cons_ne_nil _ _), List.intercalate_cons_cons]
      simp only [List.append_assoc]

/-- The lines of a text, each with a line break, are the text with one. -/
theorem join_lines (text : String) : String.join ((lines text).map (· ++ "\n")) = text ++ "\n" := by
  have parts := flatMap_append_singleton '\n' (List.splitOn_ne_nil '\n' text.toList)
  rw [List.intercalate_splitOn] at parts
  apply String.toList_inj.1
  rw [String.toList_join, lines, List.map_map, List.flatMap_map, String.toList_append]
  simp only [Function.comp_apply, String.toList_append, String.toList_ofList]
  exact parts

/-- The warnings stand on standard error as they are, each with a line break. -/
theorem errorText_success (options : Options) (tree : ModelTree) :
    (success options tree).errorText =
      String.join (tree.diagnostics.map fun diagnostic => diagnostic.text ++ "\n") := by
  change String.join ((tree.diagnostics.flatMap fun diagnostic => lines diagnostic.text).map _) = _
  induction tree.diagnostics with
  | nil => rfl
  | cons diagnostic others ih =>
    rw [List.flatMap_cons, List.map_append, String.join_append, ih, join_lines, List.map_cons,
      String.join_cons]

/-- A failure leaves nothing on standard output. -/
theorem failure_silent (doing : String) (causes : List String) :
    (failure doing causes).code ≠ 0 ∧ (failure doing causes).stdout = "" :=
  ⟨(by decide : (1 : UInt32) ≠ 0), rfl⟩

/-- The arguments ask for a model, and not for a log. -/
structure Asked (args : List String) (skip : Option String) (options : Options) : Prop where
  request_eq : request args skip = some (.convert options)
  quiet : options.verbose = false

/-- The input has no model: it is no tree, or a tree that is refused. -/
def Refused (settings : Settings) (bytes : List UInt8) : Prop :=
  (∃ error, Node.load bytes = .error error) ∨
    ∃ root failure, Node.load bytes = .ok root ∧ ModelTree.ofProgram settings root = .error failure

section Runs

variable {args : List String} {skip : Option String} {options : Options}
  {input : Option String → Input} {bytes : List UInt8}

/-- With arguments that are taken and an input that can be read, a run is a conversion. -/
theorem run_eq (asked : Asked args skip options) (given : input options.path? = .content bytes) :
    run args skip input = convert options (.content bytes) := by
  rw [run, asked.request_eq]
  exact congrArg (convert options) given

/-- A refused input gives an error status and nothing on standard output. -/
theorem convert_of_refused (refused : Refused options.settings bytes) :
    (convert options (.content bytes)).code ≠ 0 ∧
      (convert options (.content bytes)).stdout = "" := by
  obtain ⟨error, unread⟩ | ⟨root, cause, read, lowered⟩ := refused
  · simp only [convert, ModelTree.ofText, unread]
    exact failure_silent _ _
  · simp only [convert, ModelTree.ofText, read, lowered]
    exact failure_silent _ _

/-- An input with a model tree gives the report of a success. -/
theorem convert_of_tree {root : Node} {tree : ModelTree} (read : Node.load bytes = .ok root)
    (lowered : ModelTree.ofProgram options.settings root = .ok tree) :
    convert options (.content bytes) = success options tree := by
  simp only [convert, ModelTree.ofText, read, lowered]
  rfl

end Runs

/-- **The command agrees with the library.**  Take arguments that ask for a model and not for a
log, and any bytes as the input.  The policy is the permissive one exactly if its flag or its
variable is given, and the layout the compact one exactly if its flag is.  The command fails and
leaves nothing on standard output exactly if the bytes are no tree, or the tree has no model under
the policy.  Else its status is 0, the texts of the warnings are on standard error in order, each
with a line break, and the text of the model is on standard output with one.  The indented text of
any model is the compact one but for white space outside strings. -/
theorem command_agrees {args : List String} {skip : Option String} {options : Options}
    {input : Option String → Input} {bytes : List UInt8} (asked : Asked args skip options)
    (given : input options.path? = .content bytes) :
    ((options.settings.unknownNodes = .permissive ↔
        "--permissive" ∈ flags args ∨ skip = some "true") ∧
      (options.layout = .compact ↔ "--compact" ∈ flags args)) ∧
    ((run args skip input).code ≠ 0 ∧ (run args skip input).stdout = "" ↔
      Refused options.settings bytes) ∧
    (∀ root tree, Node.load bytes = .ok root →
      ModelTree.ofProgram options.settings root = .ok tree →
      (run args skip input).code = 0 ∧
      (run args skip input).errorText =
        String.join (tree.diagnostics.map fun diagnostic => diagnostic.text ++ "\n") ∧
      (run args skip input).stdout = (ModelTree.rootJson tree.root).text options.layout ++ "\n") ∧
    ∀ root : Option Model, Json.unspaced ((ModelTree.rootJson root).text .indented) =
      (ModelTree.rootJson root).text .compact := by
  rw [run_eq asked given]
  refine ⟨selected asked.request_eq, ⟨fun failed => ?_, convert_of_refused⟩, ?_, ?_⟩
  · cases read : Node.load bytes with
    | error error => exact .inl ⟨error, read⟩
    | ok root =>
      cases lowered : ModelTree.ofProgram options.settings root with
      | error failure => exact .inr ⟨root, failure, read, lowered⟩
      | ok tree =>
        rw [convert_of_tree read lowered] at failed
        exact absurd rfl failed.1
  · intro root tree read lowered
    rw [convert_of_tree read lowered]
    exact ⟨rfl, errorText_success options tree, rfl⟩
  · exact fun root => Json.unspaced_text .indented (ModelTree.rootJson root)

section Shell

open Raw.Build

/-- A program of a string with quotes, braces and white space, and a shell command on line 3. -/
def shellProgram : Node :=
  root (some (block [string "\x7b \x22a\x22: b \x7d", ⟨.onLine 3, .unsupported (.shell "ls")⟩]))

/-- The model of the program without the command. -/
def shellModel : Model := ⟨.block [⟨.text .str (some "\x7b \x22a\x22: b \x7d") false []⟩]⟩

/-- The parts of the program hold no doubles and can be written. -/
theorem within_shellProgram {part : Node} (within : part.Within shellProgram) :
    (∀ x, part.shape ≠ .leaf (.float x)) ∧ part.shape.Writable := by
  cases within with
  | whole => exact ⟨nofun, trivial⟩
  | child mem within =>
    obtain rfl := List.mem_singleton.1 mem
    cases within with
    | whole => exact ⟨nofun, trivial⟩
    | child mem within =>
      obtain rfl | mem := List.mem_cons.1 mem
      · cases within with
        | whole => exact ⟨nofun, trivial⟩
        | child mem => cases mem
      · obtain rfl := List.mem_singleton.1 mem
        cases within with
        | whole => exact ⟨nofun, trivial⟩
        | child mem => cases mem

/-- The text of the program is read back as the program. -/
theorem load_shellProgram : Node.load (bytesOf shellProgram.text) = .ok shellProgram := by
  refine (Node.load_text ?_ ?_).1 (by decide)
  · exact fun part within x e => absurd e ((within_shellProgram within).1 x)
  · exact fun part within => (within_shellProgram within).2

/-- The text of the program, wherever the input is looked for. -/
def shellInput : Option String → Input := fun _ => .content (bytesOf shellProgram.text)

/-- The permissive command warns about the shell command and prints the string; the strict one
fails. -/
theorem command_agrees_shellProgram :
    ((run ["--permissive"] none shellInput).code = 0 ∧
      (run ["--permissive"] none shellInput).errorText = "warning: skipping XSTRNODE at line 3; " ++
        "the node has no metamodel counterpart and is left out\n" ∧
      (run ["--permissive"] none shellInput).stdout =
        shellModel.toJson.text .indented ++ "\n") ∧
    (run ["--compact"] none shellInput).code ≠ 0 ∧
      (run ["--compact"] none shellInput).stdout = "" := by
  have skips : Asked ["--permissive"] none { permissive := true } := ⟨rfl, rfl⟩
  have refuses : Asked ["--compact"] none { compact := true } := ⟨rfl, rfl⟩
  have given (options : Options) :
      shellInput options.path? = .content (bytesOf shellProgram.text) := rfl
  constructor
  · obtain ⟨-, -, printed, -⟩ := command_agrees skips (given _)
    exact printed _ _ load_shellProgram rfl
  · obtain ⟨-, failed, -⟩ := command_agrees refuses (given _)
    exact failed.2 (.inr ⟨_, _, load_shellProgram, rfl⟩)

end Shell

end Command
end RubyModel
