/-
# Building raw trees

Short names for the shapes that come up when a tree is written down by hand.  A node that
is built stands at the default position, and a child that its shape may lack is given
where a program always has it.

They follow the constructor helpers of `SPEC_FULL.md`, §11 (`fixnum`, `fcall`, `root` and so on).
-/

import RubyModel.Raw.Shape

namespace RubyModel
namespace Raw
namespace Build

/-- A node at the default position. -/
def unplaced (shape : Shape Node) : Node := ⟨{}, shape⟩

/-! ## Structure -/

/-- A program. -/
def root (body : Option Node) : Node := unplaced (.root body)

/-- A statement on a line of its own. -/
def newline (next : Node) : Node := unplaced (.wrap .newline (some next))

/-- Statements one after the other. -/
def block (statements : List Node) : Node := unplaced (.block statements)

/-- An expression inside an interpolated text. -/
def interpolation (body : Node) : Node := unplaced (.wrap .interpolation (some body))

/-- Nothing, where a value could be. -/
def implicitNil : Node := unplaced .implicitNil

/-! ## Literals -/

/-- An integer. -/
def int (value : Int64) : Node := unplaced (.leaf (.int value))

/-- A double. -/
def float (value : Float) : Node := unplaced (.leaf (.float value))

/-- A string. -/
def string (value : String) : Node := unplaced (.text .str value)

/-- An interpolated string. -/
def dynamicString (pieces : List Node) : Node := unplaced (.dynamicText .str pieces)

/-- A regular expression. -/
def regexp (value : String) : Node := unplaced (.text .regexp value)

/-- An interpolated regular expression. -/
def dynamicRegexp (pieces : List Node) : Node := unplaced (.dynamicText .regexp pieces)

/-- The literal `nil`. -/
def nil : Node := unplaced (.leaf .nil)

/-- The literals `true` and `false`. -/
def bool (value : Bool) : Node := unplaced (.leaf (.bool value))

/-- A symbol. -/
def symbol (name : String) : Node := unplaced (.leaf (.symbol name))

/-- A method name written bare. -/
def word (name : String) : Node := unplaced (.leaf (.word name))

/-! ## Variables -/

/-- A name as a newer parser gives it: without its sigil, and again as the lexical name. -/
def bareName (name : String) : VarName := ⟨name, some name⟩

/-- A name as an older parser gives it: with its sigil only. -/
def sigilName (token : String) : VarName := ⟨token, none⟩

/-- A variable of a method or the program. -/
def localVar (name : String) : Node := unplaced (.leaf (.localVar .method name))

/-- A variable of a code block. -/
def blockVar (name : String) : Node := unplaced (.leaf (.localVar .block name))

/-- A variable with a sigil. -/
def var (scope : Scope) (name : VarName) : Node := unplaced (.var scope name)

/-- An assignment to a variable of a method or the program. -/
def assignLocal (name : String) (value : Option Node) : Node :=
  unplaced (.localAssign .method name value)

/-- An assignment to a variable of a code block. -/
def assignBlock (name : String) (value : Option Node) : Node :=
  unplaced (.localAssign .block name value)

/-- An assignment to a variable with a sigil. -/
def assignVar (form : VarAssign) (name : VarName) (value : Node) : Node :=
  unplaced (.varAssign form name (some value))

/-! ## Constants -/

/-- A constant. -/
def constant (name : String) : Node := unplaced (.constant name)

/-- A constant of a class or module, `container::Name`. -/
def scopedConstant (container : Option Node) (name : String) : Node :=
  unplaced (.scopedConstant container name)

/-- A constant of the global scope, `::Name`. -/
def topConstant (name : String) : Node := unplaced (.topConstant name)

/-! ## Control flow -/

/-- A branch on a condition. -/
def ifElse (condition : Node) (thenBody elseBody : Option Node) : Node :=
  unplaced (.ifElse (some condition) thenBody elseBody)

/-- A loop with a condition. -/
def loop (form : Loop) (condition : Node) (body : Option Node) : Node :=
  unplaced (.loop form (some condition) body)

/-- A choice among clauses. -/
def caseOf (subject : Option Node) (clauses : List Node) (elseBody : Option Node) : Node :=
  unplaced (.caseOf subject clauses elseBody)

/-- A clause of a choice. -/
def whenClause (condition : Node) (body : Option Node) : Node :=
  unplaced (.whenClause (some condition) body)

/-- A `begin` block. -/
def beginBlock (body : Option Node) : Node := unplaced (.beginBlock body)

/-- A body with its rescue clauses, chained from the first one on. -/
def rescue (body clause : Option Node) : Node := unplaced (.rescue body clause none)

/-- A rescue clause, and the one after it. -/
def rescueClause (exceptions body next : Option Node) : Node :=
  unplaced (.rescueBody exceptions body next)

/-- A body and what is run after it in any case. -/
def ensure (body ensureBody : Option Node) : Node := unplaced (.ensure body ensureBody)

/-! ## Calls -/

/-- A call on a receiver. -/
def call (receiver : Node) (name : String) (args iterator : Option Node) : Node :=
  unplaced (.call (some receiver) name args iterator)

/-- A call without a receiver, with arguments or parentheses. -/
def functionCall (name : String) (args : Option Node) : Node :=
  unplaced (.functionCall name args none)

/-- A bare name that may be a call. -/
def variableCall (name : String) : Node := unplaced (.variableCall name)

/-- A code block attached to a call. -/
def iterator (params body : Option Node) : Node := unplaced (.iterator params body)

/-- A block that is passed after the arguments of a call. -/
def blockPass (body : Node) (args : Option Node) : Node := unplaced (.blockPass (some body) args)

/-- The receiver of the method itself. -/
def self : Node := unplaced (.leaf .self)

/-! ## Definitions -/

/-- A method. -/
def define (name : String) (params body : Option Node) : Node :=
  unplaced (.define name params body)

/-- A method of one object. -/
def defineOn (receiver : Node) (name : String) (params body : Option Node) : Node :=
  unplaced (.defineOn (some receiver) name params body)

/-- A class. -/
def classDecl (path : Node) (superClass body : Option Node) : Node :=
  unplaced (.classDecl path superClass body)

/-- A module. -/
def moduleDecl (path : Node) (body : Option Node) : Node := unplaced (.moduleDecl path body)

/-! ## Collections and arguments -/

/-- An array. -/
def array (items : List Node) : Node := unplaced (.elements .array items)

/-- A list that only groups what stands in it. -/
def list (items : List Node) : Node := unplaced (.elements .list items)

/-- The array without elements. -/
def emptyArray : Node := unplaced .emptyArray

/-- A hash literal; keys and values alternate in its list. -/
def hash (pairs : List (Node × Node)) : Node :=
  unplaced (.hash (some (list (pairs.flatMap fun (key, value) => [key, value]))))

/-- A splatted value. -/
def splat (value : Node) : Node := unplaced (.splat (some value))

/-- Arguments followed by all elements of a value. -/
def cat (first second : Node) : Node := unplaced (.concat .cat first second)

/-- Arguments followed by one more. -/
def push (first second : Node) : Node := unplaced (.concat .push first second)

/-- A parameter. -/
def param (name : String) : Node := unplaced (.param name)

/-- A parameter with a default, kept as an assignment. -/
def optionalParam (name : String) (default : Node) : Node :=
  unplaced (.optionalParam (assignLocal name (some default)))

/-- The parameter that takes the rest of the arguments. -/
def restParam (name : Option String) : Node := unplaced (.restParam name)

/-- The parameter that takes the block of a call. -/
def blockParam (name : String) : Node := unplaced (.blockParam name)

/-- A group of parameters as a list node, if there are any. -/
def segment (nodes : List Node) : Option Node :=
  if nodes.isEmpty then none else some (list nodes)

/-- The parameters of a method or code block. -/
def params (pre optional : List Node) (rest : Option Node) (post : List Node)
    (block : Option Node) : Node :=
  unplaced (.params (segment pre) (segment optional) rest (segment post) block)

end Build
end Raw
end RubyModel
