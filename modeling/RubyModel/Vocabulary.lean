/-
# Words shared by raw trees and models

The raw tree of a Ruby program and its model have a few notions in common: the scopes of
variables, the words for loops, jumps and logical operators, the two kinds of text, and
the leaves, which stand for themselves in both.

The lengths of the sigils are the constants of `SPEC_FULL.md`, §16.3.
-/

namespace RubyModel

/-- Scopes of variables whose name starts with a sigil: `$x`, `@@x`, `@x`. -/
inductive Scope where
  | globals
  | classes
  | instances
  deriving DecidableEq

/-- The sigil of the scope. -/
def Scope.sigil : Scope → String
  | .globals => "$"
  | .classes => "@@"
  | .instances => "@"

/-- The number of characters of the sigil. -/
def Scope.sigilLength (scope : Scope) : Nat := scope.sigil.length

/-- Scopes of plain variables: the method or program, or a code block. -/
inductive LocalScope where
  | method
  | block
  deriving DecidableEq

/-- Strings and regular expressions. -/
inductive TextForm where
  | str
  | regexp
  deriving DecidableEq

/-- Logical operators. -/
inductive Logical where
  | and
  | or
  deriving DecidableEq

/-- Loops with a condition. -/
inductive Loop where
  | while
  | until
  deriving DecidableEq

/-- Statements that leave a block, a method or a loop. -/
inductive Jump where
  | break
  | next
  | return
  deriving DecidableEq

/-- What stands for itself in a raw tree and in a model. -/
inductive Leaf where
  | float (value : Float)
  | int (value : Int64)
  | bool (value : Bool)
  | nil
  | symbol (name : String)
  | localVar (scope : LocalScope) (name : String)
  /-- The `number`th group of the last match, `$1`, `$2`, … -/
  | group (number : UInt32)
  | self
  /-- A method name written bare. -/
  | word (name : String)

end RubyModel
