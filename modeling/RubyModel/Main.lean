/-
# The command

Reads the arguments, the environment and the input, and prints the report: the binary of
`SPEC_FULL.md`, §10.

What is printed is decided by `Command.run`; here the world is asked for the arguments, the
environment and the input, and nothing else is decided.
-/

import RubyModel.Command.Report

open RubyModel

/-- The reason of a failed read in messages. -/
def ioReason : IO.Error → String
  | .noFileOrDirectory _ code details => details ++ " (os error " ++ toString code.toNat ++ ")"
  | .permissionDenied _ code details => details ++ " (os error " ++ toString code.toNat ++ ")"
  | .inappropriateType _ code details => details ++ " (os error " ++ toString code.toNat ++ ")"
  | other => toString other

/-- Everything that a handle gives. -/
def readHandle (handle : IO.FS.Handle) : IO Command.Input := do
  match ← handle.readBinToEnd.toBaseIO with
  | .ok bytes => return .content bytes.data.toList
  | .error error => return .unreadable (ioReason error)

/-- What is found at a path. -/
def readPath (path : String) : IO Command.Input := do
  match ← (IO.FS.Handle.mk path .read).toBaseIO with
  | .ok handle => readHandle handle
  | .error error => return .unopened (ioReason error)

/-- The bytes of a stream up to its end. -/
partial def streamBytes (stream : IO.FS.Stream) (read : ByteArray) : IO ByteArray := do
  let chunk ← stream.read 65536
  if chunk.isEmpty then return read else streamBytes stream (read ++ chunk)

/-- What is found on standard input. -/
def readStdin : IO Command.Input := do
  match ← (streamBytes (← IO.getStdin) .empty).toBaseIO with
  | .ok bytes => return .content bytes.data.toList
  | .error error => return .unreadable (ioReason error)

/-- Prints a report. -/
def printReport (report : Command.Report) : IO UInt32 := do
  IO.eprint report.errorText
  IO.print report.stdout
  return report.code

/-- What is found where the input is read from; a command that reads none finds it empty. -/
def readInput : Option (Option String) → IO Command.Input
  | none => return .content []
  | some none => readStdin
  | some (some path) => readPath path

/-- Reads the input from where the command asks for it and prints the report of the run. -/
def main (args : List String) : IO UInt32 := do
  let skip ← IO.getEnv skipVariable
  let input ← readInput (Command.source? args skip)
  printReport (Command.run args skip fun _ => input)
