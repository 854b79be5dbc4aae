/-
# Main -- the program

The outer layer: it reads the standard input and the file that the run asks for, hands them
to `CommandLine.run`, writes the outcome, and exits with its code.
-/
import RandomSentences.CommandLine.Run

namespace RandomSentences.Program

set_option autoImplicit false

open CommandLine

/-- The number of a system error; the part of the system that opens files gives it negated. -/
def errorNumber (code : UInt32) : UInt32 :=
  if code < 0x80000000 then code else 0 - code

def faultOf : IO.Error → Fault
  | .noFileOrDirectory .. => .system .notFound
  | .permissionDenied .. => .system .permissionDenied
  | .inappropriateType _ code _ =>
      if errorNumber code = 21 then .system .isDirectory else .system .notDirectory
  | .invalidArgument _ code details =>
      if errorNumber code = 36 then .system .nameTooLong else .other details
  | error => .other (toString error)

def readFile (path : String) : IO (Except Fault String) := do
  if path.toList.contains '\x00' then return .error .nulInPath
  try
    let content ← IO.FS.readBinFile path
    match String.fromUTF8? content with
    | some text => return .ok text
    | none => return .error .notText
  catch error => return .error (faultOf error)

/-- A stream of words that differs from run to run. -/
def entropy : IO WordStream := do
  let bytes ← IO.getRandomBytes 8
  return Seed.stream (bytes.toList.foldl (fun seed byte => seed * 256 + byte.toUInt64) 0)

/-- Runs the program on the options and the name of the grammar. -/
def finish (options : Options) (name : String) : IO UInt32 := do
  let text ← readFile (options.config.pathOf name)
  match conclude Limits.ample (← entropy) (fun _ => text) options name with
  | none => return 1
  | some outcome =>
      IO.eprint outcome.messages
      IO.print outcome.output
      return UInt32.ofNat outcome.code

def start (arguments : List String) : IO UInt32 := do
  match CommandLine.read arguments with
  | .error error =>
      IO.eprint (refuse error).messages
      return UInt32.ofNat (refuse error).code
  | .ok .help =>
      IO.print helpText
      return 0
  | .ok .version =>
      IO.print versionText
      return 0
  | .ok (.run options) =>
      match options.grammar with
      | some name => finish options name
      | none =>
          IO.eprint prompt
          finish options (typedName (← (← IO.getStdin).getLine))

end RandomSentences.Program

/-- Runs the program on its arguments. -/
def main (arguments : List String) : IO UInt32 :=
  RandomSentences.Program.start arguments
