/-
# Fault -- why a file cannot be read, and why there is no grammar

A fault comes from the operating system, which numbers and names it, or from a path with a NUL in it,
which no system takes, or from a content that is not UTF-8, or it is any other that comes with a
message of its own.

A *complaint* about a JSON document has a text and a position, a line and a column.  Lines are counted
from one, and line zero is nowhere: a complaint there is written without a position, and any other as
its text with ` at line … column …` behind it.  A complaint may be given as a text that already ends
that way (`Complaint.ofText`).  Its position is then read from the last ` at line ` on, where two runs
of digits have to stand, with ` column ` between them, nothing behind them, and both numbers below
2⁶⁴.  Otherwise all of the text is the complaint's text, and it is nowhere.

Each has two texts: the `message` for a user and the `report`, which shows its parts.
-/
import RandomSentences.Text.Quoted

namespace RandomSentences

set_option autoImplicit false

/-! ## Faults of the system -/

/-- A refusal by the operating system. -/
inductive SystemFault where
  | notFound
  | permissionDenied
  | notDirectory
  | isDirectory
  | nameTooLong
deriving DecidableEq

namespace SystemFault

def code : SystemFault → Nat
  | .notFound => 2
  | .permissionDenied => 13
  | .notDirectory => 20
  | .isDirectory => 21
  | .nameTooLong => 36

def kind : SystemFault → String
  | .notFound => "NotFound"
  | .permissionDenied => "PermissionDenied"
  | .notDirectory => "NotADirectory"
  | .isDirectory => "IsADirectory"
  | .nameTooLong => "InvalidFilename"

def text : SystemFault → String
  | .notFound => "No such file or directory"
  | .permissionDenied => "Permission denied"
  | .notDirectory => "Not a directory"
  | .isDirectory => "Is a directory"
  | .nameTooLong => "File name too long"

end SystemFault

/-- Why a file cannot be read. -/
inductive Fault where
  | system (fault : SystemFault)
  /-- The path has a NUL in it. -/
  | nulInPath
  /-- The content is not UTF-8. -/
  | notText
  | other (message : String)
deriving DecidableEq

namespace Fault

def nulInPathMessage : String := "file name contained an unexpected NUL byte"

def notTextMessage : String := "stream did not contain valid UTF-8"

def message : Fault → String
  | .system fault => fault.text ++ " (os error " ++ toString fault.code ++ ")"
  | .nulInPath => nulInPathMessage
  | .notText => notTextMessage
  | .other message => message

def report : Fault → String
  | .system fault =>
      "Os \x7b code: " ++ toString fault.code ++ ", kind: " ++ fault.kind ++ ", message: " ++
        Text.quoted fault.text ++ " \x7d"
  | .nulInPath =>
      "Error \x7b kind: InvalidInput, message: " ++ Text.quoted nulInPathMessage ++ " \x7d"
  | .notText =>
      "Error \x7b kind: InvalidData, message: " ++ Text.quoted notTextMessage ++ " \x7d"
  | .other message => "Custom \x7b kind: Other, error: " ++ Text.quoted message ++ " \x7d"

end Fault

/-! ## Complaints about documents -/

namespace Json

/-- What is wrong with a document, and where. -/
structure Complaint where
  text : String
  line : Nat := 0
  column : Nat := 0
deriving DecidableEq

namespace Complaint

def lineMark : String := " at line "

def columnMark : String := " column "

def positionBound : Nat := UInt64.size

def number? (digits : List Char) : Option Nat :=
  (Text.digits? digits).filter (· < positionBound)

/-- The line and the column of a position, written without the mark before the line. -/
def position? (text : List Char) : Option (Nat × Nat) := do
  let digits := text.takeWhile Char.isDigit
  let rest ← columnMark.toList.isPrefixOf? (text.dropWhile Char.isDigit)
  let line ← number? digits
  let column ← number? rest
  some (line, column)

/-- The complaint that a text gives. -/
def ofText (text : String) : Complaint :=
  match Text.cutLast? lineMark.toList text.toList with
  | none => ⟨text, 0, 0⟩
  | some (before, rest) =>
      match position? rest with
      | none => ⟨text, 0, 0⟩
      | some (line, column) => ⟨String.ofList before, line, column⟩

def message (complaint : Complaint) : String :=
  if complaint.line = 0 then complaint.text
  else
    complaint.text ++ lineMark ++ toString complaint.line ++ columnMark ++
      toString complaint.column

def report (complaint : Complaint) : String :=
  "Error(" ++ Text.quoted complaint.text ++ ", line: " ++ toString complaint.line ++
    ", column: " ++ toString complaint.column ++ ")"

end Complaint

end Json

/-! ## Errors -/

/-- Why there is no grammar. -/
inductive LoadError where
  /-- The file at the path cannot be read. -/
  | unreadable (path : String) (cause : Fault)
  /-- The document is not one of rules. -/
  | notRules (complaint : Json.Complaint)
deriving DecidableEq

namespace LoadError

def message : LoadError → String
  | .unreadable path cause => "Grammar file not found: " ++ path ++ ": " ++ cause.message
  | .notRules complaint => "JSON error: " ++ complaint.message

def report : LoadError → String
  | .unreadable path cause =>
      "FileNotFound \x7b path: " ++ Text.quoted path ++ ", source: " ++ cause.report ++ " \x7d"
  | .notRules complaint => "Json(" ++ complaint.report ++ ")"

end LoadError

end RandomSentences
