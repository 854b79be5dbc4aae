/-
# CommandLine.Options -- what the arguments ask for

Arguments are read from left to right.  An option with a value is written `--name=value`,
or `--name` with the value as the next argument, which then must not look like an option;
a lone `-` does not.  Flags have no value, and short ones may be written together behind
one `-`.  After `--` every argument is the name of a grammar, as is each one that does not
look like an option.

Nothing may be given twice, the name of the grammar among it.  The first thing that is
wrong ends the reading, and so does the first request for help or for the version.
-/
import RandomSentences.Config
import RandomSentences.Text.Basic

namespace RandomSentences.CommandLine

set_option autoImplicit false

/-- What has been given on the command line. -/
structure Options where
  grammar : Option String := none
  dir : Option String := none
  start : Option String := none
  count : Option Nat := none
  seed : Option Nat := none
  raw : Bool := false
  dumpRules : Bool := false
  verbose : Bool := false
deriving DecidableEq

namespace Options

def config (options : Options) : Config :=
  { startSymbol := options.start.getD "<start>"
    trimOutput := !options.raw
    grammarDir := options.dir.getD "grammars" }

end Options

inductive UsageError where
  | unknownOption (argument : String)
  | givenTwice (name : String)
  | missingValue (name : String)
  | needlessValue (name : String)
  | invalidValue (name value : String)
  | secondGrammar (argument : String)
deriving DecidableEq

def UsageError.message : UsageError → String
  | .unknownOption argument => "unexpected argument '" ++ argument ++ "' found"
  | .givenTwice name => "the argument '" ++ name ++ "' cannot be used multiple times"
  | .missingValue name => "a value is required for '" ++ name ++ "' but none was supplied"
  | .needlessValue name => "unexpected value for '" ++ name ++ "' found; no more were expected"
  | .invalidValue name value => "invalid value '" ++ value ++ "' for '" ++ name ++ "'"
  | .secondGrammar argument => "unexpected argument '" ++ argument ++ "' found"

inductive Request where
  | help
  | version
  | run (options : Options)
deriving DecidableEq

/-- The options that take a value. -/
inductive Valued where
  | dir
  | start
  | count
  | seed
deriving DecidableEq

/-- The options that do not. -/
inductive Flag where
  | raw
  | dumpRules
  | verbose
  | help
  | version
deriving DecidableEq

inductive Named where
  | valued (option : Valued)
  | flag (option : Flag)
deriving DecidableEq

def named? (name : String) : Option Named :=
  if name = "dir" then some (.valued .dir)
  else if name = "start" then some (.valued .start)
  else if name = "count" then some (.valued .count)
  else if name = "seed" then some (.valued .seed)
  else if name = "raw" then some (.flag .raw)
  else if name = "dump-rules" then some (.flag .dumpRules)
  else if name = "verbose" then some (.flag .verbose)
  else if name = "help" then some (.flag .help)
  else if name = "version" then some (.flag .version)
  else none

/-- The flag of a letter. -/
def short? (letter : Char) : Option Flag :=
  if letter = 'v' then some .verbose
  else if letter = 'h' then some .help
  else if letter = 'V' then some .version
  else none

/-- Whether to go on with more options given, or to stop at a request. -/
inductive Progress where
  | more (options : Options)
  | stop (request : Request)
deriving DecidableEq

/-- The bound on counts and seeds. -/
def wordBound : Nat := UInt64.size

def setValue (options : Options) (option : Valued) (name value : String) :
    Except UsageError Options :=
  match option with
  | .dir =>
      if options.dir.isSome then .error (.givenTwice name)
      else if value = "" then .error (.invalidValue name value)
      else .ok { options with dir := some value }
  | .start =>
      if options.start.isSome then .error (.givenTwice name)
      else .ok { options with start := some value }
  | .count =>
      if options.count.isSome then .error (.givenTwice name)
      else
        match Text.numeralBelow? wordBound value with
        | none => .error (.invalidValue name value)
        | some count => .ok { options with count := some count }
  | .seed =>
      if options.seed.isSome then .error (.givenTwice name)
      else
        match Text.numeralBelow? wordBound value with
        | none => .error (.invalidValue name value)
        | some seed => .ok { options with seed := some seed }

def setFlag (options : Options) (flag : Flag) (name : String) : Except UsageError Progress :=
  match flag with
  | .help => .ok (.stop .help)
  | .version => .ok (.stop .version)
  | .raw =>
      if options.raw then .error (.givenTwice name)
      else .ok (.more { options with raw := true })
  | .dumpRules =>
      if options.dumpRules then .error (.givenTwice name)
      else .ok (.more { options with dumpRules := true })
  | .verbose =>
      if options.verbose then .error (.givenTwice name)
      else .ok (.more { options with verbose := true })

/-- Sets the flags of the letters behind one `-`. -/
def setLetters (options : Options) : List Char → Except UsageError Progress
  | [] => .ok (.more options)
  | letter :: rest =>
      let name := "-" ++ String.singleton letter
      match short? letter with
      | none => .error (.unknownOption name)
      | some flag =>
          match setFlag options flag name with
          | .ok (.more options) => setLetters options rest
          | other => other

def setGrammar (options : Options) (argument : String) : Except UsageError Options :=
  if options.grammar.isSome then .error (.secondGrammar argument)
  else .ok { options with grammar := some argument }

/-- An argument, by how it starts. -/
inductive Argument where
  /-- Two dashes alone. -/
  | separator
  /-- A long option, with the value behind its equals sign if it has one. -/
  | long (name : String) (value : Option String)
  /-- Letters behind one dash. -/
  | letters (letters : List Char)
  /-- Anything else, a lone dash included. -/
  | plain (text : String)
deriving DecidableEq

def Argument.ofText (text : String) : Argument :=
  match text.toList with
  | ['-', '-'] => .separator
  | '-' :: '-' :: body =>
      match body.dropWhile (· != '=') with
      | [] => .long (String.ofList body) none
      | _ :: value => .long (String.ofList (body.takeWhile (· != '='))) (some (String.ofList value))
  | '-' :: letter :: rest => .letters (letter :: rest)
  | _ => .plain text

/-- Reads the arguments behind `--`. -/
def readPlain (options : Options) : List String → Except UsageError Request
  | [] => .ok (.run options)
  | text :: rest =>
      match setGrammar options text with
      | .error error => .error error
      | .ok options => readPlain options rest

/-- Reads the arguments; an option may be waiting for its value. -/
def readFrom : Options → Option (Valued × String) → List String → Except UsageError Request
  | options, none, [] => .ok (.run options)
  | _, some (_, name), [] => .error (.missingValue name)
  | options, some (option, name), text :: rest =>
      match Argument.ofText text with
      | .plain value =>
          match setValue options option name value with
          | .error error => .error error
          | .ok options => readFrom options none rest
      | _ => .error (.missingValue name)
  | options, none, text :: rest =>
      match Argument.ofText text with
      | .separator => readPlain options rest
      | .plain text =>
          match setGrammar options text with
          | .error error => .error error
          | .ok options => readFrom options none rest
      | .letters letters =>
          match setLetters options letters with
          | .error error => .error error
          | .ok (.stop request) => .ok request
          | .ok (.more options) => readFrom options none rest
      | .long name value =>
          match named? name, value with
          | none, _ => .error (.unknownOption text)
          | some (.valued option), none => readFrom options (some (option, text)) rest
          | some (.valued option), some value =>
              match setValue options option ("--" ++ name) value with
              | .error error => .error error
              | .ok options => readFrom options none rest
          | some (.flag _), some _ => .error (.needlessValue ("--" ++ name))
          | some (.flag flag), none =>
              match setFlag options flag text with
              | .error error => .error error
              | .ok (.stop request) => .ok request
              | .ok (.more options) => readFrom options none rest

def read (arguments : List String) : Except UsageError Request :=
  readFrom {} none arguments

end RandomSentences.CommandLine
