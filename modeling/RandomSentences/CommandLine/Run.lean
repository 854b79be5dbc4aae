/-
# CommandLine.Run -- what a run of the program writes

A run is a function of the arguments, the standard input, the files, and a stream of words
for when no seed is given.  Its outcome is an exit code with the text for each of the two
outputs.

The grammar's name is the argument, or else the first line of the input, trimmed, after a
prompt.  A single sentence is written without a line feed, any other number of sentences
with one after each.
-/
import RandomSentences.CommandLine.Options
import RandomSentences.Grammar
import RandomSentences.Rules.Json

namespace RandomSentences.CommandLine

set_option autoImplicit false

structure Outcome where
  code : Nat
  /-- The text on the standard output. -/
  output : String
  /-- The text on the standard error. -/
  messages : String
deriving DecidableEq

def versionText : String := "rsg 0.1.0\n"

def helpText : String :=
  "A random sentence generator driven by brace-delimited context-free grammar files\n" ++
  "\n" ++
  "Usage: rsg [OPTIONS] [GRAMMAR]\n" ++
  "\n" ++
  "Arguments:\n" ++
  "  [GRAMMAR]  Grammar file name (e.g. poem, grammars/poem.g)\n" ++
  "\n" ++
  "Options:\n" ++
  "      --dir <DIR>      Directory searched for bare grammar names [default: grammars]\n" ++
  "      --start <START>  The starting non-terminal symbol [default: <start>]\n" ++
  "      --count <COUNT>  Number of sentences to generate [default: 1]\n" ++
  "      --seed <SEED>    Seed for reproducible output\n" ++
  "      --raw            Keep surrounding whitespace on generated sentences\n" ++
  "      --dump-rules     Print the parsed rule table as JSON instead of generating\n" ++
  "  -v, --verbose        Print status lines to stderr\n" ++
  "  -h, --help           Print help\n" ++
  "  -V, --version        Print version\n"

/-- What is asked when no grammar is named. -/
def prompt : String := "Please enter a grammar file: "

/-- The name on the first line of an input. -/
def typedName (input : String) : String :=
  String.ofList (Text.trim (input.toList.takeWhile (· != '\n')))

def refuse (error : UsageError) : Outcome :=
  ⟨2, "", "error: " ++ error.message ++ "\n\nFor more information, try '--help'.\n"⟩

/-- The sentences as they are written. -/
def writeSentences : Nat → List String → String
  | 1, sentences => String.join sentences
  | _, sentences => String.join (sentences.map (· ++ "\n"))

def Options.stream (options : Options) (entropy : WordStream) : WordStream :=
  match options.seed with
  | none => entropy
  | some seed => Seed.stream (UInt64.ofNat seed)

/-- The outcome once the name of the grammar is known; `none` when a limit is reached. -/
def conclude (limits : Limits) (entropy : WordStream) (files : String → Except Fault String)
    (options : Options) (name : String) : Option Outcome :=
  let loading :=
    if options.verbose then
      "Loading grammar from " ++ options.config.pathOf name ++ "...\n"
    else ""
  match Grammar.find files name options.config with
  | .error error => some ⟨1, "", loading ++ "Error: " ++ error.report ++ "\n"⟩
  | .ok grammar =>
      let loaded :=
        if options.verbose then
          loading ++ "Loaded " ++ toString grammar.rules.size ++ " rules.\n"
        else loading
      if options.dumpRules then some ⟨0, grammar.rules.toJson ++ "\n", loaded⟩
      else
        let count := options.count.getD 1
        (grammar.sentences limits (options.stream entropy) count).map fun sentences =>
          ⟨0, writeSentences count sentences, loaded⟩

/-- The outcome of a run; `none` when a limit is reached. -/
def run (limits : Limits) (entropy : WordStream) (files : String → Except Fault String)
    (input : String) (arguments : List String) : Option Outcome :=
  match read arguments with
  | .error error => some (refuse error)
  | .ok .help => some ⟨0, helpText, ""⟩
  | .ok .version => some ⟨0, versionText, ""⟩
  | .ok (.run options) =>
      match options.grammar with
      | some name => conclude limits entropy files options name
      | none =>
          (conclude limits entropy files options (typedName input)).map fun outcome =>
            { outcome with messages := prompt ++ outcome.messages }

end RandomSentences.CommandLine
