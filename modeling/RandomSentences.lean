import RandomSentences.Main
import RandomSentences.FileTree
import RandomSentences.Proofs.Choice
import RandomSentences.Proofs.Derivation
import RandomSentences.Proofs.Language
import RandomSentences.Proofs.Rules
import RandomSentences.Proofs.Text
import RandomSentences.Proofs.Sentence
import RandomSentences.Proofs.Writing
import RandomSentences.Proofs.Lexing
import RandomSentences.Proofs.Document
import RandomSentences.Proofs.CanonicalName
import RandomSentences.Proofs.Insertions
import RandomSentences.Proofs.Reading
import RandomSentences.Proofs.Acyclic
import RandomSentences.Proofs.Accepted
import RandomSentences.Proofs.Lookup
import RandomSentences.Proofs.Spelling
import RandomSentences.Proofs.Bisimulation
import RandomSentences.Proofs.AsciiCase
import RandomSentences.Proofs.Gaps
import RandomSentences.Proofs.Concatenation
import RandomSentences.Proofs.LetterCase
import RandomSentences.Proofs.Transcript
import RandomSentences.Proofs.BlankRuns
import RandomSentences.Proofs.Resolution
import RandomSentences.Proofs.Locality
import RandomSentences.Proofs.Pruning
import RandomSentences.Proofs.SingleProduction
import RandomSentences.Proofs.Trimming
import RandomSentences.Proofs.Braces
import RandomSentences.Proofs.TidyLine
import RandomSentences.Proofs.Rewritten
import RandomSentences.Proofs.BlockName
import RandomSentences.Proofs.LineEnds
import RandomSentences.Proofs.Tabs
import RandomSentences.Proofs.Complaint
