import Lexicon.Main
import Lexicon.Proofs.Arguments
import Lexicon.Proofs.Checks
import Lexicon.Proofs.Choices
import Lexicon.Proofs.Decoding
import Lexicon.Proofs.Diagnostics
import Lexicon.Proofs.Environment
import Lexicon.Proofs.FormatNames
import Lexicon.Proofs.FormatVariable
import Lexicon.Proofs.Inversion
import Lexicon.Proofs.LogLines
import Lexicon.Proofs.Numerals
import Lexicon.Proofs.OptionLines
import Lexicon.Proofs.Outcomes
import Lexicon.Proofs.Quoting
import Lexicon.Proofs.Runs
import Lexicon.Proofs.Streams
import Lexicon.Proofs.Suggestions
import Lexicon.Proofs.Transcripts
import Lexicon.Proofs.ValueLines
import Lexicon.Proofs.Vocabulary
import Lexicon.Proofs.Wrapping
import Lexicon.Proofs.RawValues
import Lexicon.Proofs.MarkdownCells
import Lexicon.Proofs.PlainColumns
import Lexicon.Proofs.JsonDocuments
import Lexicon.Proofs.JsonRows
