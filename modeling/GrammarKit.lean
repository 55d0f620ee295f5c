import GrammarKit.Command.Directory
import GrammarKit.Main
import GrammarKit.Proofs.IdNumber
import GrammarKit.Proofs.Lossless
import GrammarKit.Proofs.Nesting
import GrammarKit.Proofs.Outcome
import GrammarKit.Proofs.Representation
import GrammarKit.Proofs.Threading
import GrammarKit.Proofs.Transparent
import GrammarKit.Proofs.Extension
import GrammarKit.Proofs.JsonText
import GrammarKit.Proofs.Encoding
import GrammarKit.Proofs.Rendering
import GrammarKit.Proofs.Input
import GrammarKit.Proofs.Date
import GrammarKit.Proofs.Answer
import GrammarKit.Proofs.Arguments
import GrammarKit.Proofs.Checking
import GrammarKit.Proofs.OneLine
import GrammarKit.Proofs.Attempts
import GrammarKit.Proofs.FormatTemplate
import GrammarKit.Proofs.Reportable
import GrammarKit.Proofs.Sequencing
import GrammarKit.Proofs.Alternation
import GrammarKit.Proofs.Splitting
import GrammarKit.Proofs.Exhaustion
import GrammarKit.Proofs.Numeral
import GrammarKit.Proofs.Words
import GrammarKit.Proofs.Interruption
import GrammarKit.Proofs.MonadLaws
