import Stencil.Main
import Stencil.Proofs.Cutting
import Stencil.Proofs.SimpleRule
import Stencil.Proofs.Splice
import Stencil.Proofs.Histories
import Stencil.Proofs.Spelling
import Stencil.Proofs.Delivery
import Stencil.Proofs.Reading
import Stencil.Proofs.Registration
import Stencil.Proofs.Escaping
import Stencil.Proofs.Checking
import Stencil.Proofs.Recognition
import Stencil.Proofs.Punctuation
import Stencil.Proofs.Framing
import Stencil.Proofs.Borders
import Stencil.Proofs.BodyLimit
import Stencil.Proofs.Budget
import Stencil.Proofs.Printing
import Stencil.Proofs.Concatenation
import Stencil.Proofs.Steering
import Stencil.Proofs.Builtins
import Stencil.Proofs.Absence
import Stencil.Proofs.Numerals
import Stencil.Proofs.Secrecy
import Stencil.Proofs.Loading
import Stencil.Proofs.Heeding
import Stencil.Proofs.Counting
import Stencil.Proofs.Repetition
import Stencil.Proofs.FreeNames
import Stencil.Proofs.Reordering
import Stencil.Proofs.Suggestion
import Stencil.Proofs.Window
import Stencil.Proofs.Lookup
import Stencil.Proofs.Intervals
import Stencil.Proofs.Lengths
import Stencil.Proofs.Verdicts
import Stencil.Proofs.Encoding
import Stencil.Proofs.Offsets
