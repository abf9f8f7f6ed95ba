import LetArith.CommandLine.Command
import LetArith.Main
import LetArith.Proofs.AnyCursor
import LetArith.Proofs.Bookkeeping
import LetArith.Proofs.Classification
import LetArith.Proofs.RoundTrip
import LetArith.Proofs.Supply
import LetArith.Proofs.Verdict
import LetArith.Proofs.Boundary
import LetArith.Proofs.Finality
import LetArith.Proofs.Relocation
import LetArith.Proofs.Concatenation
import LetArith.Proofs.Digits
import LetArith.Proofs.Json.Composed
import LetArith.Proofs.Rounding
import LetArith.Proofs.Json.Reader
import LetArith.Proofs.Json.Reading
import LetArith.Proofs.Json.Escapes
import LetArith.Proofs.Json.Grammar
import LetArith.Proofs.Json.Numerals
import LetArith.Proofs.Json.RoundTrip
import LetArith.Proofs.Json.Unquoted
import LetArith.Proofs.Json.Validity
import LetArith.Proofs.Threshold
import LetArith.Proofs.Files
import LetArith.Proofs.Atomicity
import LetArith.Proofs.Status
import LetArith.Proofs.Arguments
import LetArith.Proofs.Logging
import LetArith.Proofs.Utf8
import LetArith.Proofs.Conversation
import LetArith.Proofs.Parting
import LetArith.Proofs.Simulation
import LetArith.Proofs.NodePlaces
import LetArith.Proofs.Stopping
import LetArith.Proofs.Respacing
import LetArith.Proofs.Grouping
import LetArith.Proofs.LineEnds
import LetArith.Proofs.Agreement
import LetArith.Proofs.TreeListing
import LetArith.Proofs.Resumption
import LetArith.Proofs.Scripts
import LetArith.Proofs.Equality
import LetArith.Proofs.Nesting
import LetArith.Proofs.Collecting
import LetArith.Host
import LetArith.Proofs.Noted
import LetArith.Proofs.Rendering
import LetArith.Proofs.Heights
