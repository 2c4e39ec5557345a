import Countersign.Main
import Countersign.Proofs.Encoding
import Countersign.Proofs.HeaderValue
import Countersign.Proofs.Canonical
import Countersign.Proofs.Declared
import Countersign.Proofs.Acceptance
import Countersign.Proofs.BodyBinding
import Countersign.Proofs.Calls
import Countersign.Proofs.Admission
import Countersign.Proofs.Forgery
import Countersign.Proofs.QueryPairs
import Countersign.Proofs.Selector
import Countersign.Proofs.Readback
import Countersign.Proofs.Sealed
import Countersign.Proofs.SignedText
import Countersign.Proofs.Configured
import Countersign.Proofs.Refusals
import Countersign.Proofs.Scope
import Countersign.Proofs.JsonText
import Countersign.Proofs.FormText
import Countersign.Proofs.Origin
import Countersign.Proofs.Prepared
import Countersign.Proofs.Arguments
import Countersign.Proofs.Delivery
import Countersign.Proofs.IntegerText
import Countersign.Proofs.WireText
import Countersign.Proofs.FirstFault
import Countersign.Proofs.Discretion
import Countersign.Proofs.Spelling
import Countersign.Proofs.Relevance
import Countersign.Proofs.Precedence
import Countersign.Proofs.Faithful
import Countersign.Proofs.InPlace
import Countersign.Proofs.Bearer
import Countersign.Proofs.Numeral
import Countersign.Proofs.Transfers
import Countersign.Proofs.Naming
import Countersign.Proofs.Enveloped
import Countersign.Proofs.Forwarded
import Countersign.Proofs.AmountChecks
import Countersign.Proofs.HexText
import Countersign.Proofs.Loading
import Countersign.Proofs.HistoryLimit
import Countersign.Proofs.Linking
import Countersign.Proofs.Escapes
import Countersign.Proofs.Segments
import Countersign.Proofs.Addressed
import Countersign.Proofs.SeedText
import Countersign.Proofs.Coverage
