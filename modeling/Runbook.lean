import Runbook.Main
import Runbook.Shell.Session
import Runbook.Web.Service
import Runbook.Proofs.Path
import Runbook.Proofs.Lockstep
import Runbook.Proofs.Reporting
import Runbook.Proofs.Answering
import Runbook.Proofs.Chunks
import Runbook.Proofs.ControlText
import Runbook.Proofs.Decimals
import Runbook.Proofs.Keeping
import Runbook.Proofs.Outliving
import Runbook.Proofs.Shutdown
import Runbook.Proofs.SignatureText
import Runbook.Proofs.Balancing
import Runbook.Proofs.Capturing
import Runbook.Proofs.Diagnosing
import Runbook.Proofs.Draining
import Runbook.Proofs.Filing
import Runbook.Proofs.Inserting
import Runbook.Proofs.Regrouping
import Runbook.Proofs.Repeating
import Runbook.Proofs.Conversing
import Runbook.Proofs.Encoding
import Runbook.Proofs.Iterating
import Runbook.Proofs.Replacing
import Runbook.Proofs.LineReader
import Runbook.Proofs.Accumulating
import Runbook.Proofs.Joining
import Runbook.Proofs.Spelling
import Runbook.Proofs.Storing
import Runbook.Proofs.Seeking
import Runbook.Proofs.Planning
import Runbook.Proofs.Refusing
import Runbook.Proofs.FrontEnds
import Runbook.Proofs.Fetching
import Runbook.Proofs.Lengths
import Runbook.Proofs.Roles
import Runbook.Proofs.Rounding
import Runbook.Proofs.Saturating
import Runbook.Proofs.Pairing
