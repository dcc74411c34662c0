import PageServer.Web.Site
import PageServer.Proofs.Basic
import PageServer.Proofs.Sequence
import PageServer.Proofs.Atom
import PageServer.Proofs.Fragment
import PageServer.Proofs.Program
import PageServer.Proofs.Provenance
import PageServer.Proofs.Lockstep
import PageServer.Proofs.Evaluation
import PageServer.Proofs.Requests
import PageServer.Proofs.Injection
import PageServer.Proofs.Growth
import PageServer.Proofs.Apart
import PageServer.Proofs.Commutation
import PageServer.Proofs.Settled
import PageServer.Proofs.Aside
import PageServer.Proofs.Locality
import PageServer.Proofs.Scoping
import PageServer.Proofs.Word
import PageServer.Proofs.Path
import PageServer.Proofs.Delivery
import PageServer.Proofs.Routing
import PageServer.Proofs.Reading
import PageServer.Proofs.Columns
import PageServer.Proofs.Statement
import PageServer.Proofs.Declared
import PageServer.Proofs.Readback
import PageServer.Proofs.Soundness
import PageServer.Proofs.Blame
import PageServer.Proofs.Reports
import PageServer.Proofs.Vetting
import PageServer.Proofs.Heading
import PageServer.Proofs.Decoding
import PageServer.Proofs.Ordering
import PageServer.Proofs.Equality
import PageServer.Proofs.Legibility
import PageServer.Proofs.Agreement
import PageServer.Proofs.Merging
import PageServer.Proofs.Layers
import PageServer.Proofs.Marshalling
import PageServer.Proofs.Matching
import PageServer.Proofs.Construction
import PageServer.Proofs.Depth
import PageServer.Proofs.Termination
import PageServer.Proofs.Creation
