import Dashboard.Main
import Dashboard.Proofs.Acceptance
import Dashboard.Proofs.Identity
import Dashboard.Proofs.FirstReference
import Dashboard.Proofs.Residue
import Dashboard.Proofs.Strictness
import Dashboard.Proofs.Reordering
import Dashboard.Proofs.Rounds
import Dashboard.Proofs.History
import Dashboard.Proofs.Crossfilter
import Dashboard.Proofs.Delivery
import Dashboard.Proofs.Matching
import Dashboard.Proofs.Repetition
import Dashboard.Proofs.Separation
import Dashboard.Proofs.Spellings
import Dashboard.Proofs.LosingKeys
import Dashboard.Proofs.Showing
import Dashboard.Proofs.Conservativity
import Dashboard.Proofs.Allocation
import Dashboard.Proofs.Materializing
import Dashboard.Proofs.Invocation
import Dashboard.Proofs.Merging
import Dashboard.Proofs.Settling
import Dashboard.Proofs.Staging
import Dashboard.Proofs.Fragments
import Dashboard.Proofs.Handlers
import Dashboard.Proofs.Combining
import Dashboard.Proofs.Cascades
import Dashboard.Proofs.Channels
import Dashboard.Proofs.Arguments
