import TagFilter.Main
import TagFilter.Proofs.Completion
import TagFilter.Proofs.CanonicalForm
import TagFilter.Proofs.GlobMatching
import TagFilter.Proofs.IgnoringCase
import TagFilter.Proofs.Interchange
import TagFilter.Proofs.Interleaving
import TagFilter.Proofs.Leaves
import TagFilter.Proofs.MarkerChange
import TagFilter.Proofs.Readable
import TagFilter.Proofs.FinalFailure
import TagFilter.Proofs.Composition
import TagFilter.Proofs.FewestGroups
import TagFilter.Proofs.LoneOperand
import TagFilter.Proofs.PlainLists
import TagFilter.Proofs.ListRefusal
import TagFilter.Proofs.GlobSegments
import TagFilter.Proofs.Dependence
import TagFilter.Proofs.Lowercasing
import TagFilter.Proofs.Collecting
import TagFilter.Proofs.Contents
import TagFilter.Proofs.Quoting
import TagFilter.Proofs.DescentReading
import TagFilter.Proofs.Sessions
import TagFilter.Proofs.Calls
