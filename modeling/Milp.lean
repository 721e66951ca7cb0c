import Milp.Session.Formatting
import Milp.Session.Ordering
import Milp.Session.Operations
import Milp.Session.Release
import Milp.Proofs.Serialization
import Milp.Proofs.Reaching
import Milp.Proofs.Splicing
import Milp.Proofs.Replacing
import Milp.Proofs.Nesting
import Milp.Proofs.Coefficients
import Milp.Proofs.MatrixForm
import Milp.Proofs.Fields
import Milp.Proofs.Calling
import Milp.Proofs.Comparing
import Milp.Proofs.Pulling
import Milp.Proofs.Covering
import Milp.Proofs.Histories
import Milp.Proofs.Optimality
import Milp.Proofs.Sending
import Milp.Proofs.Lifetimes
import Milp.Proofs.Keeping
import Milp.Proofs.Additions
import Milp.Proofs.Folding
import Milp.Proofs.Linearity
import Milp.Proofs.Mentions
import Milp.Proofs.Laws
import Milp.Proofs.Classifying
import Milp.Proofs.Spacing
import Milp.Proofs.Layout
import Milp.Proofs.Ambiguity
import Milp.Proofs.Operators
import Milp.Proofs.Integers
import Milp.Proofs.Settings
import Milp.Proofs.Formats
