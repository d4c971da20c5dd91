import DynamicBinding.Session
import DynamicBinding.Proofs.Resolution.Narrowing
import DynamicBinding.Proofs.Machine.Guards
import DynamicBinding.Proofs.Machine.History
import DynamicBinding.Proofs.Machine.Conversion
import DynamicBinding.Proofs.Machine.Delegates
import DynamicBinding.Proofs.Machine.Fields
import DynamicBinding.Proofs.Machine.Knots
import DynamicBinding.Proofs.Machine.Depth
import DynamicBinding.Proofs.Machine.Callees
import DynamicBinding.Proofs.Machine.Forms
import DynamicBinding.Proofs.Machine.Bound
import DynamicBinding.Proofs.Publisher.Requests
import DynamicBinding.Proofs.Machine.Published
import DynamicBinding.Proofs.Machine.Numbers
import DynamicBinding.Proofs.Machine.Dispatch
import DynamicBinding.Proofs.Machine.Membership
import DynamicBinding.Proofs.Machine.Implicit
import DynamicBinding.Proofs.Machine.Negation
import DynamicBinding.Proofs.Machine.Order
import DynamicBinding.Proofs.Machine.Numerals
import DynamicBinding.Proofs.Machine.Truth
import DynamicBinding.Proofs.Guard.Equality
