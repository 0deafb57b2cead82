import FlagHost.Client.Stub
import FlagHost.Main
import FlagHost.Proofs.Membership
import FlagHost.Proofs.Prerequisites
import FlagHost.Proofs.RuleOrder
import FlagHost.Proofs.Targeting
import FlagHost.Proofs.Serving
import FlagHost.Proofs.Exchange
import FlagHost.Proofs.Fetching
import FlagHost.Proofs.Session
import FlagHost.Proofs.Polling
import FlagHost.Proofs.Lifetime
import FlagHost.Proofs.Readiness
import FlagHost.Proofs.Destruction
import FlagHost.Proofs.Entries
import FlagHost.Proofs.Locality
import FlagHost.Proofs.Decoding
import FlagHost.Proofs.Isolation
import FlagHost.Proofs.Dispatch
import FlagHost.Proofs.Stages
import FlagHost.Proofs.Delivery
import FlagHost.Proofs.ObjectFlags
import FlagHost.Proofs.Skipping
import FlagHost.Proofs.Tokens
import FlagHost.Proofs.Parents
import FlagHost.Proofs.Negation
import FlagHost.Proofs.Reading
import FlagHost.Proofs.Codecs
import FlagHost.Proofs.Attempts
import FlagHost.Proofs.SelfTesting
import FlagHost.Proofs.Verdict
import FlagHost.Proofs.Nesting
import FlagHost.Proofs.Widening
import FlagHost.Proofs.WholeText
import FlagHost.Proofs.Correspondence
import FlagHost.Proofs.Reordering
import FlagHost.Proofs.Visibility
import FlagHost.Proofs.Sufficiency
import FlagHost.Proofs.Agreement
import FlagHost.Proofs.Operators
import FlagHost.Proofs.BaseAddresses
import FlagHost.Proofs.Layouts
