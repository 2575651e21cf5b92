import Xscope.Billing.Budget
import Xscope.Outbox.Fencing
import Xscope.Payments.Replays
import Xscope.Fleet.Readiness
import Xscope.Fleet.Revisions
import Xscope.Member.Newest
import Xscope.Member.Restart
import Xscope.Member.Acknowledged
import Xscope.Member.Writers
import Xscope.Gateway.Usage
import Xscope.Gateway.Quota
import Xscope.Billing.Keeping
import Xscope.Billing.Exclusive
import Xscope.Billing.Prices
import Xscope.Outbox.Sources
import Xscope.Feed.Combined
import Xscope.Feed.Pending
import Xscope.Tenants.Console
import Xscope.Ops.Convergence
import Xscope.Kubernetes.Autoscaling
import Xscope.Kubernetes.Ownership
import Xscope.Gateway.Delivery
import Xscope.Serving.Gate
import Xscope.Serving.History
import Xscope.Serving.Entries
import Xscope.Serving.Exchange
import Xscope.Serving.Releases
import Xscope.Billing.Arithmetic
import Xscope.Payments.Amount
import Xscope.Payments.Reconcile
import Xscope.Gateway.Streaming
import Xscope.Gateway.Recovery
import Xscope.Billing.Solvent
import Xscope.Fleet.Drained
import Xscope.Serving.Keys
import Xscope.Fleet.Credentials
import Xscope.Billing.Charges
import Xscope.Gateway.Metered
import Xscope.Member.Evidence
import Xscope.Base.History
import Xscope.Kubernetes.Observation
import Xscope.Member.Observing
