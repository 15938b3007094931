import NetlinkSocket.Notifier.Script
import NetlinkSocket.Session
import NetlinkSocket.WorkQueue.Nested
import NetlinkSocket.Proofs.Interleaving.Moves
import NetlinkSocket.Proofs.Effects
import NetlinkSocket.Proofs.Interleaving.Handles
import NetlinkSocket.Proofs.Books
import NetlinkSocket.Proofs.Interleaving.Answers
import NetlinkSocket.Proofs.Interleaving.Ownership
import NetlinkSocket.Proofs.Interleaving.Accounts
import NetlinkSocket.Proofs.Registrations
import NetlinkSocket.Proofs.Readers
import NetlinkSocket.Proofs.Interleaving.Waiting
import NetlinkSocket.Proofs.Interleaving.Semaphores
import NetlinkSocket.Proofs.Interleaving.Wakeups
import NetlinkSocket.Proofs.Interleaving.Alerts
import NetlinkSocket.Proofs.Interleaving.Arming
import NetlinkSocket.Proofs.Interleaving.Firings
import NetlinkSocket.Proofs.Interleaving.Polls
import NetlinkSocket.Proofs.Identities
import NetlinkSocket.Proofs.Interleaving.Courses
import NetlinkSocket.Proofs.Interleaving.Deliveries
import NetlinkSocket.Proofs.Interleaving.Readiness
import NetlinkSocket.Proofs.Refusals
import NetlinkSocket.Proofs.Interleaving.Failures
import NetlinkSocket.Proofs.Interleaving.Alterations
import NetlinkSocket.Proofs.Interleaving.Names
import NetlinkSocket.Proofs.Interleaving.Isolation
import NetlinkSocket.Proofs.Workers
import NetlinkSocket.Proofs.Watch
import NetlinkSocket.Proofs.Lifecycle
import NetlinkSocket.Proofs.Replies
import NetlinkSocket.Proofs.Interleaving.Exchanges
import NetlinkSocket.Proofs.Interleaving.Routing
import NetlinkSocket.Proofs.Admission
import NetlinkSocket.Proofs.Interleaving.Admissions
import NetlinkSocket.Proofs.Draining
import NetlinkSocket.Proofs.Fates
import NetlinkSocket.Proofs.Interleaving.Receptions
import NetlinkSocket.Proofs.Completion
import NetlinkSocket.Proofs.Interleaving.Dispatching
import NetlinkSocket.Proofs.Interleaving.Accuracy
import NetlinkSocket.Proofs.Interleaving.Privacy
import NetlinkSocket.Proofs.Interleaving.Outcomes
import NetlinkSocket.Proofs.Words
import NetlinkSocket.Proofs.Addresses
import NetlinkSocket.Proofs.Framing
import NetlinkSocket.Proofs.Segments
import NetlinkSocket.Proofs.Interleaving.Peers
import NetlinkSocket.Proofs.Interleaving.Modes
import NetlinkSocket.Proofs.Interleaving.Receipts
import NetlinkSocket.Proofs.Interleaving.Uncut
