import DurableSession.Client.Loop
import DurableSession.Main
import DurableSession.Proofs.Client.Orphans
import DurableSession.Proofs.Client.Waiters
import DurableSession.Proofs.Ends.Agreement
import DurableSession.Proofs.Ends.Traffic
import DurableSession.Proofs.Handshake.Descriptor
import DurableSession.Proofs.Server.Authentication
import DurableSession.Proofs.Server.Challenges
import DurableSession.Proofs.Server.Conduct
import DurableSession.Proofs.Server.Deeds
import DurableSession.Proofs.Server.Departure
import DurableSession.Proofs.Server.Enforcement
import DurableSession.Proofs.Server.Exclusive
import DurableSession.Proofs.Server.Extinction
import DurableSession.Proofs.Server.Leftovers
import DurableSession.Proofs.Server.Regular
import DurableSession.Proofs.Server.Resumption
import DurableSession.Proofs.Server.Rivalry
import DurableSession.Proofs.Server.Routing
import DurableSession.Proofs.Server.Sharing
import DurableSession.Proofs.Server.Tenancy
import DurableSession.Proofs.Server.Window
import DurableSession.Server.Admin
import DurableSession.Server.Gateway
import DurableSession.Server.Promise
import DurableSession.Text.Hex
import DurableSession.Proofs.Client.Late
import DurableSession.Proofs.Client.Walk
import DurableSession.Proofs.Configuration.Announcement
import DurableSession.Proofs.Registry.Edit
import DurableSession.Proofs.Server.Realm
import DurableSession.Proofs.Server.Interference
import DurableSession.Proofs.Client.Refusal
import DurableSession.Proofs.Server.Sweeping
import DurableSession.Proofs.Server.Closing
import DurableSession.Proofs.Configuration.Accounts
import DurableSession.Proofs.Client.Delays
import DurableSession.Proofs.Timing.Boundary
import DurableSession.Proofs.Client.Remembrance
import DurableSession.Proofs.Handshake.Origin
