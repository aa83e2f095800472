import DurableSession.Timing.Boundary
import DurableSession.Text.Quoted

/-!
Errors of the protocol between client and server, and their wording.
-/

namespace DurableSession

/-- Why something that came over the wire was refused. -/
inductive ProtocolError where
  | invalidBoundary (fault : Timing.BoundaryFault)
  | missingHeader (name : String)
  | invalidHeader (name value : String)
  /-- A value that cannot be written as a header. -/
  | unrepresentableHeader (name value : String)
  | invalidIdentifier (text : String)
deriving DecidableEq

namespace ProtocolError

def message : ProtocolError → String
  | invalidBoundary fault => "invalid time boundary: " ++ fault.message
  | missingHeader name => "missing header: " ++ name
  | invalidHeader name value => "invalid header " ++ name ++ ": " ++ Text.quoted value
  | unrepresentableHeader name value =>
    "value not representable as header " ++ name ++ ": " ++ Text.quoted value
  | invalidIdentifier text => "invalid identifier: " ++ Text.quoted text

end ProtocolError

end DurableSession
