import AuditTrail.Service

/-!
# The server

The address to listen on, and the end of a server: however it ends, the pipeline is drained.
-/

namespace AuditTrail.Server

/-- Where to listen. -/
structure Address where
  host : String
  port : Nat
  deriving DecidableEq, Repr

/-- The text of an address. A host that holds colons is not put into brackets. -/
def Address.render (a : Address) : String :=
  a.host ++ ":" ++ toString a.port

/-- Runs a server for which a stop has been requested already: it listens, if the address can be
had, and stops; then the pipeline is shut down. -/
def runStopped (s : Service) (bound : Except SystemFault Unit) : Service × Except Failure Unit :=
  (s.shutdown, bound.mapError fun fault => .io (.system fault))

end AuditTrail.Server
