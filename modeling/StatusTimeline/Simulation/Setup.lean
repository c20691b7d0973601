import StatusTimeline.Service
import StatusTimeline.Simulation.Script

/-!
This module contains the beginnings of simulations, and the service in a simulated world.
-/

namespace StatusTimeline.Simulation

/--
The reading of the clock for creation times unless a script sets it.
-/
def defaultClock : Instant := .ofParts 1714521600 0

namespace Session

def inMemory (settings : Settings) (clock : Instant) (directory : Directory) : Session where
  world := { settings, clock, backing := .memory { directory } }

/--
A simulation whose collaborators live in a database. The platform's tables hold what is given; a table
that is not given does not exist.
-/
def inDatabase (settings : Settings) (clock : Instant) (monitors : Option (List Uuid))
    (users : Option Directory) : Session where
  world := {
    settings
    clock
    backing := .database { monitors := monitors.map fun ids => ids.map fun id => { id }, users } }

/--
The service in a simulated world. Nobody is known to its directory.
-/
def ofService (service : Service) (clock : Instant) (monitors : List Uuid) : Session :=
  let settings : Settings := {
    engine := Service.engine
    lockTimeout := service.config.lockTimeout
    leaseTtl := service.config.leaseTtl
    annotationTimeout := service.config.annotationTimeout }
  match service.config.backend with
  | .memory => inMemory settings clock {}
  | .postgres => inDatabase settings clock (some monitors) (some {})

/--
Answer requests one after another. A request that is not answered at all counts as one that fails.
-/
def respond (s : Session) : List Http.Request → List Http.Response × Session
  | [] => ([], s)
  | request :: requests =>
    let (answer, s) := s.play (.http request)
    let response := match answer with
      | .ok (.response response) => response
      | _ => .plain 500
    let (responses, s) := s.respond requests
    (response :: responses, s)

def countOf (s : Session) (monitor : Uuid) : Nat :=
  (s.world.state.intervals.filter (·.monitorId = monitor)).length

/--
Listen on an address and let clients send requests to it. A simulated world has no network that would carry
them: listening succeeds, and the first request panics.
-/
def serve (s : Session) (address : String) (requests : List Http.Request) :
    Except Http.BindFailure (Option State) := do
  let _ ← Http.BindAddress.listen address
  return if requests.isEmpty then some s.world.state else none

end Session

end StatusTimeline.Simulation
