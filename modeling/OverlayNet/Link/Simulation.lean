import OverlayNet.Link.DeviceTable

set_option autoImplicit false

/-! # A table of devices with planned failures

Requests to the table are recorded. Before a request is carried out a planned failure may refuse it,
or it may be swallowed: then success is reported and nothing is done. -/

namespace OverlayNet

/-- A failure that is planned for the requests of one verb. -/
structure PlannedFailure where
  verb : String
  /-- How many requests are let through before. -/
  after : Nat
  /-- Whether only one request fails. -/
  once : Bool
  reason : String
deriving DecidableEq, Repr

namespace PlannedFailure

/-- What a plan makes of a request: the reason of the failure, if it fails, and the plan behind it.
The failures are asked in order; one that still lets requests through counts this one. -/
def apply (verb : String) : List PlannedFailure → Option String × List PlannedFailure
  | [] => (none, [])
  | failure :: rest =>
      if failure.verb ≠ verb then
        let (reason, later) := apply verb rest
        (reason, failure :: later)
      else if 0 < failure.after then
        let (reason, later) := apply verb rest
        (reason, { failure with after := failure.after - 1 } :: later)
      else (some failure.reason, if failure.once then rest else failure :: rest)

end PlannedFailure

/-- A table of devices with the failures planned for it, the verbs whose requests are swallowed, and
the requests made so far. -/
structure Simulation where
  table : DeviceTable
  failures : List PlannedFailure
  swallowed : List String
  /-- The requests, the oldest first. -/
  requests : List LinkRequest
deriving Repr

namespace Simulation

/-- A host with one physical device, or with none. -/
def withUplink (uplink : Option String) : Simulation where
  table :=
    match uplink with
    | some name => DeviceTable.empty.add name .physical
    | none => .empty
  failures := []
  swallowed := []
  requests := []

def answer : LinkChannel Simulation := fun request simulation =>
  let (refusal, failures) := PlannedFailure.apply request.verb simulation.failures
  let recorded :=
    { simulation with failures, requests := simulation.requests ++ [request] }
  match refusal with
  | some reason => (.error (.rejected ("Injected failure in " ++ request.verb) reason), recorded)
  | none =>
      if request.verb ∈ simulation.swallowed then (.ok request.emptyAnswer, recorded)
      else
        let (outcome, table) := DeviceTable.answer request simulation.table
        (outcome, { recorded with table })

def heal (simulation : Simulation) : Simulation :=
  { simulation with failures := [], swallowed := [] }

/-- The simulation with the host's device of a name changed, if there is one. -/
def adjust (simulation : Simulation) (name : String) (change : Device → Device) : Simulation :=
  match simulation.table.find? none name with
  | none => simulation
  | some device => { simulation with table := simulation.table.adjust device.index change }

/-- The simulation without the host's device of a name, if there is one. The device to which it is
joined stays. -/
def remove (simulation : Simulation) (name : String) : Simulation :=
  match simulation.table.find? none name with
  | none => simulation
  | some device => { simulation with table := simulation.table.drop [device.index] }

end Simulation

end OverlayNet
