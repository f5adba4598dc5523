import SiteVpn.Gateway.Basic

/-!
# Runs

A run attaches the connections of a document to a gateway one after the other. A
record that is no connection, a connection with an unknown token and one whose
VRFs are missing leave the device as it is, so every record has an outcome of its
own. A run as a whole fails only on a text that is no document.
-/

namespace SiteVpn

/-- What became of a record. -/
inductive Outcome where
  | applied
  /-- The gateway lacks a VRF of the connection. -/
  | skipped
  | failed (cause : ConnectionError)
deriving DecidableEq, Repr

/-- What a run has done. -/
structure Report where
  configuration : Configuration
  /-- The outcomes in the order of the records, each under the connection's name or,
  without one, the position of its record. -/
  outcomes : List (String × Outcome)
  events : List Event

namespace Report

/-- The report before any record. -/
def start (d : Configuration) : Report := ⟨d, [], []⟩

/-- The name of a record that is no connection. -/
def positionLabel (index : Nat) : String := "#" ++ Decimal.write index

/-- Adds a record that is no connection. -/
def refuse (r : Report) (index : Nat) (e : ConnectionError) : Report :=
  { r with
    outcomes := r.outcomes ++ [(positionLabel index, .failed e)]
    events := r.events ++ [.refused index e] }

/-- Attaches a connection. -/
def attach (r : Report) (p : Placement) (c : Connection) : Report :=
  let attached := c.attach p r.configuration
  match attached.value with
  | .ok (some d) =>
    { configuration := d
      outcomes := r.outcomes ++ [(c.id, .applied)]
      events := r.events ++ attached.events ++ [.applied c.id c.tunnels.length c.isBgp] }
  | .ok none =>
    { r with
      outcomes := r.outcomes ++ [(c.id, .skipped)]
      events := r.events ++ attached.events }
  | .error e =>
    { r with
      outcomes := r.outcomes ++ [(c.id, .failed (.unknownToken e))]
      events := r.events ++ attached.events ++ [.failed c.id e] }

/-- Adds a record by its position. -/
def add (p : Placement) (r : Report) (index : Nat) :
    Except ConnectionError Connection → Report
  | .error e => r.refuse index e
  | .ok c => r.attach p c

/-- Adds the records from a position on. -/
def addFrom (p : Placement) (r : Report) (index : Nat) :
    List (Except ConnectionError Connection) → Report
  | [] => r
  | slot :: slots => addFrom p (r.add p index slot) (index + 1) slots

/-- The number of connections that were attached. -/
def applied (r : Report) : Nat := r.outcomes.countP fun o => o.2 == .applied

/-- The warnings in the order in which they were given. -/
def warnings (r : Report) : List Warning := warningsOf r.events

/-- The log records of a run, which name the gateway. -/
def logRecords (accounts : Accounts) (r : Report) : List LogRecord :=
  r.events.map (·.record accounts [("gateway", r.configuration.hostname)])

end Report

namespace Gateway

/-- The report on the records of a document. -/
def runSlots (g : Gateway) (slots : List (Except ConnectionError Connection)) : Report :=
  (Report.start g.configuration).addFrom g.placement 0 slots

/-- Attaches the connections of a text, if it is a document. -/
def run (g : Gateway) (fallback : Salt) (text : String) : Option Report :=
  (Connection.ofText? (g.saltOr fallback) text).map g.runSlots

end Gateway

end SiteVpn
