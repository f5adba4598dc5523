import SiteVpn.Connection.Error

/-!
# Events, warnings and log records

What happens while connections are read and attached is a list of events. A
warning is an event that callers also look at; every event has a log record. The
records of a run also carry the gateway they are about, and those that come from
a connection's synthesis name the unit that writes them.
-/

namespace SiteVpn

/-- The kind of a warning: input that could not be represented as it was meant. -/
inductive WarningKind where
  | redFlag
deriving DecidableEq, Repr, Inhabited

def WarningKind.text : WarningKind → String
  | .redFlag => "red-flag"

/-- A problem that does not stop the work. -/
structure Warning where
  kind : WarningKind
  message : String
deriving DecidableEq, Repr, Inhabited

/-- A warning about input that could not be represented. -/
def Warning.redFlag (message : String) : Warning := ⟨.redFlag, message⟩

def Warning.text (w : Warning) : String := "[" ++ w.kind.text ++ "] " ++ w.message

/-- The severity of a log record. -/
inductive Severity where
  | error
  | warning
  | info
  | debug
deriving DecidableEq, Repr, Inhabited

def Severity.text : Severity → String
  | .error => "ERROR"
  | .warning => "WARNING"
  | .info => "INFO"
  | .debug => "DEBUG"

/-- A log record. -/
structure LogRecord where
  severity : Severity
  message : String
  pairs : List (String × String)
deriving DecidableEq, Repr, Inhabited

/-- Something that happened. -/
inductive Event where
  | warned (warning : Warning)
  /-- A tunnel was expanded to so many proposals and policies. -/
  | expanded (tunnel : String) (phase1Proposals phase2Proposals phase2Policies : Nat)
  /-- A record of a document is not a connection. -/
  | refused (index : Nat) (cause : ConnectionError)
  | applied (connection : String) (tunnels : Nat) (isBgp : Bool)
  /-- A connection names an algorithm that is not known. -/
  | failed (connection : String) (cause : UnknownToken)
deriving DecidableEq, Repr

namespace Event

/-- The warning of an event that is one. -/
def warning? : Event → Option Warning
  | .warned w => some w
  | _ => none

/-- The pairs of the records that a synthesis writes. -/
def unit : List (String × String) := [("unit", "warnings")]

/-- The text of a truth value. -/
def truthText (b : Bool) : String := if b then "true" else "false"

/-- The log record of an event among records with common pairs. -/
def record (accounts : Accounts) (common : List (String × String)) : Event → LogRecord
  | .warned w => ⟨.warning, w.message, common ++ unit ++ [("kind", w.kind.text)]⟩
  | .expanded tunnel phase1 phase2 policies =>
    ⟨.debug, "synthesized tunnel", common ++ unit ++
      [("tunnel", tunnel), ("ike_phase1_proposals", Decimal.write phase1),
        ("ipsec_phase2_proposals", Decimal.write phase2),
        ("ipsec_phase2_policies", Decimal.write policies)]⟩
  | .refused index cause =>
    ⟨.error, "failed to parse connection",
      common ++ [("index", Decimal.write index), ("err", cause.message accounts)]⟩
  | .applied connection tunnels isBgp =>
    ⟨.info, "applied connection", common ++
      [("conn", connection), ("tunnels", Decimal.write tunnels), ("bgp", truthText isBgp)]⟩
  | .failed connection cause =>
    ⟨.error, "failed to synthesize connection",
      common ++ [("conn", connection), ("err", cause.message)]⟩

end Event

/-- The warnings among some events, in order. -/
def warningsOf (events : List Event) : List Warning := events.filterMap Event.warning?

/-- A result together with what happened on the way to it. -/
structure Traced (α : Type) where
  value : α
  events : List Event

end SiteVpn
