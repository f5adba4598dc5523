import SiteVpn.CommandLine.Execution

/-!
# The program

Reads the files that the arguments name, and writes the response to them. Log
records go with the notices, the more of them the more often the verbose flag was
given.
-/

namespace SiteVpn.CommandLine

/-- The files that a request needs. -/
def Request.files : Request → List String
  | .run _ (.list connections) => [connections]
  | .run _ (.synth gateway connections _) => [gateway, connections]
  | _ => []

/-- Whether a record is logged. -/
def isLogged (verbosity : Nat) (r : LogRecord) : Bool :=
  match r.severity with
  | .error => true
  | .warning => true
  | .info => 1 ≤ verbosity
  | .debug => 2 ≤ verbosity

/-- The line of a log record. -/
def logLine (r : LogRecord) : String :=
  let pairs := r.pairs.map fun p => ", " ++ p.1 ++ ": " ++ p.2
  r.severity.text ++ " " ++ r.message ++ String.join pairs

/-- The number of times that some arguments ask to log more. -/
def verbosityOf (arguments : List String) : Nat :=
  match Request.ofArguments arguments with
  | some (.run verbosity _) => verbosity
  | _ => 0

/-- The failure that a number of the system stands for, which may be negated. -/
def ReadFailure.ofSystem (number : UInt32) (account : String) : ReadFailure :=
  match (min number (-number)).toNat with
  | 2 => .missing
  | 13 => .denied
  | 20 => .notDirectory
  | 21 => .directory
  | 36 => .nameTooLong
  | _ => .other account

/-- Reads a file. -/
def loadFile (file : String) : IO (Except ReadFailure String) := do
  try
    let bytes ← IO.FS.readBinFile file
    match String.fromUTF8? bytes with
    | some text => return .ok text
    | none => return .error .notText
  catch e =>
    match e with
    | .noFileOrDirectory .. => return .error .missing
    | .permissionDenied _ number account => return .error (.ofSystem number account)
    | .inappropriateType _ number account => return .error (.ofSystem number account)
    | .invalidArgument _ number account => return .error (.ofSystem number account)
    | e => return .error (.other (toString e))

/-- The files of some names. -/
def loadFiles (names : List String) : IO Files := do
  let loaded ← names.mapM fun name => return (name, ← loadFile name)
  return fun name => (loaded.lookup name).getD (.error .missing)

/-- The number of bytes of a random salt. -/
def saltBytes : Nat := 16

end SiteVpn.CommandLine

open SiteVpn SiteVpn.CommandLine in
/-- Responds to the arguments, and ends with the status of the response. -/
def main (arguments : List String) : IO UInt32 := do
  let request := Request.ofArguments arguments
  let salt := Salt.ofBytes (← IO.getRandomBytes saltBytes.toUSize).data.toList
  let files ← loadFiles ((request.map (·.files)).getD [])
  let response := Response.ofArguments .silent salt files arguments
  IO.print response.output
  IO.eprint response.notices
  for r in response.log do
    if isLogged (verbosityOf arguments) r then IO.eprintln (logLine r)
  return response.status.toUInt32
