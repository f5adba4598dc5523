import SiteVpn.CommandLine.Arguments
import SiteVpn.CommandLine.Files
import SiteVpn.Gateway.Form
import SiteVpn.Gateway.Printer

/-!
# What the program does

A command reads its files, the gateway's before that of the connections, and the
first problem ends it. A response is what the program writes and the status it
ends with: 0 for success, 1 for a command that failed, 2 for arguments without
meaning.
-/

namespace SiteVpn.CommandLine

/-- Why a command fails. -/
inductive Failure where
  | unreadable (file : String) (cause : ReadFailure)
  | badGateway (text : String)
  /-- The file of a listing is no document. -/
  | unlistable (file : String)
  /-- The file to attach is no document. -/
  | unattachable (file : String)
deriving DecidableEq, Repr

def Failure.message (accounts : Accounts) : Failure → String
  | .unreadable file cause => "failed to read " ++ file ++ ": " ++ cause.message
  | .badGateway text => "bad gateway config: " ++ accounts.gateway text
  | .unlistable file => "failed to parse " ++ file
  | .unattachable file => "failed to process " ++ file

/-- What the program writes and the status it ends with. -/
structure Response where
  status : Nat
  output : String
  /-- What is written beside the output. -/
  notices : String
  log : List LogRecord
deriving DecidableEq, Repr

/-- The text of a file. -/
def readFile (files : Files) (file : String) : Except Failure String :=
  match files file with
  | .ok text => .ok text
  | .error cause => .error (.unreadable file cause)

/-- The connections among some records. -/
def connectionsOf (slots : List (Except ConnectionError Connection)) : List Connection :=
  slots.filterMap Except.toOption

section Commands

variable (accounts : Accounts)

/-- The notice of a record that is no connection. -/
def skipNotice : Except ConnectionError Connection → String
  | .error e => "skipping connection: " ++ e.message accounts ++ "\n"
  | .ok _ => ""

/-- Lists the connections of a file. -/
def runList (salt : Salt) (files : Files) (connections : String) :
    Except Failure Response := do
  let text ← readFile files connections
  match Connection.ofText? salt text with
  | none => throw (.unlistable connections)
  | some slots =>
    return ⟨0, printConnections (connectionsOf slots),
      String.join (slots.map (skipNotice accounts)), []⟩

/-- The gateway of a file. -/
def readGateway (files : Files) (file : String) : Except Failure Gateway := do
  let text ← readFile files file
  match Gateway.ofText? text with
  | none => throw (.badGateway text)
  | some g => return g

/-- Attaches the connections of a file to the gateway of another. -/
def runSynth (salt : Salt) (files : Files) (gateway connections : String)
    (format : OutputFormat) : Except Failure Response := do
  let g ← readGateway files gateway
  let text ← readFile files connections
  match g.run salt text with
  | none => throw (.unattachable connections)
  | some report =>
    let output := match format with
      | .table => report.printTables accounts
      | .json => report.printJson accounts
    return ⟨0, output, "", report.logRecords accounts⟩

end Commands

namespace Response

variable (accounts : Accounts)

/-- The response to a failure. -/
def ofFailure (f : Failure) : Response := ⟨1, "", "Error: " ++ f.message accounts ++ "\n", []⟩

/-- The name and the version of the program. -/
def versionText : String := "vpnadm 0.1.0\n"

/-- How the program is used. -/
def usageText : String :=
  "Usage: vpnadm [-v] list CONNECTIONS\n" ++
    "       vpnadm [-v] synth --gateway GATEWAY [--format table|json] CONNECTIONS\n"

/-- The response to a command. -/
def ofCommand (salt : Salt) (files : Files) (command : Command) : Response :=
  let result := match command with
    | .list connections => runList accounts salt files connections
    | .synth gateway connections format =>
      runSynth accounts salt files gateway connections format
  match result with
  | .ok r => r
  | .error f => ofFailure accounts f

/-- The response to some arguments. -/
def ofArguments (salt : Salt) (files : Files) (arguments : List String) : Response :=
  match Request.ofArguments arguments with
  | none => ⟨2, "", usageText, []⟩
  | some .version => ⟨0, versionText, "", []⟩
  | some .help => ⟨0, usageText, "", []⟩
  | some (.run _ command) => ofCommand accounts salt files command

end Response

end SiteVpn.CommandLine
