import SiteVpn.Text.Blank

/-!
# Arguments of the command line

Arguments are read from left to right, and what ends the reading first decides:
a request for help or for the version, or something that has no meaning where it
stands. Flags of one letter can be written together, the value of an option stands
in the same argument or is the next one, and after `--` there are no options. An
option that takes a value is given at most once.
-/

namespace SiteVpn.CommandLine

inductive OutputFormat where
  | table
  | json
deriving DecidableEq, Repr, Inhabited

/-- What the program is asked to do. -/
inductive Command where
  /-- List the connections of a file. -/
  | list (connections : String)
  /-- Attach the connections of a file to the gateway of another. -/
  | synth (gateway connections : String) (format : OutputFormat)
deriving DecidableEq, Repr

inductive Request where
  /-- Run a command, with so much more to log. -/
  | run (verbosity : Nat) (command : Command)
  | version
  | help
deriving DecidableEq, Repr

/-- The commands by name. -/
inductive CommandName where
  | list
  | synth
deriving DecidableEq, Repr

/-- What is known of a command's arguments. -/
structure Given where
  verbosity : Nat
  gateway : Option String
  format : Option OutputFormat
  connections : Option String
deriving DecidableEq, Repr

/-- An option that takes a value. -/
inductive ValueOption where
  | gateway
  | format
deriving DecidableEq, Repr

namespace Given

/-- Before any argument of the command. -/
def start (verbosity : Nat) : Given := ⟨verbosity, none, none, none⟩

/-- Logs more. -/
def louder (g : Given) : Given := { g with verbosity := g.verbosity + 1 }

/-- Takes the one file of connections, whose name is not empty. -/
def addFile (g : Given) (file : String) : Option Given :=
  if file = "" ∨ g.connections.isSome then none else some { g with connections := file }

/-- Takes the value of an option. -/
def setOption (g : Given) (value : String) : ValueOption → Option Given
  | .gateway =>
    if value = "" ∨ g.gateway.isSome then none else some { g with gateway := value }
  | .format =>
    if g.format.isSome then none
    else if value = "table" then some { g with format := some .table }
    else if value = "json" then some { g with format := some .json }
    else none

/-- The request of all arguments of a command. -/
def finish (g : Given) : CommandName → Option Request
  | .list => g.connections.map fun file => .run g.verbosity (.list file)
  | .synth => do
    return .run g.verbosity (.synth (← g.gateway) (← g.connections) (g.format.getD .table))

end Given

/-- What an argument is by its form. -/
inductive Argument where
  /-- The mark after which there are no options. -/
  | separator
  /-- A name after two hyphens, with the value after `=` if there is one. -/
  | long (name : String) (value : Option String)
  /-- Letters after one hyphen. -/
  | short (letters : List Char)
  | plain (text : String)
deriving DecidableEq, Repr

/-- The form of an argument. A hyphen alone is plain. -/
def Argument.of (text : String) : Argument :=
  match text.toList with
  | ['-', '-'] => .separator
  | '-' :: '-' :: cs =>
    match Text.splitAtFirst '=' cs with
    | none => .long (String.ofList cs) none
    | some (name, value) => .long (String.ofList name) (some (String.ofList value))
  | '-' :: c :: cs => .short (c :: cs)
  | _ => .plain text

/-- What a part of an argument does. -/
inductive Effect where
  | go (given : Given)
  /-- The option's value is still due. -/
  | due (given : Given) (option : ValueOption)
  | request (request : Request)

/-- The effect of giving a value to an option. -/
def Effect.ofValue (g : Given) (value : String) (option : ValueOption) : Option Effect :=
  (g.setOption value option).map .go

/-- The effect of letters written together, for a command. -/
def shortEffect (command : CommandName) (g : Given) : List Char → Option Effect
  | [] => some (.go g)
  | 'v' :: cs => shortEffect command g.louder cs
  | 'h' :: _ => some (.request .help)
  | 'g' :: cs =>
    if command = .synth then
      match cs with
      | [] => some (.due g .gateway)
      | '=' :: value => Effect.ofValue g (String.ofList value) .gateway
      | value => Effect.ofValue g (String.ofList value) .gateway
    else none
  | _ => none

/-- The effect of an option with a name, for a command. -/
def longEffect (command : CommandName) (g : Given) (name : String) (value : Option String) :
    Option Effect :=
  let option? : Option ValueOption :=
    if command = .synth ∧ name = "gateway" then some .gateway
    else if command = .synth ∧ name = "format" then some .format
    else none
  match option?, value with
  | some option, some value => Effect.ofValue g value option
  | some option, none => some (.due g option)
  | none, some _ => none
  | none, none =>
    if name = "verbose" then some (.go g.louder)
    else if name = "help" then some (.request .help)
    else none

/-- The effect of an argument, for a command. -/
def argumentEffect (command : CommandName) (g : Given) : Argument → Option Effect
  | .separator => some (.go g)
  | .long name value => longEffect command g name value
  | .short letters => shortEffect command g letters
  | .plain file => (g.addFile file).map .go

/-- The request of the arguments after a command. -/
def readCommand (command : CommandName) (g : Given) : List String → Option Request
  | [] => g.finish command
  | text :: rest =>
    if Argument.of text = .separator then
      (rest.foldlM Given.addFile g).bind (·.finish command)
    else
      match argumentEffect command g (.of text) with
      | none => none
      | some (.request r) => some r
      | some (.go g) => readCommand command g rest
      | some (.due g option) =>
        match rest with
        | [] => none
        | value :: rest =>
          if Argument.of value = .plain value then
            match g.setOption value option with
            | none => none
            | some g => readCommand command g rest
          else none

/-- The effect of letters written together, before a command. -/
def rootShort (verbosity : Nat) : List Char → Option (Nat ⊕ Request)
  | [] => some (.inl verbosity)
  | 'v' :: cs => rootShort (verbosity + 1) cs
  | 'V' :: _ => some (.inr .version)
  | 'h' :: _ => some (.inr .help)
  | _ => none

/-- The effect of an option with a name, before a command. -/
def rootLong (verbosity : Nat) (name : String) : Option (Nat ⊕ Request) :=
  if name = "verbose" then some (.inl (verbosity + 1))
  else if name = "version" then some (.inr .version)
  else if name = "help" then some (.inr .help)
  else none

/-- The request of the arguments after `help`. -/
def readHelp : List String → Option Request
  | [] => some .help
  | [topic] => if topic ∈ ["list", "synth", "help"] then some .help else none
  | _ => none

/-- The request of the arguments from the start on. -/
def readFrom (verbosity : Nat) : List String → Option Request
  | [] => none
  | text :: rest =>
    let effect := match Argument.of text with
      | .long name none => rootLong verbosity name
      | .short letters => rootShort verbosity letters
      | _ => none
    match effect with
    | some (.inl verbosity) => readFrom verbosity rest
    | some (.inr r) => some r
    | none =>
      if text = "list" then readCommand .list (.start verbosity) rest
      else if text = "synth" then readCommand .synth (.start verbosity) rest
      else if text = "help" then readHelp rest
      else none

/-- The request of some arguments, if they have a meaning. -/
def Request.ofArguments (arguments : List String) : Option Request :=
  readFrom 0 arguments

end SiteVpn.CommandLine
