import ClusterArchive.Command.Usage

/-!
# Invocations

What the program can be asked to do: to take in events, to serve logs, or to check policies. Logging
and metrics may be set in front of the command or among its options; where both are given the latter
count.
-/

namespace ClusterArchive.Command

/-- Settings of the sink. -/
structure SinkSettings where
  policies : Option String
  database : Option String
  listen : Http.Address
  workers : Nat
  queueCapacity : Nat
  persistTimeout : Nat
  deleteTimeout : Nat
  reloadInterval : Nat
deriving DecidableEq, Repr

/-- Settings of the log service. -/
structure LogSettings where
  listen : Http.Address
  headersDirectory : Option String
  timeout : Nat
  insecure : Bool
deriving DecidableEq, Repr

/-- What a command asks for. -/
inductive Action
  | sink (settings : SinkSettings)
  | logs (settings : LogSettings)
  | checkPolicies (path : Option String)
deriving DecidableEq, Repr

/-- An action with what is set for every command. -/
structure Invocation where
  log : String
  metrics : Option Http.Address
  action : Action
deriving DecidableEq, Repr

/-! ### Options -/

/-- The options that every command has. -/
def commonOptions : List Declared :=
  [⟨"log", .text, "KARCHIVE_LOG"⟩, ⟨"metrics-addr", .address, "KARCHIVE_METRICS_ADDR"⟩]

/-- The option for the policy directory. -/
def policiesOption : Declared := ⟨"policies", .path, "MOUNT_PATH"⟩

/-- The option for the address to listen on. -/
def listenOption : Declared := ⟨"listen", .address, "KARCHIVE_LISTEN"⟩

/-- The options of the sink. -/
def sinkOptions : List Declared :=
  [policiesOption, ⟨"db", .text, "KARCHIVE_DB_PATH"⟩, listenOption,
    ⟨"workers", .number, "KARCHIVE_WORKERS"⟩, ⟨"queue-cap", .number, "KARCHIVE_QUEUE_CAP"⟩,
    ⟨"persist-timeout-secs", .number, "KARCHIVE_PERSIST_TIMEOUT_SECS"⟩,
    ⟨"delete-timeout-secs", .number, "KARCHIVE_DELETE_TIMEOUT_SECS"⟩,
    ⟨"reload-secs", .number, "KARCHIVE_RELOAD_SECS"⟩]

/-- The options of the log service. -/
def logOptions : List Declared :=
  [listenOption, ⟨"headers-dir", .path, "LOGGING_DIR"⟩,
    ⟨"timeout-secs", .number, "KARCHIVE_LOGS_TIMEOUT_SECS"⟩,
    ⟨"insecure-skip-verify", .flag, "KARCHIVE_LOGS_INSECURE_SKIP_VERIFY"⟩]

/-- The names of the commands. -/
def commandNames : List String := ["sink", "logs", "check-policies"]

/-- The options of a command. -/
def optionsOf (command : String) : List Declared :=
  match command with
  | "sink" => sinkOptions
  | "logs" => logOptions
  | _ => [policiesOption]

/-- The level above the commands. -/
def topLevel : Level := ⟨commonOptions, commandNames ++ ["help"], true⟩

/-- The level of a command. -/
def levelOf (command : String) : Level := ⟨optionsOf command ++ commonOptions, [], false⟩

/-! ### Values -/

namespace Settings

/-- The text of an option. -/
def text? (s : Settings) (name : String) : Option String :=
  match s.get? name with
  | some (.text t) => some t
  | _ => none

/-- The number of an option, with the one that holds if none is given. -/
def number (s : Settings) (name : String) (default : Nat) : Nat :=
  match s.get? name with
  | some (.number n) => n
  | _ => default

/-- The address of an option. -/
def address? (s : Settings) (name : String) : Option Http.Address :=
  match s.get? name with
  | some (.address a) => some a
  | _ => none

/-- Whether a flag is set. -/
def isSet (s : Settings) (name : String) : Bool :=
  match s.get? name with
  | some (.flag b) => b
  | _ => false

end Settings

/-- The address to listen on if none is given. -/
def defaultListen : Http.Address := .v4 [0, 0, 0, 0] 8080

/-- The action of the command with the given name under its settings. -/
def Action.of (name : String) (s : Settings) : Action :=
  match name with
  | "sink" =>
    .sink
      { policies := s.text? "policies"
        database := s.text? "db"
        listen := (s.address? "listen").getD defaultListen
        workers := s.number "workers" 4
        queueCapacity := s.number "queue-cap" 1024
        persistTimeout := s.number "persist-timeout-secs" 5
        deleteTimeout := s.number "delete-timeout-secs" 5
        reloadInterval := s.number "reload-secs" 10 }
  | "logs" =>
    .logs
      { listen := (s.address? "listen").getD defaultListen
        headersDirectory := s.text? "headers-dir"
        timeout := s.number "timeout-secs" 60
        insecure := s.isSet "insecure-skip-verify" }
  | _ => .checkPolicies (s.text? "policies")

/-! ### Reading -/

/-- The answer to a request for help on commands, which have to be there. -/
def helpOn : List String → UsageError
  | [] => .displayHelp
  | [name] => if topLevel.commands.contains name then .displayHelp else .invalidSubcommand
  | _ => .invalidSubcommand

/-- The settings that the line makes on the level of a command, and those with the environment's. -/
def readCommand (env : Environment) (name : String) (arguments : List String) :
    Except UsageError (Settings × Settings) := do
  let level := levelOf name
  let found ← level.read .initial arguments
  let made := (← found.progress.settle).settings
  return (made, ← addVariables env level.options made)

/-- The invocation that a command line and the environment make up. -/
def Invocation.read (arguments : List String) (env : Environment) :
    Except UsageError Invocation := do
  let found ← topLevel.read .initial arguments
  match found.command with
  | none =>
    let made ← addVariables env topLevel.options (← found.progress.settle).settings
    .error (if made.isEmpty then .displayHelpOnMissing else .missingSubcommand)
  | some ("help", rest) => .error (helpOn rest)
  | some (name, rest) =>
    let (made, settings) ← readCommand env name rest
    let above := (← found.progress.settle).settings
    let _ ← addVariables env topLevel.options above
    let common := made ++ above ++ settings
    return ⟨(common.text? "log").getD "info", common.address? "metrics-addr", .of name settings⟩

end ClusterArchive.Command
