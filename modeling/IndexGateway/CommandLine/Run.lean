import IndexGateway.Application
import IndexGateway.CommandLine.Invocation
import IndexGateway.Json.Parser
import IndexGateway.LogFilter.Basic
import IndexGateway.Settings.Document

/-!
# Doing what is asked

The settings are loaded first: the defaults or those of a file, with the log filter
of the command line in the place of their own. Nothing is logged before the filter has
been taken apart. Then the settings are only checked, or the command is carried out with
an application made for it. A call that gets a fault shows the fault and counts as a
failure.
-/

namespace IndexGateway.CommandLine

/-- Why nothing is shown. -/
inductive Failure where
  /-- The file of the settings cannot be read, or holds no settings. -/
  | config (path : String)
  /-- The settings cannot work. -/
  | settings (flaw : Settings.Flaw)
  /-- The log filter cannot be taken apart. -/
  | filter (text : String)
  /-- The application cannot be put together. -/
  | build (e : Application.BuildError)
  /-- The positional arguments are not a list. -/
  | positional (text : String)
  /-- The named arguments are not an object. -/
  | keyword (text : String)
  deriving DecidableEq, Repr

/-- The text for a failure. -/
def Failure.message : Failure → String
  | config path => "failed to load config from " ++ path
  | settings flaw => flaw.message
  | filter text => LogFilter.invalidMessage text
  | build e => e.message
  | positional text => "--params must be a JSON array, got " ++ text
  | keyword text => "--kwargs must be a JSON object, got " ++ text

/-- What is shown. -/
structure Output where
  /-- The text. -/
  text : String
  /-- Whether the program did what it was asked for. -/
  isSuccess : Bool := true
  deriving DecidableEq, Repr

/-- The settings of a file, or the defaults if no file is named. -/
def fileSettings (files : Files) : Option String → Except Failure Settings
  | none => .ok {}
  | some path =>
    match (files path).bind Settings.ofText? with
    | some s => .ok s
    | none => .error (.config path)

/-- The settings for an invocation. -/
def loadSettings (files : Files) (i : Invocation) : Except Failure Settings := do
  let s ← fileSettings files i.config
  let s : Settings := match i.logLevel with
    | none => s
    | some level => { s with logging := { s.logging with level } }
  match s.flaw? with
  | some flaw => .error (.settings flaw)
  | none => return s

/-- The request for a call. -/
def CallOptions.request (o : CallOptions) : Except Failure Request :=
  match (Json.parse? o.positional).bind Json.items? with
  | none => .error (.positional o.positional)
  | some positional =>
    match (Json.parse? o.keyword).bind Json.fields? with
    | none => .error (.keyword o.keyword)
    | some keyword => .ok {
        endpoint := o.endpoint, method := o.method, params := { positional, keyword }
        caller := o.caller, verb := o.verb }

/-- What is logged about a call that gets a fault. -/
def faultEntry (method : String) (fault : Fault) : Log.Entry :=
  ⟨.debug, "call faulted", [("code", .ofInt64 fault.code), ("method", .str method)]⟩

/-- What is shown of a call's result; nothing if the call is broken off. -/
def outputOf : Except Ending Response → Output
  | .ok response => { text := response.value.pretty ++ "\n" }
  | .error (.fault fault) => { text := fault.body.pretty ++ "\n", isSuccess := false }
  | .error (.breakdown _) => { text := "", isSuccess := false }

/-- What is logged about a call's result. -/
def resultLog (method : String) : Except Ending Response → List Log.Entry
  | .error (.fault fault) => [faultEntry method fault]
  | _ => []

/-- Makes a call to an application. -/
def makeCall (app : Application) (now : Moment) (o : CallOptions) :
    Except Failure Output × List Log.Entry :=
  match o.request with
  | .error e => (.error e, [])
  | .ok request =>
    let answer := (app.call now request).1
    (.ok (outputOf answer.result), answer.log ++ resultLog o.method answer.result)

/-- Carries out a command. -/
def execute (files : Files) (hosts : Hosts) (settings : Settings) (now : Moment)
    (command : Command) : Except Failure Output × List Log.Entry :=
  let index := match command with
    | .routes => none
    | .call o => o.index
  match Application.build files hosts settings index true now with
  | (.error e, log) => (.error (.build e), log)
  | (.ok app, log) =>
    match command with
    | .routes => (.ok { text := app.renderRoutes }, log)
    | .call o =>
      let (output, more) := makeCall app now o
      (output, log ++ more)

/-- What is shown when the settings are only checked. -/
def validOutput : Output := { text := "Configuration is valid\n" }

/-- What is logged about the file of the settings, if one is named. -/
def configLog (i : Invocation) : List Log.Entry :=
  i.config.toList.map fun path => ⟨.info, "Loaded configuration", [("config_path", .str path)]⟩

/-- Does what is asked with settings that are loaded. -/
def runWith (files : Files) (hosts : Hosts) (settings : Settings) (now : Moment) (i : Invocation) :
    Except Failure Output × List Log.Entry :=
  if i.isCheck then (.ok validOutput, [])
  else execute files hosts settings now (i.command.getD .routes)

/-- What is logged before a command is carried out. -/
def startLog (settings : Settings) (i : Invocation) : List Log.Entry :=
  configLog i ++ if i.isCheck then [] else settings.summary

/-- Does what is asked. The log is what there is for the filter to let through. -/
def run (files : Files) (hosts : Hosts) (now : Moment) (i : Invocation) :
    Except Failure Output × List Log.Entry :=
  match loadSettings files i with
  | .error e => (.error e, [])
  | .ok settings =>
    if (LogFilter.ofText? settings.logging.level).isNone then
      (.error (.filter settings.logging.level), [])
    else
      let (output, log) := runWith files hosts settings now i
      (output, startLog settings i ++ log)

end IndexGateway.CommandLine
