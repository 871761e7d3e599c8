import IndexGateway.CommandLine.Options

/-!
# What the program is asked to do

The program lists its routes, or makes one call and shows the result. The options
that concern all commands stand before the command, and those of a call behind it.
-/

namespace IndexGateway.CommandLine

/-- A call to make. -/
structure CallOptions where
  /-- Where the call arrives. -/
  endpoint : String := "RPC2"
  /-- The method. -/
  method : String
  /-- The positional arguments, as JSON text. -/
  positional : String := "[]"
  /-- The named arguments, as JSON text. -/
  keyword : String := "\x7b\x7d"
  /-- Who calls. -/
  caller : String := "127.0.0.1"
  /-- The verb of the transport. -/
  verb : String := "POST"
  /-- The file with the package index. -/
  index : Option String := none
  deriving DecidableEq, Repr

/-- What to do. -/
inductive Command where
  /-- List the endpoints with their methods. -/
  | routes
  /-- Make a call. -/
  | call (options : CallOptions)
  deriving DecidableEq, Repr

/-- What the program is asked to do. -/
structure Invocation where
  /-- The file with the settings. -/
  config : Option String := none
  /-- The log filter, in place of that of the settings. -/
  logLevel : Option String := none
  /-- Whether to look at the settings only. -/
  isCheck : Bool := false
  /-- What to do, if it is said. -/
  command : Option Command := none
  deriving DecidableEq, Repr

/-- The files that an invocation names. -/
def Invocation.paths (i : Invocation) : List String :=
  i.config.toList ++
    match i.command with
    | some (.call o) => o.index.toList
    | _ => []

/-- The option that asks for help. -/
def helpOption : OptionSpec := { word := "help", letter := some 'h', role := .help }

/-- What can be given before a command. -/
def mainGrammar : Grammar :=
  { options := [
      { word := "config", letter := some 'c', role := .path },
      { word := "log-level", letter := some 'l', role := .value },
      { word := "check", role := .switch },
      helpOption,
      { word := "version", letter := some 'V', role := .version }]
    commands := ["routes", "call"] }

/-- What can be given to the command that lists routes. -/
def routesGrammar : Grammar := { options := [helpOption] }

/-- What can be given to the command that makes a call. -/
def callGrammar : Grammar :=
  { options := [
      { word := "endpoint", letter := some 'e', role := .value },
      { word := "method", letter := some 'm', role := .value },
      { word := "params", letter := some 'p', role := .value },
      { word := "kwargs", letter := some 'k', role := .value },
      { word := "caller", role := .value },
      { word := "verb", role := .value },
      { word := "data", letter := some 'd', role := .path },
      helpOption] }

/-- The options of a level that has no commands. -/
def optionsOf (g : Grammar) (words : List String) : Except UsageError (List (String × String)) := do
  let (progress, _) ← g.take false {} words
  progress.finish

/-- The call that options describe. -/
def CallOptions.of (settled : List (String × String)) : Except UsageError CallOptions :=
  match settled.lookup "method" with
  | none => .error .missingOption
  | some method => .ok {
      endpoint := (settled.lookup "endpoint").getD "RPC2"
      method
      positional := (settled.lookup "params").getD "[]"
      keyword := (settled.lookup "kwargs").getD "\x7b\x7d"
      caller := (settled.lookup "caller").getD "127.0.0.1"
      verb := (settled.lookup "verb").getD "POST"
      index := settled.lookup "data" }

/-- The command of a name with the words that follow it. -/
def Command.of (name : String) (words : List String) : Except UsageError Command := do
  if name = "routes" then
    let _ ← optionsOf routesGrammar words
    return .routes
  else if name = "call" then
    return .call (← CallOptions.of (← optionsOf callGrammar words))
  else .error (mainGrammar.helpAbout words)

/-- What words ask for. A command is looked at before the last option in front of it is settled. -/
def Invocation.ofWords (words : List String) : Except UsageError Invocation := do
  let (progress, rest) ← mainGrammar.take false {} words
  let command ← match rest with
    | none => pure none
    | some (name, words) => do pure (some (← Command.of name words))
  let settled ← progress.finish
  return {
    config := settled.lookup "config"
    logLevel := settled.lookup "log-level"
    isCheck := (settled.lookup "check").isSome
    command }

end IndexGateway.CommandLine
