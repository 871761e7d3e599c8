/-!
# Options of a command line

The words behind the name of a program are options, the values of options, and
commands. An option is named by a word behind two dashes or a letter behind one, and
some options take a value: behind an equals sign, right behind the letter, or as the
next word. Several letters may share a dash. A command takes all words that follow.

## The model

An option that is waiting for a value, or has just got one, is *pending*. It is
settled only when the next option is settled, or at the end of the words, and only
then it turns out that it has no value or was given before. This decides which of
several mistakes is reported.
-/

namespace IndexGateway.CommandLine

/-- Why words are not carried out. -/
inductive UsageError where
  /-- Help is asked for. -/
  | helpWanted
  /-- The version is asked for. -/
  | versionWanted
  /-- An option that is needed is missing. -/
  | missingOption
  /-- An option has no value, or one that it does not take. -/
  | badValue
  /-- There is no such command. -/
  | unknownCommand
  /-- There is no such option, or no place for a word. -/
  | unknownWord
  /-- An option is given twice. -/
  | givenTwice
  /-- An option has a value that takes none. -/
  | surplusValue
  deriving DecidableEq, Repr

/-- What an option does. -/
inductive Role where
  /-- It takes a value, which may be empty. -/
  | value
  /-- It takes the path of a file, which is not empty. -/
  | path
  /-- It is there or not. -/
  | switch
  /-- It asks for help. -/
  | help
  /-- It asks for the version. -/
  | version
  deriving DecidableEq, Repr

/-- Whether options of a role take a value. -/
def Role.takesValue : Role → Bool
  | value => true
  | path => true
  | _ => false

/-- An option. -/
structure OptionSpec where
  /-- The word that names it. -/
  word : String
  /-- The letter that names it, if there is one. -/
  letter : Option Char := none
  /-- What it does. -/
  role : Role
  deriving DecidableEq, Repr

/-- What can be given at one level of a command line. -/
structure Grammar where
  /-- The options. -/
  options : List OptionSpec
  /-- The commands. -/
  commands : List String := []
  deriving Repr

/-- The name of the command that shows help about others; it is there if others are. -/
def helpCommand : String := "help"

namespace Grammar

/-- The option of a word. -/
def byWord? (g : Grammar) (word : String) : Option OptionSpec := g.options.find? (·.word = word)

/-- The option of a letter. -/
def byLetter? (g : Grammar) (letter : Char) : Option OptionSpec :=
  g.options.find? (·.letter = some letter)

/-- Whether a word is a command, help included. -/
def isCommand (g : Grammar) (word : String) : Bool :=
  g.commands.contains word || (!g.commands.isEmpty && word = helpCommand)

/-- Why a word is refused that is neither an option nor a value, where the flag says whether it
follows a word that ends the options. -/
def refusal (g : Grammar) (isTrailing : Bool) (word : String) : UsageError :=
  if g.commands.isEmpty || (isTrailing && g.isCommand word) then .unknownWord else .unknownCommand

end Grammar

/-- The options that are given so far. -/
structure Progress where
  /-- The settled options with their values. -/
  settled : List (String × String) := []
  /-- The pending option with its value, if it has got one. -/
  pending : Option (OptionSpec × Option String) := none
  deriving Repr

namespace Progress

/-- Whether the pending option has no value yet. -/
def isWaiting (p : Progress) : Bool :=
  match p.pending with
  | some (_, none) => true
  | _ => false

/-- Settles an option. -/
def settle (settled : List (String × String)) (o : OptionSpec) (value : Option String) :
    Except UsageError (List (String × String)) :=
  match o.role, value with
  | .help, _ => .error .helpWanted
  | .version, _ => .error .versionWanted
  | .switch, _ =>
    if (settled.lookup o.word).isSome then .error .givenTwice else .ok (settled ++ [(o.word, "")])
  | _, none => .error .badValue
  | role, some v =>
    if (settled.lookup o.word).isSome then .error .givenTwice
    else if role = .path ∧ v = "" then .error .badValue
    else .ok (settled ++ [(o.word, v)])

/-- Settles the pending option. -/
def finish (p : Progress) : Except UsageError (List (String × String)) :=
  match p.pending with
  | none => .ok p.settled
  | some (o, value) => settle p.settled o value

/-- Settles the pending option and then another one. -/
def complete (p : Progress) (o : OptionSpec) (value : Option String) : Except UsageError Progress := do
  return { settled := ← settle (← p.finish) o value }

/-- Settles the pending option and makes another one wait for a value. -/
def await (p : Progress) (o : OptionSpec) : Except UsageError Progress := do
  return { settled := ← p.finish, pending := some (o, none) }

/-- Gives the pending option a value. -/
def supply (p : Progress) (value : String) : Progress :=
  { p with pending := p.pending.map fun (o, _) => (o, some value) }

/-- Takes an option that is named by a word, perhaps with a value behind an equals sign. -/
def takeWord (g : Grammar) (p : Progress) (word : String) (value : Option String) :
    Except UsageError Progress :=
  match g.byWord? word with
  | none => .error .unknownWord
  | some o =>
    match o.role.takesValue, value with
    | true, none => p.await o
    | true, some v => p.complete o (some v)
    | false, none => p.complete o none
    | false, some _ => .error .surplusValue

/-- Takes the options that letters behind one dash name. -/
def takeLetters (g : Grammar) : Progress → List Char → Except UsageError Progress
  | p, [] => .ok p
  | p, c :: rest =>
    match g.byLetter? c with
    | none => .error .unknownWord
    | some o =>
      if o.role.takesValue then
        match rest with
        | [] => p.await o
        | '=' :: v => p.complete o (some (String.ofList v))
        | v => p.complete o (some (String.ofList v))
      else
        match p.complete o none with
        | .error e => .error e
        | .ok p' => takeLetters g p' rest

end Progress

/-- The ways in which a word can be an option. -/
inductive Shape where
  /-- Two dashes: no options follow. -/
  | ending
  /-- A word behind two dashes, perhaps with a value. -/
  | word (name : String) (value : Option String)
  /-- Letters behind a dash. -/
  | letters (cs : List Char)
  /-- No option. -/
  | plain
  deriving DecidableEq, Repr

/-- The shape of a word. -/
def Shape.of (word : String) : Shape :=
  match word.toList with
  | ['-', '-'] => .ending
  | '-' :: '-' :: rest =>
    match rest.span (· ≠ '=') with
    | (name, '=' :: value) => .word (String.ofList name) (some (String.ofList value))
    | (name, _) => .word (String.ofList name) none
  | '-' :: c :: rest => .letters (c :: rest)
  | _ => .plain

/-- What one level of a command line holds: the options, of which the last may be pending, and the
command with the words that follow it. -/
abbrev Level := Progress × Option (String × List String)

/-- Takes the words of one level, where the flag says whether a word has ended the options. -/
def Grammar.take (g : Grammar) : Bool → Progress → List String → Except UsageError Level
  | _, p, [] => .ok (p, none)
  | true, _, word :: _ => .error (g.refusal true word)
  | false, p, word :: rest =>
    if !p.isWaiting && g.isCommand word then .ok (p, some (word, rest))
    else
      match Shape.of word with
      | .ending => take g true p rest
      | .word name value =>
        match p.takeWord g name value with
        | .error e => .error e
        | .ok p' => take g false p' rest
      | .letters cs =>
        match p.takeLetters g cs with
        | .error e => .error e
        | .ok p' => take g false p' rest
      | .plain =>
        if p.isWaiting then take g false (p.supply word) rest else .error (g.refusal false word)

/-- What comes of asking for help about commands: the first word has to be one, and no further word
is one. -/
def Grammar.helpAbout (g : Grammar) : List String → UsageError
  | [] => .helpWanted
  | [word] => if g.isCommand word then .helpWanted else .unknownCommand
  | _ => .unknownCommand

end IndexGateway.CommandLine
