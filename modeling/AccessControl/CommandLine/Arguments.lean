/-!
The arguments of the command line. They are gone through once from the left. Options come as
`--name value` or `--name=value`; a value of its own may not start with a hyphen unless it is
nothing else. After `--` everything is a plain word. Asking for help or for the version ends the
reading, and so does the first mistake. Only a mistake in the option right before the name of a
command waits, and gives way to help that is asked for after the name.
-/

namespace AccessControl.CommandLine

/-- What help can be asked about. -/
inductive Topic where
  | program
  | evaluate
  | check
  | version
  | help
deriving DecidableEq

/-- What the program is told to do. -/
inductive Command where
  | evaluate (fixture : String) (policies context : Option String)
  | check (policies : String)
  | version

inductive Invocation where
  | help (topic : Topic)
  | version
  /-- A command, under a configuration file if one is named. -/
  | run (config : Option String) (command : Command)

/-- Which arguments may be given at a place: the options, whether each one is a path, and how many
plain words. -/
structure Grammar where
  options : List (String × Bool)
  words : Nat
  /-- The version may be asked for, and a plain word is the name of a command. -/
  isProgram : Bool

/-- The arguments read so far. -/
structure Given where
  options : List (String × String) := []
  words : List String := []

/-- How reading ends. -/
inductive Reading where
  | complete (given : Given)
  /-- At the name of a command, with nothing given when the option before it was a mistake. -/
  | command (given : Option Given) (name : String) (rest : List String)
  | help
  | version
  | mistake

/-- Splits a long option into its name and the value after an equals sign, if there is one. -/
def splitOption (arg : String) : String × Option String :=
  let cs := arg.toList.drop 2
  let name := String.ofList (cs.takeWhile (· != '='))
  match cs.dropWhile (· != '=') with
  | '=' :: value => (name, some (String.ofList value))
  | _ => (name, none)

/-- A word that could be an option. -/
def looksLikeOption (arg : String) : Bool :=
  match arg.toList with
  | '-' :: _ :: _ => true
  | _ => false

namespace Given

/-- Adds an option, which may not be there yet. A path may not be empty. -/
def addOption? (g : Given) (name : String) (isPath : Bool) (value : String) : Option Given :=
  if (g.options.lookup name).isSome || (isPath && value.isEmpty) then none
  else some { g with options := (name, value) :: g.options }

/-- Adds a plain word, of which a grammar allows only so many. All of them are paths. -/
def addWord? (g : Given) (grammar : Grammar) (word : String) : Option Given :=
  if word.isEmpty || grammar.words ≤ g.words.length then none
  else some { g with words := g.words ++ [word] }

end Given

/-- Reads arguments by a grammar; `escaped` says that only plain words follow. -/
def scan (grammar : Grammar) (escaped : Bool) (given : Given) : List String → Reading
  | [] => .complete given
  | arg :: rest =>
    if escaped || !looksLikeOption arg then
      if !escaped && grammar.isProgram then .command (some given) arg rest
      else
        match given.addWord? grammar arg with
        | some given => scan grammar escaped given rest
        | none => .mistake
    else if arg = "--" then scan grammar true given rest
    else if arg.startsWith "--" then
      let (name, value) := splitOption arg
      match grammar.options.lookup name, value, rest with
      | some isPath, some value, rest =>
        match given.addOption? name isPath value with
        | some given => scan grammar escaped given rest
        | none => .mistake
      | some isPath, none, value :: rest =>
        if looksLikeOption value then .mistake
        else
          match given.addOption? name isPath value, rest with
          | some given, rest => scan grammar escaped given rest
          | none, next :: rest =>
            if grammar.isProgram && !looksLikeOption next then .command none next rest else .mistake
          | none, [] => .mistake
      | some _, none, [] => .mistake
      | none, some _, _ => .mistake
      | none, none, _ =>
        if name = "help" then .help
        else if name = "version" ∧ grammar.isProgram then .version
        else .mistake
    else
      match arg.toList.drop 1 with
      | 'h' :: _ => .help
      | 'V' :: _ => if grammar.isProgram then .version else .mistake
      | _ => .mistake

def configOption : String × Bool :=
  ("config", true)

def programGrammar : Grammar :=
  ⟨[configOption], 0, true⟩

/-- The arguments after the name of a command. -/
def Topic.grammar : Topic → Grammar
  | .program => programGrammar
  | .evaluate => ⟨[configOption, ("policies", true), ("context", false)], 1, false⟩
  | .check => ⟨[configOption], 1, false⟩
  | .version => ⟨[configOption], 0, false⟩
  | .help => ⟨[], 0, false⟩

def Topic.words : List (String × Topic) :=
  [("evaluate", .evaluate), ("check", .check), ("version", .version), ("help", .help)]

/-- The command that complete arguments make. -/
def command? (topic : Topic) (given : Given) : Option Command :=
  match topic, given.words with
  | .evaluate, [fixture] =>
    some (.evaluate fixture (given.options.lookup "policies") (given.options.lookup "context"))
  | .check, [policies] => some (.check policies)
  | .version, [] => some .version
  | _, _ => none

/-- The configuration file at one place: as given there, or else from the environment. A variable
that is set may not be empty. -/
def configAt? (fromEnv : Option String) (given : Given) : Option (Option String) :=
  match given.options.lookup "config", fromEnv with
  | some path, _ => some (some path)
  | none, some path => if path.isEmpty then none else some (some path)
  | none, none => some none

/-- Reads the arguments after a command's name. The configuration file named there counts, then the
one named before the command, then the one in the environment. -/
def commandInvocation? (fromEnv : Option String) (before : Option Given) (topic : Topic)
    (args : List String) : Option Invocation :=
  match scan topic.grammar false {} args with
  | .complete given => do
    let before ← before
    let command ← command? topic given
    let inner ← configAt? fromEnv given
    let outer ← configAt? fromEnv before
    let named := given.options.lookup "config" <|> before.options.lookup "config"
    return .run (named <|> inner <|> outer) command
  | .help => some (.help topic)
  | _ => none

/-- What `help` with some words shows. -/
def helpInvocation? : List String → Option Invocation
  | [] => some (.help .program)
  | [name] => (Topic.words.lookup name).map .help
  | _ => none

/-- Reads the arguments; `fromEnv` is the configuration file that the environment names. -/
def invocation? (fromEnv : Option String) (args : List String) : Option Invocation :=
  match scan programGrammar false {} args with
  | .help => some (.help .program)
  | .version => some .version
  | .command given name rest =>
    match Topic.words.lookup name with
    | some .help => helpInvocation? rest
    | some topic => commandInvocation? fromEnv given topic rest
    | none => none
  | .complete _ => none
  | .mistake => none

end AccessControl.CommandLine
