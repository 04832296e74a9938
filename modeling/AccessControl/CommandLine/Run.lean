import AccessControl.CommandLine.Usage
import AccessControl.Config.Sources
import AccessControl.Fixture
import AccessControl.Json.Writer
import AccessControl.PolicyCheck

/-!
Running the program. Files are read through a function, so that a run is the same over files on disk
and over files held in memory.
-/

namespace AccessControl.CommandLine

/-- What a run prints, and its exit code: 0 for access and for valid policies, 1 for the contrary, 2
where there is no answer. -/
structure Output where
  code : Nat
  stdout : List String := []
  stderr : List String := []

/-- The variable that names the configuration file. -/
def configVariable : String :=
  "MBP_SERVER_CONFIG"

/-- The configuration file when none is named. -/
def systemConfig : String :=
  "/etc/mbp/server.toml"

/-- A run without an answer. -/
def failure (reason : String) : Output where
  code := 2
  stderr := ["error: " ++ reason]

/-- The value that a JSON file holds. -/
def decodeFile (path : String) {α : Type} (read : String → Option α) (file : ConfigFile) :
    Except String α :=
  match file with
  | .missing | .unreadable => .error ("failed to read " ++ path)
  | .text content =>
    match read content with
    | some value => .ok value
    | none => .error ("failed to parse " ++ path)

def reportOutput (report : DecisionReport) : Output where
  code := if report.isAllowed then 0 else 1
  stdout := [report.toJson.pretty 0]

def checkOutput (path : String) (check : PolicyCheck) : Output where
  code := if check.isValid then 0 else 1
  stdout :=
    [path ++ ": " ++ Decimal.digitText check.checked ++ " policies checked, " ++
      Decimal.digitText check.problems.length ++ " problems"]
  stderr := check.problems.map PolicyProblem.message

variable {m : Type → Type} [Monad m]

/-- The shared policies, where a file of them is named. -/
def sharedPolicies (readFile : String → m ConfigFile) :
    Option String → m (Except String (List Policy))
  | none => pure (.ok [])
  | some path => do
    let file ← readFile path
    return decodeFile path Policy.listOfText? file

def runEvaluate (readFile : String → m ConfigFile) (config : Config) (path : String)
    (policies context : Option String) : m Output := do
  let file ← readFile path
  match decodeFile path Fixture.ofText? file with
  | .error reason => return failure reason
  | .ok fixture =>
    let fixture :=
      match context with
      | some written => { fixture with context := some (.text written) }
      | none => fixture
    match ← sharedPolicies readFile (policies <|> config.accessControl.policyFile) with
    | .error reason => return failure reason
    | .ok shared =>
      match fixture.evaluate shared config.accessControl with
      | .error error => return failure error.message
      | .ok report => return reportOutput report

def runCheck (readFile : String → m ConfigFile) (config : Config) (path : String) : m Output := do
  let file ← readFile path
  match decodeFile path Policy.listOfText? file with
  | .error reason => return failure reason
  | .ok policies =>
    return checkOutput path (.ofPolicies policies config.accessControl.maxConditionDepth)

/-- Help in styles on a terminal, plain anywhere else. -/
def helpOutput (onTerminal : Bool) (named : Option String) (topic : Topic) : Output where
  code := 0
  stdout :=
    let text := Text.Terminal.write (topic.helpLines named)
    [if onTerminal then text else Text.Terminal.withoutControls text]

/-- Runs the program on its arguments. -/
def run (readFile : String → m ConfigFile) (env : Environment) (onTerminal : Bool)
    (args : List String) : m Output := do
  let named := env configVariable
  match invocation? named args with
  | none =>
    let usage := Text.Terminal.write [Topic.program.usage]
    return { code := 2, stderr := [Text.Terminal.withoutControls usage] }
  | some (.help topic) => return helpOutput onTerminal named topic
  | some .version => return { code := 0, stdout := ["mbp-access " ++ programVersion] }
  | some (.run _ .version) => return { code := 0, stdout := ["Version:  " ++ programVersion] }
  | some (.run path command) =>
    let file ← readFile (path.getD systemConfig)
    match Config.load file env, command with
    | .error error, _ => return failure ("failed to load configuration: " ++ error.message)
    | .ok config, .evaluate fixture policies context =>
      runEvaluate readFile config fixture policies context
    | .ok config, .check policies => runCheck readFile config policies
    | .ok _, .version => return { code := 0 }

end AccessControl.CommandLine
