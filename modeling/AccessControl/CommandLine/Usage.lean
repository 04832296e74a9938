import AccessControl.CommandLine.Arguments
import AccessControl.Text.Terminal

/-!
The help texts.
-/

namespace AccessControl.CommandLine

open Text.Terminal (Span width)

def programVersion : String :=
  "0.1.0"

def Topic.about : Topic → String
  | .program => "Evaluate MBP access-control policies"
  | .evaluate => "Decide an authorization fixture and print the decision as JSON"
  | .check => "Validate a policies JSON file"
  | .version => "Show version and build information"
  | .help => "Print this message or the help of the given subcommand(s)"

/-- The names that start a command line on a topic, and what may follow them. -/
def Topic.commandLine : Topic → String × String
  | .program => ("mbp-access", "[OPTIONS] <COMMAND>")
  | .evaluate => ("mbp-access evaluate", "[OPTIONS] <FIXTURE>")
  | .check => ("mbp-access check", "[OPTIONS] <POLICIES>")
  | .version => ("mbp-access version", "[OPTIONS]")
  | .help => ("mbp-access help", "[COMMAND]...")

def Topic.usage (topic : Topic) : List Span :=
  [.title "Usage:", .plain " ", .bold topic.commandLine.1, .plain (" " ++ topic.commandLine.2)]

def blanks (n : Nat) : String :=
  String.ofList (List.replicate n ' ')

/-- Starts every line of a text but the first one in a column. -/
def hangingText (column : Nat) (text : String) : String :=
  ("\n" ++ blanks column).intercalate (text.splitOn "\n")

/-- A name and what it means. -/
structure Row where
  name : List Span
  meaning : String

/-- Rows with the meanings in one column, two blanks after the longest name. -/
def table (rows : List Row) : List (List Span) :=
  let longest := (rows.map (width ·.name)).foldl max 0
  rows.map fun row =>
    .plain "  " :: row.name ++
      [.plain (blanks (longest - width row.name + 2) ++ hangingText (longest + 4) row.meaning)]

/-- The row of an option that takes a value and has a long name only. -/
def valueRow (option value meaning : String) : Row where
  name := [.plain "    ", .bold option, .plain (" " ++ value)]
  meaning := meaning

/-- The row of an option with a short name and a long one. -/
def flagRow (short long meaning : String) : Row where
  name := [.bold short, .plain ", ", .bold long]
  meaning := meaning

def wordRow (word meaning : String) : Row where
  name := [.plain word]
  meaning := meaning

def configRow (fromEnv : Option String) : Row :=
  valueRow "--config" "<CONFIG>"
    ("Config file (defaults to /etc/mbp/server.toml) [env: MBP_SERVER_CONFIG=" ++ fromEnv.getD "" ++
      "]")

def helpRow : Row :=
  flagRow "-h" "--help" "Print help"

/-- The parts of a help text after the line on usage, each with its title. -/
def Topic.sections (fromEnv : Option String) : Topic → List (String × List Row)
  | .program =>
    [("Commands:", Topic.words.map fun w => ⟨[.bold w.1], w.2.about⟩),
      ("Options:",
        [configRow fromEnv, helpRow, flagRow "-V" "--version" "Print version"])]
  | .evaluate =>
    [("Arguments:", [wordRow "<FIXTURE>" "Fixture JSON file"]),
      ("Options:",
        [configRow fromEnv,
          valueRow "--policies" "<POLICIES>"
            "Shared policies JSON file (defaults to `access_control.policy_file`)",
          valueRow "--context" "<CONTEXT>"
            "Access-request header value, replacing the fixture's context and headers",
          helpRow])]
  | .check =>
    [("Arguments:", [wordRow "<POLICIES>" "Policies JSON file (a list of policies)"]),
      ("Options:", [configRow fromEnv, helpRow])]
  | .version => [("Options:", [configRow fromEnv, helpRow])]
  | .help => [("Arguments:", [wordRow "[COMMAND]..." "Print help for the subcommand(s)"])]

/-- The help text on a topic. -/
def Topic.helpLines (fromEnv : Option String) (topic : Topic) : List (List Span) :=
  let parts := (topic.sections fromEnv).map fun part => [] :: [.title part.1] :: table part.2
  [.plain topic.about] :: [] :: topic.usage :: parts.flatten

end AccessControl.CommandLine
