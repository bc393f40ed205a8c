import ConfigFanout.Definition
import ConfigFanout.Json.Yaml
import ConfigFanout.Reconcile

-- The command line: what its arguments ask for, what is wrong with them, and the help.
namespace ConfigFanout.CommandLine

/-- What can be done. -/
inductive Command where
  /-- Look after sources, with a pause of some seconds after a failure. -/
  | run (requeueAfterSecs : Nat) (reporter : String)
  /-- Print the definition of the kind of sources. -/
  | crds
  deriving DecidableEq, Repr, Inhabited

/-- What help is about. -/
inductive Page where
  | program
  | run
  | crds
  | help
  deriving DecidableEq, Repr, Inhabited

/-- What is wrong with arguments. -/
inductive UsageFault where
  /-- There is no command. -/
  | missingCommand
  | unknownCommand
  | unknownArgument
  /-- An option has no value. -/
  | missingValue
  /-- An option has a value that it cannot have. -/
  | badValue
  /-- A value stands where none may. -/
  | needlessValue
  /-- An option is there twice. -/
  | repeatedOption
  deriving DecidableEq, Repr, Inhabited

/-- What arguments come to. -/
inductive Reading where
  | command (command : Command)
  | help (page : Page)
  | version
  | fault (fault : UsageFault)
  deriving DecidableEq, Repr, Inhabited

/-! ## Options -/

/-- An option of a command. -/
inductive RunOption where
  | requeueAfterSecs
  | reporter
  deriving DecidableEq, Repr, Inhabited

/-- The option of a command with the given name. -/
def option? (page : Page) (name : String) : Option RunOption :=
  match page, name with
  | .run, "requeue-after-secs" => some .requeueAfterSecs
  | .run, "reporter" => some .reporter
  | _, _ => none

/-- The values of options so far. -/
structure Values where
  requeueAfterSecs : Option Nat := none
  reporter : Option String := none
  /-- An option whose value was not looked at yet, or is still to come. -/
  pending : Option (RunOption × Option String) := none
  deriving DecidableEq, Repr, Inhabited

/-- A whole number of 64 bits: decimal digits, and a plus before them if need be. -/
def parseSeconds (text : String) : Option Nat :=
  let digits := match text.toList with
    | '+' :: digits => digits
    | digits => digits
  let n := digits.foldl (fun n c => n * 10 + (c.toNat - 48)) 0
  if !digits.isEmpty && digits.all Char.isDigit && n < Nat.pow 2 64 then some n else none

namespace Values

/-- The values with one more. -/
def set (values : Values) (option : RunOption) (text : String) : Except UsageFault Values :=
  match option with
  | .requeueAfterSecs =>
    if values.requeueAfterSecs.isSome then .error .repeatedOption
    else
      match parseSeconds text with
      | some n => .ok { values with requeueAfterSecs := some n }
      | none => .error .badValue
  | .reporter =>
    if values.reporter.isSome then .error .repeatedOption
    else .ok { values with reporter := some text }

/-- The values after the pending option was looked at. -/
def settle (values : Values) : Except UsageFault Values :=
  match values.pending with
  | none => .ok values
  | some (_, none) => .error .missingValue
  | some (option, some text) => { values with pending := none }.set option text

end Values

/-- The name and the value of an argument that starts with two dashes. -/
def splitLong (name : List Char) : String × Option String :=
  match name.dropWhile (· ≠ '=') with
  | [] => (String.ofList name, none)
  | _ :: value => (String.ofList (name.takeWhile (· ≠ '=')), some (String.ofList value))

/-- The command that a page is about, with the values that were given for its options. -/
def commandOf (page : Page) (values : Values) : Reading :=
  match page with
  | .run => .command (.run (values.requeueAfterSecs.getD 60)
      (values.reporter.getD "cluster-config-controller"))
  | .crds => .command .crds
  | page => .help page

/-- What follows a fault, or no fault. -/
def unlessFault {α : Type} (next : α → Reading) : Except UsageFault α → Reading
  | .ok value => next value
  | .error fault => .fault fault

/-- The arguments after a command. A value that stands apart from its option is looked at
only when the next option turns up, or at the end. -/
def readOptions (page : Page) (values : Values) : List String → Reading
  | [] => unlessFault (commandOf page) values.settle
  | argument :: rest =>
    let positional :=
      match values.pending with
      | some (option, none) =>
        readOptions page { values with pending := some (option, some argument) } rest
      | _ => .fault .unknownArgument
    match argument.toList with
    | '-' :: '-' :: [] =>
      if rest.isEmpty then unlessFault (commandOf page) values.settle else .fault .unknownArgument
    | '-' :: '-' :: long =>
      match splitLong long with
      | ("help", none) => unlessFault (fun _ => .help page) values.settle
      | ("help", some _) => .fault .needlessValue
      | (name, value) =>
        match option? page name, values.settle with
        | none, _ => .fault .unknownArgument
        | some _, .error fault => .fault fault
        | some option, .ok values =>
          match value with
          | none => readOptions page { values with pending := some (option, none) } rest
          | some text =>
            match values.set option text with
            | .ok values => readOptions page values rest
            | .error fault => .fault fault
    | '-' :: 'h' :: _ => unlessFault (fun _ => .help page) values.settle
    | '-' :: _ :: _ => .fault .unknownArgument
    | _ => positional

/-! ## Commands -/

/-- The page of the command with the given name. -/
def page? (name : String) : Option Page :=
  match name with
  | "run" => some .run
  | "crds" => some .crds
  | "help" => some .help
  | _ => none

/-- The arguments after `help`: at most one command, for no command has commands itself. -/
def readHelp : List String → Reading
  | [] => .help .program
  | [name] => (page? name).elim (.fault .unknownCommand) .help
  | _ => .fault .unknownCommand

/-- What the arguments of the program come to. -/
def read : List String → Reading
  | [] => .fault .missingCommand
  | argument :: rest =>
    match page? argument with
    | some .help => readHelp rest
    | some page => readOptions page {} rest
    | none =>
      match argument.toList with
      | '-' :: '-' :: [] =>
        match rest with
        | [] => .fault .missingCommand
        | next :: _ =>
          .fault (if (page? next).isSome then .unknownArgument else .unknownCommand)
      | '-' :: '-' :: long =>
        match splitLong long with
        | ("help", none) => .help .program
        | ("version", none) => .version
        | ("help", some _) | ("version", some _) => .fault .needlessValue
        | _ => .fault .unknownArgument
      | '-' :: 'h' :: _ => .help .program
      | '-' :: 'V' :: _ => .version
      | '-' :: _ :: _ => .fault .unknownArgument
      | _ => .fault .unknownCommand

/-! ## Output -/

/-- The text of a page of help. -/
def pageText : Page → String
  | .program =>
    "Usage: cluster-config <COMMAND>\n\n" ++
    "Commands:\n" ++
    "  run   Run the controller against the current cluster\n" ++
    "  crds  Print the ClusterConfig CRD as YAML\n" ++
    "  help  Print this message or the help of the given subcommand(s)\n\n" ++
    "Options:\n" ++
    "  -h, --help     Print help\n" ++
    "  -V, --version  Print version\n"
  | .run =>
    "Run the controller against the current cluster\n\n" ++
    "Usage: cluster-config run [OPTIONS]\n\n" ++
    "Options:\n" ++
    "      --requeue-after-secs <REQUEUE_AFTER_SECS>\n" ++
    "          Seconds to wait before retrying a failed reconciliation [default: 60]\n" ++
    "      --reporter <REPORTER>\n" ++
    "          Controller name attached to published events " ++
    "[default: cluster-config-controller]\n" ++
    "  -h, --help\n" ++
    "          Print help\n"
  | .crds =>
    "Print the ClusterConfig CRD as YAML\n\n" ++
    "Usage: cluster-config crds\n\n" ++
    "Options:\n" ++
    "  -h, --help  Print help\n"
  | .help =>
    "Print this message or the help of the given subcommand(s)\n\n" ++
    "Usage: cluster-config help [COMMAND]...\n\n" ++
    "Arguments:\n" ++
    "  [COMMAND]...  Print help for the subcommand(s)\n"

/-- The line that names the version. -/
def versionText : String := "cluster-config 0.1.0\n"

/-- The status with which the program ends after reading its arguments. Asking for help or
for the version is no fault. -/
def Reading.exitCode : Reading → Nat
  | .fault _ => 2
  | _ => 0

/-- What the program prints and the status with which it ends, on a machine from which no
cluster can be reached. -/
def execute (arguments : List String) : String × Nat :=
  match read arguments with
  | .command .crds => (Definition.json.renderYaml ++ "\n", 0)
  | .command (.run ..) => ("", 1)
  | .help page => (pageText page, 0)
  | .version => (versionText, 0)
  | .fault fault => ("", (Reading.fault fault).exitCode)

end ConfigFanout.CommandLine
