import BattleAdvisor.Advice.Advisor
import BattleAdvisor.CommandLine.Arguments
import BattleAdvisor.Environment.File
import BattleAdvisor.Http.Client

/-!
# Runs

`run` goes through the stages of a run in this order: the arguments, the question, the environment
files, the preferences, the templates, the key, and then the advice. The first stage that fails ends
the run. Nothing is sent over the network before the last stage. Arguments that ask for help are
answered with a text of the `Manual`, which is given from outside.
-/

namespace BattleAdvisor.CommandLine

/-- The texts that explain the options. -/
class Manual where
  /-- The text for those who ask by a name, or by a letter. -/
  text : (isNamed : Bool) → String

/-- What a run finds. -/
structure Surroundings where
  environment : Environment
  files : FileSystem
  /-- The path of the program's own file. -/
  executable : Path
  network : Http.Network

/-- How a run fails. -/
inductive Failure where
  | usage (error : UsageError)
  /-- The program breaks down over an environment file. -/
  | crash (crash : Environment.Crash)
  /-- The preferences cannot be read. -/
  | preferences (path : Path) (error : IoError)
  | credential (error : ServiceError)
  | advice (error : AdviceError)

/-- What a run leaves behind. -/
structure Outcome where
  status : Nat
  output : String
  /-- The lines of the report of a failure. -/
  report : List String
  log : List LogLine
  files : FileSystem
  sent : List Http.Request

/-! ## Reports -/

/-- The messages of a failure, outermost first. Nothing is reported when the program breaks down. -/
def Failure.messages : Failure → List String
  | .usage error => ["error: " ++ error.message]
  | .crash _ => []
  | .preferences path error =>
    ("Failed to load settings from " ++ path.display) :: error.message :: error.causes
  | .credential error => error.message :: error.causes
  | .advice error => error.message :: error.causes

/-- The lines of a text. -/
def linesOf (text : String) : List String :=
  (Text.split (· = '\n') text.toList).map String.ofList

/-- The lines of a message with its number, without blanks at their ends; blank ones are left out.
The number stands before the first line, if that is not empty. -/
def numbered (number : Nat) (message : String) : List String :=
  let lines := match linesOf message with
    | [] => []
    | first :: rest => (if first = "" then first else s!"{number}: {first}") :: rest
  (lines.map Text.trim).filter (· ≠ "")

/-- The lines that are shown for a failure: the first one of a usage error, and all messages of any
other. -/
def Failure.lines : Failure → List String
  | .usage error => (linesOf ("error: " ++ error.message)).take 1
  | failure => failure.messages.zipIdx.flatMap fun (message, number) => numbered number message

/-- The status of a run that fails. -/
def Failure.status : Failure → Nat
  | .usage _ => 2
  | .crash _ => 101
  | _ => 1

/-! ## Stages -/

/-- The directory of the program's own file. -/
def Surroundings.home (surroundings : Surroundings) : Path :=
  surroundings.executable.parent?.getD ⟨[]⟩

/-- The environment files, in the order in which they are taken. -/
def Surroundings.environmentFiles (surroundings : Surroundings) : List Path :=
  let name := Path.ofString ".env"
  [surroundings.home.join name, name]

/-- Takes environment files in turn. A file that cannot be read to its end is reported. -/
def takeFiles (fs : FileSystem) :
    List Path → Environment → Except Environment.Crash Environment × List LogLine
  | [], environment => (.ok environment, [])
  | path :: rest, environment =>
    match environment.takeFile fs path with
    | .error crash => (.error crash, [])
    | .ok (error?, environment) =>
      let (final, log) := takeFiles fs rest environment
      match error? with
      | none => (final, log)
      | some error => (final, ⟨.debug, s!"Skipping {path.display}: {error.message}"⟩ :: log)

/-- The question that the arguments ask. -/
def askedQuestion (arguments : Arguments) (fs : FileSystem) : Except Failure Question :=
  (Question.make fs arguments.player? arguments.input? arguments.useCache arguments.data?
    arguments.useDataFiles).mapError .advice

/-- The preferences that the arguments name. -/
def chosenPreferences (arguments : Arguments) (fs : FileSystem) : Except Failure Preferences :=
  match arguments.settings? with
  | none => .ok .usual
  | some path => (Preferences.ofFile fs path).mapError (.preferences path)

/-- The templates that the arguments name. -/
def chosenTemplates (arguments : Arguments) (fs : FileSystem) : Except Failure Templates :=
  match arguments.templates? with
  | none => .ok .standard
  | some dir => (Templates.ofDirectory fs dir).mapError .advice

variable [MediaTypes] [Http.Library]

/-- Everything that is needed to answer questions. -/
def prepare (arguments : Arguments) (surroundings : Surroundings) (environment : Environment) :
    Except Failure (Advisor Http.Session) := do
  let preferences ← chosenPreferences arguments surroundings.files
  let templates ← chosenTemplates arguments surroundings.files
  let client ← (Http.Client.ofEnvironment preferences environment).mapError .credential
  return ⟨client.service, preferences, templates, .below surroundings.home⟩

/-- The outcome of a run that fails before anything is sent. -/
def Surroundings.failed (surroundings : Surroundings) (failure : Failure) (log : List LogLine) :
    Outcome where
  status := failure.status
  output := ""
  report := failure.lines
  log := log
  files := surroundings.files
  sent := []

/-- The outcome of the last stage. -/
def concluded (log : List LogLine) :
    Except AdviceError String × World Http.Session → Outcome
  | (.ok advice, world) =>
    ⟨0, s!"Output\n{advice}\n", [], log ++ world.log, world.files, world.remote.sent⟩
  | (.error error, world) =>
    let failure := Failure.advice error
    ⟨failure.status, "", failure.lines, log ++ world.log, world.files, world.remote.sent⟩

/-- Goes through all stages behind the arguments. -/
def runWith (arguments : Arguments) (surroundings : Surroundings) : Outcome :=
  match askedQuestion arguments surroundings.files with
  | .error failure => surroundings.failed failure []
  | .ok question =>
    let (taken, log) :=
      takeFiles surroundings.files surroundings.environmentFiles surroundings.environment
    match taken with
    | .error crash => surroundings.failed (.crash crash) log
    | .ok environment =>
      match prepare arguments surroundings environment with
      | .error failure => surroundings.failed failure log
      | .ok advisor =>
        concluded log <| (advisor.advise question).start <|
          World.start (Http.Session.start surroundings.network) surroundings.files

/-- Whether a line is shown. -/
def isShown (verbose : Bool) (line : LogLine) : Bool :=
  verbose || line.level ≠ .debug

/-- The outcome of a run that explains the options. -/
def Surroundings.helped (surroundings : Surroundings) (text : String) : Outcome where
  status := 0
  output := text
  report := []
  log := []
  files := surroundings.files
  sent := []

/-- Goes through all stages. -/
def run [Manual] (arguments : List Bytes) (surroundings : Surroundings) : Outcome :=
  match Arguments.read arguments with
  | .error (.usage error) => surroundings.failed (.usage error) []
  | .error (.help isNamed) => surroundings.helped (Manual.text isNamed)
  | .ok arguments =>
    let outcome := runWith arguments surroundings
    { outcome with log := outcome.log.filter (isShown arguments.verbose) }

end BattleAdvisor.CommandLine
