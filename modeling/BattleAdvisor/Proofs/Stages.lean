import BattleAdvisor.CommandLine.Program
import BattleAdvisor.Proofs.Course

/-!
# The stages of a run

A run of the program goes through eight stages (`Stage`). `Fails` says, stage by stage, when a stage
fails and how; each stage is looked at with what it needs from earlier ones, and nothing else.
`Passes` says that all stages before the calls succeed.

**Theorem (`run_contract`).** A run whose arguments ask for help shows the manual. Any other run
shows the advice if all stages succeed. Else it shows nothing and reports the failure of the first
stage that fails. Nothing is sent unless all stages before the calls succeed.

The proof goes through the stages in their order. As long as they succeed, none of the stages so far
fails (`Clear`); the first one that does not succeed decides about the run (`Verdict`).
-/

namespace BattleAdvisor.CommandLine

/-! ## Stages -/

/-- The stages of a run. -/
inductive Stage where
  | arguments
  | question
  /-- The environment files are taken. They can be missing, or end early, but must not break the
  program down. -/
  | environment
  | preferences
  | templates
  | key
  /-- Whether the choices fit together. -/
  | choices
  /-- The calls to the remote service. -/
  | calls
  deriving DecidableEq

/-- The place of a stage in the order of stages. -/
def Stage.place : Stage → Nat
  | .arguments => 0
  | .question => 1
  | .environment => 2
  | .preferences => 3
  | .templates => 4
  | .key => 5
  | .choices => 6
  | .calls => 7

/-- The environment together with the environment files. -/
def Surroundings.wholeEnvironment (surroundings : Surroundings) :
    Except Environment.Crash Environment :=
  (takeFiles surroundings.files surroundings.environmentFiles surroundings.environment).1

/-- What the stages before the calls produce. -/
structure Produce where
  arguments : Arguments
  question : Question
  environment : Environment
  preferences : Preferences
  templates : Templates
  client : Http.Client

/-- All stages before the calls succeed. -/
structure Passes (arguments : List Bytes) (surroundings : Surroundings) (produce : Produce) :
    Prop where
  arguments : Arguments.read arguments = .ok produce.arguments
  question : askedQuestion produce.arguments surroundings.files = .ok produce.question
  environment : surroundings.wholeEnvironment = .ok produce.environment
  preferences : chosenPreferences produce.arguments surroundings.files = .ok produce.preferences
  templates : chosenTemplates produce.arguments surroundings.files = .ok produce.templates
  key : Http.Client.ofEnvironment produce.preferences produce.environment = .ok produce.client
  choices : produce.question.check = .ok ()

section

variable [MediaTypes] [Http.Library]

/-- The advisor that answers the question. -/
def Produce.advisor (produce : Produce) (surroundings : Surroundings) : Advisor Http.Session :=
  ⟨produce.client.service, produce.preferences, produce.templates, .below surroundings.home⟩

/-- The calls, and what they leave behind. -/
def Produce.advised (produce : Produce) (surroundings : Surroundings) :
    Except AdviceError String × World Http.Session :=
  ((produce.advisor surroundings).advise produce.question).start
    (.start (.start surroundings.network) surroundings.files)

/-- What comes of the calls. -/
def Produce.called (produce : Produce) (surroundings : Surroundings) : Except AdviceError String :=
  (produce.advised surroundings).1

/-- A stage fails. -/
inductive Fails (arguments : List Bytes) (surroundings : Surroundings) : Stage → Failure → Prop
  | arguments {error : UsageError} (unread : Arguments.read arguments = .error (.usage error)) :
      Fails arguments surroundings .arguments (.usage error)
  | question {given : Arguments} {failure : Failure} (read : Arguments.read arguments = .ok given)
      (refused : askedQuestion given surroundings.files = .error failure) :
      Fails arguments surroundings .question failure
  | environment {given : Arguments} {crash : Environment.Crash}
      (read : Arguments.read arguments = .ok given)
      (broken : surroundings.wholeEnvironment = .error crash) :
      Fails arguments surroundings .environment (.crash crash)
  | preferences {given : Arguments} {failure : Failure}
      (read : Arguments.read arguments = .ok given)
      (unloaded : chosenPreferences given surroundings.files = .error failure) :
      Fails arguments surroundings .preferences failure
  | templates {given : Arguments} {failure : Failure} (read : Arguments.read arguments = .ok given)
      (unloaded : chosenTemplates given surroundings.files = .error failure) :
      Fails arguments surroundings .templates failure
  | key {given : Arguments} {environment : Environment} {preferences : Preferences}
      {error : ServiceError} (read : Arguments.read arguments = .ok given)
      (taken : surroundings.wholeEnvironment = .ok environment)
      (loaded : chosenPreferences given surroundings.files = .ok preferences)
      (missing : Http.Client.ofEnvironment preferences environment = .error error) :
      Fails arguments surroundings .key (.credential error)
  | choices {given : Arguments} {question : Question} {error : AdviceError}
      (read : Arguments.read arguments = .ok given)
      (asked : askedQuestion given surroundings.files = .ok question)
      (unfit : question.check = .error error) :
      Fails arguments surroundings .choices (.advice error)
  | calls {produce : Produce} {error : AdviceError}
      (passes : Passes arguments surroundings produce)
      (failed : produce.called surroundings = .error error) :
      Fails arguments surroundings .calls (.advice error)

/-- None of the first stages fails. -/
def Clear (arguments : List Bytes) (surroundings : Surroundings) (count : Nat) : Prop :=
  ∀ stage, stage.place < count → ∀ failure, ¬ Fails arguments surroundings stage failure

/-- The first stage that fails. -/
structure FailsFirst (arguments : List Bytes) (surroundings : Surroundings) (stage : Stage)
    (failure : Failure) : Prop where
  fails : Fails arguments surroundings stage failure
  first : Clear arguments surroundings stage.place

/-- All stages succeed, and this is the advice. -/
def Decides (arguments : List Bytes) (surroundings : Surroundings) (advice : String) : Prop :=
  ∃ produce, Passes arguments surroundings produce ∧ produce.called surroundings = .ok advice

end

theorem Stage.place_injective {stage stage' : Stage} (same : stage.place = stage'.place) :
    stage = stage' := by
  cases stage <;> cases stage' <;> first | rfl | cases same

/-- What the stages before the calls produce is determined. -/
theorem Passes.unique {arguments : List Bytes} {surroundings : Surroundings}
    {produce produce' : Produce} (passes : Passes arguments surroundings produce)
    (passes' : Passes arguments surroundings produce') : produce = produce' := by
  obtain ⟨given, question, environment, preferences, templates, client⟩ := produce
  obtain ⟨given', question', environment', preferences', templates', client'⟩ := produce'
  obtain rfl := Except.ok.inj (passes.arguments.symm.trans passes'.arguments)
  obtain rfl := Except.ok.inj (passes.question.symm.trans passes'.question)
  obtain rfl := Except.ok.inj (passes.environment.symm.trans passes'.environment)
  obtain rfl := Except.ok.inj (passes.preferences.symm.trans passes'.preferences)
  obtain rfl := Except.ok.inj (passes.templates.symm.trans passes'.templates)
  obtain rfl := Except.ok.inj (passes.key.symm.trans passes'.key)
  rfl

section

variable [MediaTypes] [Http.Library] {arguments : List Bytes} {surroundings : Surroundings}
  {stage stage' : Stage} {failure failure' : Failure}

/-! Stages that succeed are clear, one after another. -/

namespace Clear

variable {given : Arguments} {question : Question} {environment : Environment}
  {preferences : Preferences} {templates : Templates} {client : Http.Client}

theorem succ (clear : Clear arguments surroundings stage.place)
    (clear' : ∀ failure, ¬ Fails arguments surroundings stage failure) :
    Clear arguments surroundings (stage.place + 1) := by
  intro earlier before failure
  rcases Nat.lt_succ_iff_lt_or_eq.mp before with before | same
  · exact clear earlier before failure
  · rw [Stage.place_injective same]
    exact clear' failure

theorem start : Clear arguments surroundings Stage.arguments.place :=
  fun _ before => nomatch before

theorem behind_arguments (read : Arguments.read arguments = .ok given) :
    Clear arguments surroundings Stage.question.place := by
  refine Clear.start.succ fun _ fails => ?_
  cases fails with
  | arguments unread => cases read.symm.trans unread

theorem behind_question (clear : Clear arguments surroundings Stage.question.place)
    (read : Arguments.read arguments = .ok given)
    (asked : askedQuestion given surroundings.files = .ok question) :
    Clear arguments surroundings Stage.environment.place := by
  refine clear.succ fun _ fails => ?_
  cases fails with
  | question read' refused =>
    obtain rfl := Except.ok.inj (read.symm.trans read')
    cases asked.symm.trans refused

theorem behind_environment (clear : Clear arguments surroundings Stage.environment.place)
    (taken : surroundings.wholeEnvironment = .ok environment) :
    Clear arguments surroundings Stage.preferences.place := by
  refine clear.succ fun _ fails => ?_
  cases fails with
  | environment _ broken => cases taken.symm.trans broken

theorem behind_preferences (clear : Clear arguments surroundings Stage.preferences.place)
    (read : Arguments.read arguments = .ok given)
    (loaded : chosenPreferences given surroundings.files = .ok preferences) :
    Clear arguments surroundings Stage.templates.place := by
  refine clear.succ fun _ fails => ?_
  cases fails with
  | preferences read' unloaded =>
    obtain rfl := Except.ok.inj (read.symm.trans read')
    cases loaded.symm.trans unloaded

theorem behind_templates (clear : Clear arguments surroundings Stage.templates.place)
    (read : Arguments.read arguments = .ok given)
    (loaded : chosenTemplates given surroundings.files = .ok templates) :
    Clear arguments surroundings Stage.key.place := by
  refine clear.succ fun _ fails => ?_
  cases fails with
  | templates read' unloaded =>
    obtain rfl := Except.ok.inj (read.symm.trans read')
    cases loaded.symm.trans unloaded

theorem behind_key (clear : Clear arguments surroundings Stage.key.place)
    (read : Arguments.read arguments = .ok given)
    (taken : surroundings.wholeEnvironment = .ok environment)
    (loaded : chosenPreferences given surroundings.files = .ok preferences)
    (found : Http.Client.ofEnvironment preferences environment = .ok client) :
    Clear arguments surroundings Stage.choices.place := by
  refine clear.succ fun _ fails => ?_
  cases fails with
  | key read' taken' loaded' missing =>
    obtain rfl := Except.ok.inj (read.symm.trans read')
    obtain rfl := Except.ok.inj (taken.symm.trans taken')
    obtain rfl := Except.ok.inj (loaded.symm.trans loaded')
    cases found.symm.trans missing

end Clear

/-- Where all stages before the calls succeed, only the calls can fail. -/
theorem Passes.fails {produce : Produce} (passes : Passes arguments surroundings produce)
    (fails : Fails arguments surroundings stage failure) :
    stage = .calls ∧ ∃ error, failure = .advice error ∧
      produce.called surroundings = .error error := by
  obtain ⟨read, asked, taken, loaded, loaded', found, fit⟩ := id passes
  cases fails with
  | calls passes' failed =>
    obtain rfl := passes.unique passes'
    exact ⟨rfl, _, rfl, failed⟩
  | _ => simp_all

theorem Clear.of_passes {produce : Produce} (passes : Passes arguments surroundings produce) :
    Clear arguments surroundings Stage.calls.place := by
  intro earlier before failure fails
  obtain ⟨rfl, -⟩ := passes.fails fails
  exact Nat.lt_irrefl _ before

/-- How a stage fails is determined. -/
theorem Fails.unique (fails : Fails arguments surroundings stage failure)
    (fails' : Fails arguments surroundings stage failure') : failure = failure' := by
  cases fails with
  | calls passes failed =>
    obtain ⟨-, error, rfl, failed'⟩ := passes.fails fails'
    rw [Except.error.inj (failed.symm.trans failed')]
  | arguments unread =>
    cases fails' with
    | arguments unread' => cases unread.symm.trans unread'; rfl
  | environment read broken =>
    cases fails' with
    | environment read' broken' => cases broken.symm.trans broken'; rfl
  | question read refused =>
    cases fails' with
    | question read' refused' =>
      obtain rfl := Except.ok.inj (read.symm.trans read')
      exact Except.error.inj (refused.symm.trans refused')
  | preferences read unloaded =>
    cases fails' with
    | preferences read' unloaded' =>
      obtain rfl := Except.ok.inj (read.symm.trans read')
      exact Except.error.inj (unloaded.symm.trans unloaded')
  | templates read unloaded =>
    cases fails' with
    | templates read' unloaded' =>
      obtain rfl := Except.ok.inj (read.symm.trans read')
      exact Except.error.inj (unloaded.symm.trans unloaded')
  | key read taken loaded missing =>
    cases fails' with
    | key read' taken' loaded' missing' =>
      obtain rfl := Except.ok.inj (read.symm.trans read')
      obtain rfl := Except.ok.inj (taken.symm.trans taken')
      obtain rfl := Except.ok.inj (loaded.symm.trans loaded')
      rw [Except.error.inj (missing.symm.trans missing')]
  | choices read asked unfit =>
    cases fails' with
    | choices read' asked' unfit' =>
      obtain rfl := Except.ok.inj (read.symm.trans read')
      obtain rfl := Except.ok.inj (asked.symm.trans asked')
      rw [Except.error.inj (unfit.symm.trans unfit')]

theorem FailsFirst.unique (first : FailsFirst arguments surroundings stage failure)
    (first' : FailsFirst arguments surroundings stage' failure') :
    stage = stage' ∧ failure = failure' := by
  rcases Nat.lt_trichotomy stage.place stage'.place with before | same | behind
  · exact absurd first.fails (first'.first stage before failure)
  · obtain rfl := Stage.place_injective same
    exact ⟨rfl, first.fails.unique first'.fails⟩
  · exact absurd first'.fails (first.first stage' behind failure')

/-- Arguments that ask for help do not fail: no stage is reached. -/
theorem not_fails_of_help {isNamed : Bool}
    (asks : Arguments.read arguments = .error (.help isNamed)) :
    ¬ Fails arguments surroundings stage failure := by
  intro fails
  cases fails with
  | arguments unread => cases asks.symm.trans unread
  | calls passes => cases asks.symm.trans passes.arguments
  | question read | environment read | preferences read | templates read | key read
  | choices read => cases asks.symm.trans read

theorem Decides.not_fails {advice : String} (decides : Decides arguments surroundings advice) :
    ¬ Fails arguments surroundings stage failure := by
  obtain ⟨produce, passes, called⟩ := decides
  intro fails
  obtain ⟨-, error, -, failed⟩ := passes.fails fails
  cases called.symm.trans failed

theorem Decides.unique {advice advice' : String} (decides : Decides arguments surroundings advice)
    (decides' : Decides arguments surroundings advice') : advice = advice' := by
  obtain ⟨produce, passes, called⟩ := decides
  obtain ⟨produce', passes', called'⟩ := decides'
  obtain rfl := passes.unique passes'
  exact Except.ok.inj (called.symm.trans called')

end

/-! ## Outcomes -/

/-- The outcome shows nothing, and reports a failure. -/
structure Outcome.Reports (outcome : Outcome) (failure : Failure) : Prop where
  status : outcome.status = failure.status
  output : outcome.output = ""
  report : outcome.report = failure.lines

/-- The outcome shows an advice. -/
structure Outcome.Shows (outcome : Outcome) (advice : String) : Prop where
  status : outcome.status = 0
  output : outcome.output = "Output\n" ++ advice ++ "\n"
  report : outcome.report = []

/-- The outcome shows a text that explains the options. -/
structure Outcome.Explains (outcome : Outcome) (text : String) : Prop where
  status : outcome.status = 0
  output : outcome.output = text
  report : outcome.report = []
  sent : outcome.sent = []

theorem Failure.status_ne_zero (failure : Failure) : failure.status ≠ 0 := by
  cases failure <;> exact Nat.succ_ne_zero _

section

variable [MediaTypes]

/-- A question whose choices do not fit together is answered without a call. -/
theorem advise_rejected {σ : Type} (advisor : Advisor σ) {question : Question} {error : AdviceError}
    (unfit : question.check = .error error) (world : World σ) :
    (advisor.advise question).start world = (.error error, world) := by
  unfold Advisor.advise Advisor.prepare
  rw [Action.start_bind_error]
  exact Action.start_bind_error (by rw [Action.start_ofExcept, unfit])

variable [Http.Library]

/-- What a run behind the arguments comes to, with the stage that decides about it. -/
inductive Verdict (arguments : List Bytes) (surroundings : Surroundings) : Outcome → Prop
  | failed {stage : Stage} {failure : Failure} {outcome : Outcome}
      (first : FailsFirst arguments surroundings stage failure) (reports : outcome.Reports failure)
      (silent : stage ≠ .calls → outcome.sent = []) : Verdict arguments surroundings outcome
  | decided {advice : String} {outcome : Outcome} (decides : Decides arguments surroundings advice)
      (shows : outcome.Shows advice) : Verdict arguments surroundings outcome

variable {arguments : List Bytes} {surroundings : Surroundings} {given : Arguments}

/-- A run that fails before the calls. -/
theorem verdict_failed {stage : Stage} {failure : Failure}
    (fails : Fails arguments surroundings stage failure)
    (clear : Clear arguments surroundings stage.place) (log : List LogLine) :
    Verdict arguments surroundings (surroundings.failed failure log) :=
  .failed ⟨fails, clear⟩ ⟨rfl, rfl, rfl⟩ fun _ => rfl

theorem verdict_calls {produce : Produce} (passes : Passes arguments surroundings produce)
    (log : List LogLine) :
    Verdict arguments surroundings (concluded log (produce.advised surroundings)) := by
  have called : produce.called surroundings = (produce.advised surroundings).1 := rfl
  generalize produce.advised surroundings = advised at called ⊢
  obtain ⟨result, world⟩ := advised
  cases result with
  | ok advice => exact .decided ⟨produce, passes, called⟩ ⟨rfl, rfl, rfl⟩
  | error error =>
    exact .failed ⟨.calls passes called, .of_passes passes⟩ ⟨rfl, rfl, rfl⟩ (absurd rfl)

theorem verdict_runWith (read : Arguments.read arguments = .ok given) :
    Verdict arguments surroundings (runWith given surroundings) := by
  have clear : Clear arguments surroundings Stage.question.place :=
    .behind_arguments read
  unfold runWith
  cases asked : askedQuestion given surroundings.files with
  | error failure => exact verdict_failed (.question read asked) clear []
  | ok question =>
  have clear := clear.behind_question read asked
  have whole : (takeFiles surroundings.files surroundings.environmentFiles
    surroundings.environment).1 = surroundings.wholeEnvironment := rfl
  dsimp only
  generalize (takeFiles surroundings.files surroundings.environmentFiles
    surroundings.environment).2 = log
  rw [whole]
  cases taken : surroundings.wholeEnvironment with
  | error crash => exact verdict_failed (.environment read taken) clear log
  | ok environment =>
  have clear := clear.behind_environment taken
  unfold prepare
  dsimp only
  cases loaded : chosenPreferences given surroundings.files with
  | error failure => exact verdict_failed (.preferences read loaded) clear log
  | ok preferences =>
  have clear := clear.behind_preferences read loaded
  cases loaded' : chosenTemplates given surroundings.files with
  | error failure => exact verdict_failed (.templates read loaded') clear log
  | ok templates =>
  have clear := clear.behind_templates read loaded'
  dsimp only [bind, Except.bind]
  cases found : Http.Client.ofEnvironment preferences environment with
  | error error => exact verdict_failed (.key read taken loaded found) clear log
  | ok client =>
  have clear := clear.behind_key read taken loaded found
  dsimp only [Except.mapError, pure, Except.pure]
  cases fit : question.check with
  | error error =>
    rw [advise_rejected _ fit]
    exact .failed ⟨.choices read asked fit, clear⟩ ⟨rfl, rfl, rfl⟩ fun _ => rfl
  | ok _ =>
    have passes : Passes arguments surroundings
        ⟨given, question, environment, preferences, templates, client⟩ :=
      ⟨read, asked, taken, loaded, loaded', found, fit⟩
    exact verdict_calls passes log

/-- Nothing is sent unless all stages before the calls succeed. -/
theorem Verdict.passes_of_sent {outcome : Outcome}
    (verdict : Verdict arguments surroundings outcome) (sent : outcome.sent ≠ []) :
    ∃ produce, Passes arguments surroundings produce := by
  cases verdict with
  | @failed stage _ _ first reports silent =>
    by_cases last : stage = .calls
    · subst last
      cases first.fails with
      | @calls produce _ passes => exact ⟨produce, passes⟩
    · exact absurd (silent last) sent
  | decided decides =>
    obtain ⟨produce, passes, -⟩ := decides
    exact ⟨produce, passes⟩

variable [Manual]

/-- What a run sends is what its calls send. -/
theorem sent_of_passes {produce : Produce} (passes : Passes arguments surroundings produce) :
    (run arguments surroundings).sent = (produce.advised surroundings).2.remote.sent := by
  have taken : (takeFiles surroundings.files surroundings.environmentFiles
    surroundings.environment).1 = .ok produce.environment := passes.environment
  have prepared : prepare produce.arguments surroundings produce.environment =
      .ok (produce.advisor surroundings) := by
    unfold prepare
    rw [passes.preferences, passes.templates]
    dsimp only [bind, Except.bind]
    rw [passes.key]
    rfl
  have sent (log : List LogLine) (advised : Except AdviceError String × World Http.Session) :
      (concluded log advised).sent = advised.2.remote.sent := by
    obtain ⟨error | advice, world⟩ := advised <;> rfl
  unfold run runWith
  rw [passes.arguments]
  dsimp only
  rw [passes.question]
  dsimp only
  rw [taken]
  dsimp only
  rw [prepared]
  exact sent _ _

/-- A run takes its verdict from the stages, unless its arguments ask for help. -/
theorem verdict_run (arguments : List Bytes) (surroundings : Surroundings) :
    (∃ isNamed, Arguments.read arguments = .error (.help isNamed) ∧
      (run arguments surroundings).Explains (Manual.text isNamed)) ∨
    Verdict arguments surroundings (run arguments surroundings) := by
  unfold run
  cases read : Arguments.read arguments with
  | error halt =>
    cases halt with
    | usage error => exact .inr (verdict_failed (.arguments read) .start [])
    | help isNamed => exact .inl ⟨isNamed, rfl, rfl, rfl, rfl, rfl⟩
  | ok given =>
    right
    -- The log is filtered, which is no part of the verdict.
    cases (verdict_runWith read : Verdict arguments surroundings (runWith given surroundings)) with
    | failed first reports silent =>
      exact .failed first ⟨reports.status, reports.output, reports.report⟩ silent
    | decided decides shows => exact .decided decides ⟨shows.status, shows.output, shows.report⟩

/-! ## The contract -/

/-- What the program promises about a run. -/
structure Contract (arguments : List Bytes) (surroundings : Surroundings) (outcome : Outcome) :
    Prop where
  /-- If the arguments ask for help, the manual is shown. -/
  explained : ∀ isNamed, Arguments.read arguments = .error (.help isNamed) →
    outcome.Explains (Manual.text isNamed)
  /-- If all stages succeed, the advice is shown. -/
  decided : ∀ advice, Decides arguments surroundings advice → outcome.Shows advice
  /-- If a stage fails, the first one that does is reported. -/
  failed : ∀ stage failure, FailsFirst arguments surroundings stage failure →
    outcome.Reports failure ∧ outcome.status ≠ 0
  /-- The arguments ask for help, or all stages succeed, or there is a first one that fails. -/
  total : (∃ isNamed, Arguments.read arguments = .error (.help isNamed)) ∨
    (∃ advice, Decides arguments surroundings advice) ∨
    ∃ stage failure, FailsFirst arguments surroundings stage failure
  /-- Nothing is sent unless all stages before the calls succeed. -/
  sent : outcome.sent ≠ [] → ∃ produce, Passes arguments surroundings produce

/-- **The contract of the command line.** It holds of every run. -/
theorem run_contract (arguments : List Bytes) (surroundings : Surroundings) :
    Contract arguments surroundings (run arguments surroundings) := by
  obtain ⟨isNamed, asks, explains⟩ | verdict := verdict_run arguments surroundings
  · refine ⟨?_, ?_, ?_, .inl ⟨isNamed, asks⟩, absurd explains.sent⟩
    · intro isNamed' asks'
      cases asks.symm.trans asks'
      exact explains
    · rintro advice ⟨produce, passes, -⟩
      cases asks.symm.trans passes.arguments
    · intro stage failure first
      exact absurd first.fails (not_fails_of_help asks)
  have sent := verdict.passes_of_sent
  cases verdict with
  | @failed stage failure _ first reports silent =>
    refine ⟨?_, ?_, ?_, .inr (.inr ⟨stage, failure, first⟩), sent⟩
    · intro isNamed asks
      exact absurd first.fails (not_fails_of_help asks)
    · intro advice decides
      exact absurd first.fails decides.not_fails
    · intro stage' failure' first'
      obtain ⟨-, rfl⟩ := first.unique first'
      exact ⟨reports, reports.status ▸ failure.status_ne_zero⟩
  | @decided advice _ decides shows =>
    refine ⟨?_, ?_, ?_, .inr (.inl ⟨advice, decides⟩), sent⟩
    · rintro isNamed asks
      obtain ⟨produce, passes, -⟩ := decides
      cases asks.symm.trans passes.arguments
    · intro advice' decides'
      rw [← decides.unique decides']
      exact shows
    · intro stage failure first
      exact absurd first.fails decides.not_fails

end

/-! ## Runs with arguments that ask something -/

deriving instance DecidableEq for Arguments

/-- A battle with nothing in it. -/
def emptyBattle : String :=
  "\x7b\"player_data\":0,\"battle_state\":0,\"request_data\":0,\"failed_actions\":[]\x7d"

/-- The question that is asked about it. -/
def emptyQuestion : Question where
  player := "p1"
  battle := "\x7b\"battle_state\":0,\"failed_actions\":[],\"player_data\":0,\"request_data\":0\x7d"
  useCache := true
  dataDirectory? := none
  useDataFiles := false

/-- Arguments that ask it. -/
def askingArguments : Arguments where
  player? := some "p1"
  input? := some emptyBattle
  templates? := some (.ofString "t")
  settings? := some (.ofString "t/settings")

/-- The arguments as they are given. -/
def askingWords : List Bytes :=
  [Utf8.encode "--player", Utf8.encode "p1", Utf8.encode "--input", Utf8.encode emptyBattle,
    Utf8.encode "--templates", Utf8.encode "t", Utf8.encode "--settings=t/settings"]

/-- The preferences that they name. -/
def askingPreferences : Preferences :=
  { Preferences.usual with keyVariable := "KEY", address := "http://a" }

/-- The templates that they name. -/
def askingTemplates : Templates :=
  ⟨"Rules", "$\x7b\x7b PLAYER \x7d\x7d: $\x7b\x7bINPUT\x7d\x7d"⟩

/-- Files with the preferences and the templates, and some others. -/
def askingFiles (others : Entries) : FileSystem where
  top := .directory <| (Utf8.encode "t", .directory [
    (Utf8.encode "settings",
      .file (Utf8.encode "\x7b\"api_key_env\":\"KEY\",\"base_url\":\"http://a\"\x7d")),
    (Utf8.encode "context.md", .file (Utf8.encode askingTemplates.context)),
    (Utf8.encode "prompt.md", .file (Utf8.encode askingTemplates.prompt))]) :: others
  current := []

/-- A response that has a text as its body. -/
def textResponse (text : String) : Http.Reaction :=
  .respond ⟨200, [], Utf8.encode text, true⟩

/-- Surroundings in which a network answers the question. -/
def askingSurroundings (environment : Environment) (others : Entries) : Surroundings where
  environment := environment
  files := askingFiles others
  executable := .ofString "bin/advisor"
  network := .scripted [
    textResponse "\x7b\"name\":\"models/m\"\x7d", textResponse "\x7b\x7d",
    textResponse "\x7b\"name\":\"cachedContents/1\"\x7d",
    textResponse
      "\x7b\"candidates\":[\x7b\"content\":\x7b\"parts\":[\x7b\"text\":\"go\"\x7d]\x7d\x7d]\x7d"]

theorem read_askingWords : Arguments.read askingWords = .ok askingArguments :=
  eq_ok_of_toOption (by decide +kernel)

/-- What is produced with a key in the environment of the process. -/
def askingProduce : Produce where
  arguments := askingArguments
  question := emptyQuestion
  environment := ⟨[("KEY", "k3y")]⟩
  preferences := askingPreferences
  templates := askingTemplates
  client := ⟨"k3y", "http://a"⟩

/-- Surroundings with a key in the environment of the process. -/
def keySurroundings : Surroundings :=
  askingSurroundings ⟨[("KEY", "k3y")]⟩ []

theorem passes_asking : Passes askingWords keySurroundings askingProduce where
  arguments := read_askingWords
  question := eq_ok_of_toOption (by decide +kernel)
  environment := eq_ok_of_toOption (by decide +kernel)
  preferences := eq_ok_of_toOption (by decide +kernel)
  templates := eq_ok_of_toOption (by decide +kernel)
  key := eq_ok_of_toOption (by decide +kernel)
  choices := eq_ok_of_toOption (by decide +kernel)

theorem advised_asking :
    ((askingProduce.advised keySurroundings).1.toOption,
      (askingProduce.advised keySurroundings).2.remote.sent.map (·.method)) =
        (some "go", [.get, .get, .post, .post]) := by
  decide +kernel

/-- A run that shows an advice, behind four requests. -/
theorem run_asking :
    (run askingWords keySurroundings).Shows "go" ∧
    (run askingWords keySurroundings).sent.map (·.method) = [.get, .get, .post, .post] := by
  obtain ⟨called, sent⟩ := Prod.mk.inj advised_asking
  have called : askingProduce.called keySurroundings = .ok "go" := by
    rw [Produce.called]
    exact eq_ok_of_toOption called
  rw [← sent_of_passes passes_asking] at sent
  exact ⟨(run_contract _ _).decided "go" ⟨_, passes_asking, called⟩, sent⟩

/-- Surroundings without a key, and with an environment file in which a value has a zero
character. -/
def brokenSurroundings : Surroundings :=
  askingSurroundings ⟨[]⟩ [(Utf8.encode ".env", .file (Utf8.encode "X=a\x00b"))]

/-- The program breaks down over the environment file, and does not report that the key is missing.
And arguments that ask for help by a letter are answered with the manual. -/
theorem run_broken :
    Arguments.read askingWords = .ok askingArguments ∧
    askedQuestion askingArguments brokenSurroundings.files = .ok emptyQuestion ∧
    chosenPreferences askingArguments brokenSurroundings.files = .ok askingPreferences ∧
    chosenTemplates askingArguments brokenSurroundings.files = .ok askingTemplates ∧
    brokenSurroundings.environment.get? "KEY" = none ∧
    (run askingWords brokenSurroundings).status = 101 ∧
    (run askingWords brokenSurroundings).report = [] ∧
    (run [Utf8.encode "-h"] brokenSurroundings).status = 0 ∧
    (run [Utf8.encode "-h"] brokenSurroundings).output = Manual.text false :=
  ⟨read_askingWords, eq_ok_of_toOption (by decide +kernel), eq_ok_of_toOption (by decide +kernel),
    eq_ok_of_toOption (by decide +kernel), by decide +kernel, by decide +kernel, by decide +kernel,
    by decide +kernel, by decide +kernel⟩

end BattleAdvisor.CommandLine
