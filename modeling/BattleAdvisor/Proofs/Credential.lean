import BattleAdvisor.Proofs.Http.Plain
import BattleAdvisor.Proofs.Http.Sent
import BattleAdvisor.Proofs.Stages

/-!
# Where the key comes from

The key is the value of a variable. Three sources can define it: the environment of the process, the
environment file next to the program, and the one in the current directory. A file defines what its
lines define up to the first that cannot be read (`Environment.definitions`); the first definition
counts, also if its value is blank (`Surroundings.get?_wholeEnvironment`).

**Theorem (`credential_precedence`).** If everything before the key is in order, a run fails for
want of a key exactly if no source defines the variable or its first value is blank; and all
requests of a run carry the first value, without the blanks around it.
-/

namespace BattleAdvisor

/-! ## Blank texts -/

namespace Text

theorem trimEnd_eq_nil {text : List Char} : trimEnd text = [] ↔ ∀ c ∈ text, isBlank c = true := by
  rw [trimEnd, List.reverse_eq_nil_iff, List.dropWhile_eq_nil_iff]
  simp

theorem forall_trimStart {text : List Char} :
    (∀ c ∈ trimStart text, isBlank c = true) ↔ ∀ c ∈ text, isBlank c = true := by
  induction text with
  | nil => exact Iff.rfl
  | cons c text ih =>
    rw [trimStart, List.dropWhile_cons]
    by_cases blank : isBlank c = true
    · rw [if_pos blank, List.forall_mem_cons, ← ih]
      simp [blank, trimStart]
    · rw [if_neg blank]

/-- Nothing is left of a text exactly if it is blank. -/
theorem trim_eq_empty {text : String} : trim text = "" ↔ ∀ c ∈ text.toList, isBlank c = true := by
  have empty : trim text = "" ↔ trimEnd (trimStart text.toList) = [] := by
    rw [trim]
    simp
  rw [empty, trimEnd_eq_nil, forall_trimStart]

end Text

namespace Environment

open Text

/-! ## Names in lines -/

theorem isNameChar_of_isNameStart {c : Char} (start : isNameStart c = true) :
    isNameChar c = true := by
  unfold isNameStart at start
  unfold isNameChar Char.isAlphanum
  rcases Bool.or_eq_true_iff.mp start with alpha | line
  · simp [alpha]
  · simp [line]

/-- The name that a line begins with can be that of a variable. -/
theorem isName_of_readName {rest rest' : Rest} {name : List Char}
    (read : readName? rest = some (name, rest')) : isName (String.ofList name) = true := by
  unfold readName? at read
  split at read
  next starts =>
    cases read
    have each : ∀ c ∈ rest.text.takeWhile isNameChar, isNameChar c = true := fun c among =>
      List.mem_takeWhile_imp among
    have given : rest.text.takeWhile isNameChar ≠ [] := by
      cases text : rest.text with
      | nil => simp [text] at starts
      | cons c tail =>
        have start : isNameStart c = true := by simpa [text] using starts
        rw [List.takeWhile_cons_of_pos (isNameChar_of_isNameStart start)]
        exact List.cons_ne_nil _ _
    have equals : '=' ∉ rest.text.takeWhile isNameChar := fun among =>
      absurd (each _ among) (by decide)
    have zero : '\x00' ∉ rest.text.takeWhile isNameChar := fun among =>
      absurd (each _ among) (by decide)
    simp only [isName, String.toList_ofList, Bool.and_eq_true, decide_eq_true_eq, ne_eq,
      String.ofList_eq_empty_iff]
    simp [given, equals, zero]
  next => cases read

theorem isName_of_readTarget {rest rest' : Rest} {name : List Char}
    (read : readTarget rest = .ok (name, rest')) : isName (String.ofList name) = true := by
  unfold readTarget at read
  cases named : readName? rest with
  | none =>
    rw [named] at read
    cases read
  | some target =>
    obtain ⟨name', behind⟩ := target
    rw [named] at read
    dsimp only at read
    split at read
    · cases read
      exact isName_of_readName named
    · cases read

theorem isName_of_readHead {rest rest' : Rest} {name : List Char}
    (read : readHead rest = .ok (name, rest')) : isName (String.ofList name) = true := by
  unfold readHead at read
  cases named : readName? rest with
  | none =>
    rw [named] at read
    cases read
  | some target =>
    obtain ⟨name', behind⟩ := target
    rw [named] at read
    dsimp only at read
    split at read
    · cases read
      exact isName_of_readName named
    · split at read
      · exact isName_of_readTarget read
      · cases read

/-- A line defines nothing but what can be a variable. -/
theorem isName_of_readLine {lookup : String → String} {line : List Char} {name value : String}
    (read : readLine lookup line = .ok (some (name, value))) : isName name = true := by
  unfold readLine at read
  dsimp only at read
  split at read
  · cases read
  cases headed : readHead (Rest.mk (trimEnd line) 0).skipBlanks with
  | error position =>
    rw [headed] at read
    cases read
  | ok target =>
    obtain ⟨letters, behind⟩ := target
    rw [headed] at read
    dsimp only at read
    have named := isName_of_readHead headed
    split at read
    · cases read
      exact named
    · split at read <;> cases read
      exact named

/-! ## Definitions in files -/

/-- What lines define, in order, up to the first that cannot be read. A value is read with the
variables that are defined before it. -/
def definitions (environment : Environment) :
    List (Except FileError (List Char)) → List (String × String)
  | [] => []
  | .error _ :: _ => []
  | .ok line :: rest =>
    match readLine (fun name => (environment.get? name).getD "") line with
    | .error _ => []
    | .ok none => definitions environment rest
    | .ok (some (name, value)) =>
      match environment.define name value with
      | .error _ => []
      | .ok environment => (name, value) :: definitions environment rest

/-- What a file defines; nothing if it cannot be read. -/
def fileDefinitions (environment : Environment) (fs : FileSystem) (path : Path) :
    List (String × String) :=
  match fs.read path with
  | .error _ => []
  | .ok content => environment.definitions (wholeLines .closed [] (cutLines [] (dropMark content)))

theorem lookup_cons (name value wanted : String) (rest : List (String × String)) :
    List.lookup wanted ((name, value) :: rest) =
      (if wanted = name then some value else none).or (rest.lookup wanted) := by
  by_cases same : wanted = name
  · rw [if_pos same, same, List.lookup_cons_self, Option.some_or]
  · rw [if_neg same, List.lookup_cons, beq_eq_false_iff_ne.mpr same, Option.none_or]

/-- A definition counts for a variable that has no value yet. -/
theorem get?_define {environment next : Environment} {name value : String}
    (named : isName name = true) (defined : environment.define name value = .ok next)
    (wanted : String) :
    next.get? wanted =
      (environment.get? wanted).or (if wanted = name then some value else none) := by
  unfold define at defined
  cases found : environment.get? name with
  | some old =>
    rw [found] at defined
    cases defined
    by_cases same : wanted = name
    · rw [same, found, Option.some_or]
    · rw [if_neg same, Option.or_none]
  | none =>
    rw [found] at defined
    dsimp only at defined
    split at defined <;> cases defined
    unfold get?
    by_cases named' : isName wanted = true
    · rw [if_pos named', if_pos named', List.lookup_append, lookup_cons]
      simp
    · have other : wanted ≠ name := by
        intro same
        exact named' (same ▸ named)
      rw [if_neg named', if_neg named', if_neg other, Option.or_none]

/-- After lines, a variable has the value that it had, or the first one that they define. -/
theorem get?_takeLines {environment next : Environment}
    {lines : List (Except FileError (List Char))} {error? : Option FileError}
    (taken : environment.takeLines lines = .ok (error?, next))
    (wanted : String) :
    next.get? wanted =
      (environment.get? wanted).or ((environment.definitions lines).lookup wanted) := by
  induction lines generalizing environment with
  | nil =>
    cases taken
    exact Option.or_none.symm
  | cons line rest ih =>
    cases line with
    | error error =>
      cases taken
      exact Option.or_none.symm
    | ok line =>
      rw [takeLines] at taken
      rw [definitions]
      cases read : readLine (fun name => (environment.get? name).getD "") line with
      | error error =>
        rw [read] at taken
        cases taken
        exact Option.or_none.symm
      | ok definition? =>
        rw [read] at taken
        cases definition? with
        | none => exact ih taken
        | some definition =>
          obtain ⟨name, value⟩ := definition
          dsimp only at taken ⊢
          cases defined : environment.define name value with
          | error crash =>
            rw [defined] at taken
            cases taken
          | ok environment =>
            -- What the line defines comes before what later lines define, and behind all else.
            rw [defined] at taken
            dsimp only at taken ⊢
            rw [ih taken, get?_define (isName_of_readLine read) defined, lookup_cons,
              Option.or_assoc]

/-- After a file, a variable has the value that it had, or the first one that the file defines. -/
theorem get?_takeFile {environment next : Environment} {fs : FileSystem} {path : Path}
    {error? : Option FileError} (taken : environment.takeFile fs path = .ok (error?, next))
    (wanted : String) :
    next.get? wanted =
      (environment.get? wanted).or ((environment.fileDefinitions fs path).lookup wanted) := by
  unfold takeFile at taken
  unfold fileDefinitions
  cases read : fs.read path with
  | error error =>
    rw [read] at taken
    cases taken
    exact Option.or_none.symm
  | ok content =>
    rw [read] at taken
    exact get?_takeLines taken wanted

end Environment

namespace CommandLine

open Http (keyName)

/-! ## The three sources -/

/-- Files are taken in turn, whether they are reported or not. -/
theorem exists_takeFile {fs : FileSystem} {path : Path} {rest : List Path}
    {environment final : Environment}
    (taken : (takeFiles fs (path :: rest) environment).1 = .ok final) :
    ∃ error? next, environment.takeFile fs path = .ok (error?, next) ∧
      (takeFiles fs rest next).1 = .ok final := by
  rw [takeFiles] at taken
  cases first : environment.takeFile fs path with
  | error crash =>
    rw [first] at taken
    cases taken
  | ok outcome =>
    obtain ⟨error?, next⟩ := outcome
    rw [first] at taken
    refine ⟨error?, next, rfl, ?_⟩
    cases error? <;> exact taken

namespace Surroundings

variable (surroundings : Surroundings)

/-- The path of the environment file in the current directory. -/
def localFile : Path := .ofString ".env"

/-- The path of the environment file next to the program. -/
def homeFile : Path := surroundings.home.join localFile

/-- What the file next to the program defines. -/
def homeDefinitions : List (String × String) :=
  surroundings.environment.fileDefinitions surroundings.files surroundings.homeFile

/-- What the file in the current directory defines, which is taken after that next to the program,
unless the program has broken down over that one. -/
def localDefinitions : List (String × String) :=
  match surroundings.environment.takeFile surroundings.files surroundings.homeFile with
  | .error _ => []
  | .ok (_, environment) => environment.fileDefinitions surroundings.files localFile

/-- The value of a variable: that in the environment of the process, else the first one in the file
next to the program, else the first one in the file in the current directory. -/
def value? (wanted : String) : Option String :=
  match surroundings.environment.get? wanted, surroundings.homeDefinitions.lookup wanted with
  | some value, _ => some value
  | none, some value => some value
  | none, none => surroundings.localDefinitions.lookup wanted

theorem get?_wholeEnvironment {environment : Environment}
    (taken : surroundings.wholeEnvironment = .ok environment) (wanted : String) :
    environment.get? wanted = surroundings.value? wanted := by
  obtain ⟨_, next, home, taken⟩ := exists_takeFile taken
  obtain ⟨_, last, here, taken⟩ := exists_takeFile taken
  obtain rfl := Except.ok.inj taken
  have home : surroundings.environment.takeFile surroundings.files surroundings.homeFile = _ := home
  have here : next.takeFile surroundings.files localFile = _ := here
  rw [Environment.get?_takeFile here, Environment.get?_takeFile home, value?]
  unfold homeDefinitions localDefinitions
  rw [home]
  cases surroundings.environment.get? wanted with
  | some value => rfl
  | none =>
    cases (surroundings.environment.fileDefinitions surroundings.files
      surroundings.homeFile).lookup wanted <;> rfl

/-- No source defines a variable, or the first value of it is blank. -/
def Lacks (wanted : String) : Prop :=
  ∀ value, surroundings.value? wanted = some value → ∀ c ∈ value.toList, Text.isBlank c = true

end Surroundings

/-! ## What a run sends -/

section

variable [Http.Library] [Http.LawfulLibrary]

/-- Whatever a client's service is called for, all requests carry the key. -/
theorem sent_served {client : Http.Client} {session last : Http.Session}
    {exchanges : List Exchange} (served : client.service.Served session exchanges last)
    (carried : ∀ request ∈ session.sent, request.Carries client.key) :
    ∀ request ∈ last.sent, request.Carries client.key := by
  induction served with
  | nil => exact carried
  | @cons session next _ call outcome _ answered _ ih =>
    -- A session keeps all that was sent, so that the invariant is about the session alone.
    apply ih
    obtain ⟨requests, sent, each⟩ := client.perform_sendsOnly call session
    have same : next.sent = session.sent ++ requests := by
      rw [← sent, ← client.sent_answer, answered]
    rw [same]
    intro request among
    rcases List.mem_append.mp among with among | among
    · exact carried request among
    · exact each request among

variable [MediaTypes] {arguments : List Bytes} {surroundings : Surroundings} {given : Arguments}
  {question : Question} {environment : Environment} {preferences : Preferences}
  {templates : Templates}

theorem sent_advised (produce : Produce) (surroundings : Surroundings) :
    ∀ request ∈ (produce.advised surroundings).2.remote.sent,
      request.Carries produce.client.key := by
  obtain ⟨result, next, exchanges, run, goes, -⟩ :=
    (produce.advisor surroundings).advise_course produce.question
      (.start (.start surroundings.network) surroundings.files)
  rw [Produce.advised, run]
  exact sent_served goes.served (List.forall_mem_nil _)

omit [Http.Library] [Http.LawfulLibrary] [MediaTypes] in
/-- A client has the first value of the variable as its key, without the blanks around it. -/
theorem key_of_ofEnvironment (taken : surroundings.wholeEnvironment = .ok environment)
    {client : Http.Client}
    (found : Http.Client.ofEnvironment preferences environment = .ok client) {value : String}
    (defined : surroundings.value? preferences.keyVariable = some value) :
    client.key = Text.trim value := by
  rw [Http.Client.ofEnvironment, surroundings.get?_wholeEnvironment taken, defined] at found
  dsimp only at found
  split at found <;> cases found
  rfl

/-- What a run sends behind everything that is loaded. -/
theorem sent_run [Manual] (read : Arguments.read arguments = .ok given)
    (loaded : chosenPreferences given surroundings.files = .ok preferences) {value : String}
    (defined : surroundings.value? preferences.keyVariable = some value) :
    ∀ request ∈ (run arguments surroundings).sent, request.Carries (Text.trim value) := by
  intro request among
  obtain ⟨isNamed, asks, -⟩ | verdict := verdict_run arguments surroundings
  · cases read.symm.trans asks
  obtain ⟨produce, passes⟩ := verdict.passes_of_sent (List.ne_nil_of_mem among)
  obtain rfl := Except.ok.inj (read.symm.trans passes.arguments)
  obtain rfl := Except.ok.inj (loaded.symm.trans passes.preferences)
  rw [← key_of_ofEnvironment passes.environment passes.key defined]
  rw [sent_of_passes passes] at among
  exact sent_advised produce surroundings request among

omit [Http.LawfulLibrary] in
/-- The stage of the key fails for want of a key exactly if the sources lack one. -/
theorem fails_key_iff (read : Arguments.read arguments = .ok given)
    (taken : surroundings.wholeEnvironment = .ok environment)
    (loaded : chosenPreferences given surroundings.files = .ok preferences) :
    Fails arguments surroundings .key
        (.credential (.missingCredential preferences.keyVariable)) ↔
      surroundings.Lacks preferences.keyVariable := by
  constructor
  · intro fails value found
    cases fails with
    | key read' taken' loaded' missing =>
      obtain rfl := Except.ok.inj (read.symm.trans read')
      obtain rfl := Except.ok.inj (loaded.symm.trans loaded')
      rw [Http.Client.ofEnvironment, surroundings.get?_wholeEnvironment taken', found] at missing
      dsimp only at missing
      split at missing
      next empty => exact Text.trim_eq_empty.mp empty
      next => cases missing
  · intro lacks
    refine .key read taken loaded ?_
    rw [Http.Client.ofEnvironment, surroundings.get?_wholeEnvironment taken]
    cases found : surroundings.value? preferences.keyVariable with
    | none => rfl
    | some value => exact if_pos (Text.trim_eq_empty.mpr (lacks value found))

/-- **Where the key comes from.** Let everything before the key be in order. If no environment file
breaks the program down, a run fails for want of a key exactly if no source defines the variable, or
the first value of it is blank; it reports that, and nothing is sent. Whatever the first value is,
all requests of the run carry it, without the blanks around it, also those to which responses
lead. -/
theorem credential_precedence [Manual] (read : Arguments.read arguments = .ok given)
    (asked : askedQuestion given surroundings.files = .ok question)
    (loaded : chosenPreferences given surroundings.files = .ok preferences)
    (loaded' : chosenTemplates given surroundings.files = .ok templates) :
    (∀ environment, surroundings.wholeEnvironment = .ok environment →
      (FailsFirst arguments surroundings .key
          (.credential (.missingCredential preferences.keyVariable)) ↔
        surroundings.Lacks preferences.keyVariable) ∧
      (surroundings.Lacks preferences.keyVariable →
        (run arguments surroundings).Reports
          (.credential (.missingCredential preferences.keyVariable)) ∧
        (run arguments surroundings).sent = [])) ∧
    ∀ value, surroundings.value? preferences.keyVariable = some value →
      ∀ request ∈ (run arguments surroundings).sent, request.Carries (Text.trim value) := by
  refine ⟨fun environment taken => ?_, fun value => sent_run read loaded⟩
  have fails_iff := fails_key_iff read taken loaded
  have clear : Clear arguments surroundings Stage.question.place := .behind_arguments read
  have clear := (((clear.behind_question read asked).behind_environment taken).behind_preferences
    read loaded).behind_templates read loaded'
  have first_iff : FailsFirst arguments surroundings .key
      (.credential (.missingCredential preferences.keyVariable)) ↔
        surroundings.Lacks preferences.keyVariable :=
    ⟨fun first => fails_iff.mp first.fails, fun lacks => ⟨fails_iff.mpr lacks, clear⟩⟩
  refine ⟨first_iff, fun lacks => ?_⟩
  have first := first_iff.mpr lacks
  obtain ⟨isNamed, asks, -⟩ | verdict := verdict_run arguments surroundings
  · cases read.symm.trans asks
  cases verdict with
  | failed first' reports silent =>
    obtain ⟨rfl, rfl⟩ := first.unique first'
    exact ⟨reports, silent (by decide)⟩
  | decided decides => exact absurd first.fails decides.not_fails

end

/-- A file next to the program that defines a blank key first, and a file in the current directory
that defines another one. -/
def keyFiles : Entries := [
  (Utf8.encode ".env", .file (Utf8.encode "KEY=k3y\n")),
  (Utf8.encode "bin", .directory [
    (Utf8.encode ".env", .file (Utf8.encode "export KEY=\nKEY=key\n"))])]

/-- The blank key of the file next to the program shadows the others, and is itself shadowed by the
key in the environment of the process, which all four requests of a run carry. -/
theorem credential_shadowed :
    (run askingWords (askingSurroundings ⟨[]⟩ keyFiles)).Reports
      (.credential (.missingCredential "KEY")) ∧
    (run askingWords (askingSurroundings ⟨[]⟩ keyFiles)).sent = [] ∧
    (run askingWords (askingSurroundings ⟨[("KEY", " k3y ")]⟩ keyFiles)).sent.length = 4 ∧
    ∀ request ∈ (run askingWords (askingSurroundings ⟨[("KEY", " k3y ")]⟩ keyFiles)).sent,
      request.Carries "k3y" := by
  have asked : askedQuestion askingArguments (askingFiles keyFiles) = .ok emptyQuestion :=
    eq_ok_of_toOption (by decide +kernel)
  have loaded : chosenPreferences askingArguments (askingFiles keyFiles) = .ok askingPreferences :=
    eq_ok_of_toOption (by decide +kernel)
  have loaded' : chosenTemplates askingArguments (askingFiles keyFiles) = .ok askingTemplates :=
    eq_ok_of_toOption (by decide +kernel)
  have taken : (askingSurroundings ⟨[]⟩ keyFiles).wholeEnvironment = .ok ⟨[("KEY", "")]⟩ :=
    eq_ok_of_toOption (by decide +kernel)
  have shadowing : (askingSurroundings ⟨[]⟩ keyFiles).value? "KEY" = some "" := by
    decide +kernel
  have shadowed : (askingSurroundings ⟨[("KEY", " k3y ")]⟩ keyFiles).value? "KEY" =
      some " k3y " := by
    decide +kernel
  have lacks : (askingSurroundings ⟨[]⟩ keyFiles).Lacks "KEY" := by
    intro value found
    cases shadowing.symm.trans found
    exact List.forall_mem_nil _
  have precedence (environment : Environment) :=
    credential_precedence read_askingWords
      (show askedQuestion _ (askingSurroundings environment keyFiles).files = _ from asked)
      loaded loaded'
  obtain ⟨reports, silent⟩ := ((precedence ⟨[]⟩).1 _ taken).2 lacks
  have carries := (precedence ⟨[("KEY", " k3y ")]⟩).2 " k3y " shadowed
  exact ⟨reports, silent, by decide +kernel, carries⟩

end CommandLine

end BattleAdvisor
