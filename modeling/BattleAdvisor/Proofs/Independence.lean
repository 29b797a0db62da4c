import BattleAdvisor.Advice.CommonTypes
import BattleAdvisor.Proofs.Failures
import BattleAdvisor.Proofs.Offers
import BattleAdvisor.Remote.Store

/-!
# What a run does not depend on

A note of the prompt is taken before the data directory is walked, so that it may change what the
walk meets. It does not change what the walk offers: no data file has the name of the note
(`Preferences.selects_prompt`), and a directory has nothing to offer.

* `advise_any_battle`: what is provided does not depend on the player and the battle, wherever the
  prompt is noted.
* `advise_any_notes`: a run does not depend on where notes are taken, as far as no directory made
  for them has a path too long to be walked.
-/

namespace BattleAdvisor

/-! ## The note of the prompt -/

/-- The name of the note of the prompt. -/
def promptName : Name := Utf8.encode "prompt"

theorem ordinary_promptName : promptName.Ordinary :=
  ⟨by decide, by decide, by decide, by decide⟩

/-- A note of the prompt is no data file. -/
theorem Preferences.selects_prompt (preferences : Preferences) {p : Path} (given : p.bytes ≠ []) :
    preferences.selects (p.join ⟨promptName⟩) = false := by
  have bare : Path.nameExtension? promptName = none := by decide
  rw [selects, Path.extension?, Path.fileName?_join given ordinary_promptName, Option.bind_some,
    bare]
  simp

namespace Advisor

open Provision

variable {σ : Type} {advisor advisor' : Advisor σ} {question question' : Question}
  {files files' : FileSystem} {exchanges : List Exchange}

/-- Directories are made for the note of a prompt, whatever the prompt, and it does not matter for a
walk whether the prompt is written there. -/
theorem exists_dug (advisor : Advisor σ) (plain : files.top.Plain) :
    ∃ between, files.Dug between ∧ ∀ question dir location, between.DirectoryAt dir location →
      (advisor.filesAfterPrompt question files).top.Plain ∧
      (advisor.filesAfterPrompt question files).DirectoryAt dir location ∧
      (advisor.filesAfterPrompt question files).offers advisor.preferences.selects dir =
        between.offers advisor.preferences.selects dir ∧
      between.walk dir ⊆ (advisor.filesAfterPrompt question files).walk dir := by
  have ordinary : Name.Ordinary (Utf8.encode "prompt") := ordinary_promptName
  obtain ⟨between, dug, noted⟩ := Notes.exists_dug advisor.notes ordinary plain
  refine ⟨between, dug, fun question dir location at' => ?_⟩
  unfold filesAfterPrompt
  have plain' := dug.plain plain
  rcases noted with same | ⟨around, room, set⟩
  · rw [same]
    exact ⟨plain', at', rfl, List.Subset.refl _⟩
  · rw [set]
    obtain ⟨entries, inside, -⟩ := id room
    exact ⟨plain'.put inside ordinary_promptName (.file _), at'.put room _,
      FileSystem.offers_put_file plain' at' room ordinary_promptName
        (fun p given => advisor.preferences.selects_prompt given) _,
      FileSystem.walk_subset_put plain' at' room ordinary_promptName (.file _)⟩

section

variable [MediaTypes]

/-! ## Runs that provide the same -/

/-- Two runs provide the same: they differ in the player, the battle and the files at most. -/
structure Alike (advisor : Advisor σ) (question : Question) (files : FileSystem)
    (advisor' : Advisor σ) (question' : Question) (files' : FileSystem) : Prop where
  service : advisor'.service = advisor.service
  preferences : advisor'.preferences = advisor.preferences
  templates : advisor'.templates = advisor.templates
  check : question'.check = question.check
  useCache : question'.useCache = question.useCache
  provided : FilesCourse advisor question files = FilesCourse advisor' question' files'

/-- The request with the prompt of another question. -/
def withPrompt (advisor : Advisor σ) (question : Question) (request : ModelRequest) :
    ModelRequest :=
  { request with prompt := advisor.promptOf question }

theorem ContextCourse.transfer (alike : Alike advisor question files advisor' question' files')
    {model : String} {uploads : List UploadedFile}
    {result : Except AdviceError (Option ContentCache)}
    (course : ContextCourse advisor question model uploads exchanges result) :
    ContextCourse advisor' question' model uploads exchanges result := by
  have request : advisor'.cacheRequest model uploads = advisor.cacheRequest model uploads := by
    rw [cacheRequest, cacheRequest, alike.preferences, alike.templates]
  cases course with
  | provided wanted cache =>
    exact .provided (alike.useCache.trans wanted) (request ▸ cache)
  | unwanted unwanted => exact .unwanted (alike.useCache.trans unwanted)

/-- Alike runs prepare the same request, up to its prompt. -/
theorem PrepareCourse.transfer (alike : Alike advisor question files advisor' question' files')
    {result : Except AdviceError ModelRequest}
    (course : PrepareCourse advisor question files exchanges result) :
    PrepareCourse advisor' question' files' exchanges
      (result.map (advisor'.withPrompt question')) := by
  cases course with
  | rejected unfit => exact .rejected (alike.check.trans unfit)
  | noModel fit error =>
    rw [← alike.preferences]
    exact .noModel (alike.check.trans fit) error
  | provided fit card course =>
    rw [← alike.preferences]
    refine .provided (alike.check.trans fit) card ?_
    cases course with
    | noFiles provided => exact .noFiles (alike.provided ▸ provided)
    | noCache provided context =>
      exact .noCache (alike.provided ▸ provided) (context.transfer alike)
    | formed provided context =>
      have formed := RequestCourse.formed (alike.provided ▸ provided) (context.transfer alike)
      rw [alike.templates] at formed
      exact formed

/-- Runs that walk a directory with the same offers are alike. -/
theorem filesCourse_of_offers (preferences : advisor'.preferences = advisor.preferences)
    (directory : question'.dataDirectory? = question.dataDirectory?)
    (useDataFiles : question'.useDataFiles = question.useDataFiles)
    (same : ∀ dir, question.dataDirectory? = some dir →
      files.offers advisor.preferences.selects dir =
        files'.offers advisor.preferences.selects dir) :
    FilesCourse advisor question files = FilesCourse advisor' question' files' := by
  by_cases unwanted : question.dataDirectory? = none ∨ question.useDataFiles = false
  · rw [filesCourse_unwanted unwanted, filesCourse_unwanted (directory ▸ useDataFiles ▸ unwanted)]
  · obtain ⟨dir, given⟩ := Option.ne_none_iff_exists'.mp fun h => unwanted (.inl h)
    have wanted : question.useDataFiles = true := by simpa using fun h => unwanted (.inr h)
    rw [filesCourse_wanted given wanted, filesCourse_wanted (directory.trans given)
      (useDataFiles.trans wanted), preferences]
    exact visitsCourse_of_offers (same dir given)

end

/-! ## A data directory -/

/-- A directory, spelled with slashes at the end. -/
def dataDir (count : Nat) : Path :=
  ⟨[0x64] ++ List.replicate count Path.slash⟩

/-- The entries of that directory, and nothing else. -/
def dataFiles (inside : Entries) : FileSystem :=
  ⟨.directory [([0x64], .directory inside)], []⟩

/-- The name of a directory for notes. -/
def runName : Name := Utf8.encode "notes-of-the-run"

theorem length_dataDir (count : Nat) : (dataDir count).bytes.length = count + 1 := by
  simp [dataDir]

theorem directoryAt_dataDir {count : Nat} (short : count < pathLimit) (inside : Entries) :
    (dataFiles inside).DirectoryAt (dataDir count) [[0x64]] where
  checked := by
    have clean : (dataDir count).bytes.contains 0 = false := by simp [dataDir, Path.slash]
    rw [FileSystem.checkPath, clean, length_dataDir, if_neg Bool.false_ne_true,
      if_neg (by simp [dataDir]), if_neg (Nat.not_lt.mpr short)]
  leads := by
    rw [dataDir, Path.names_slashes]
    exact .entered rfl (by decide) (by decide) (by decide) rfl (.arrived _)
  there := ⟨inside, rfl⟩

theorem plain_dataFiles {inside : Entries} (plain : (Node.directory inside).Plain) :
    (dataFiles inside).top.Plain :=
  .single ⟨by decide, by decide, by decide, by decide⟩ plain

theorem ordinary_runName : runName.Ordinary :=
  ⟨by decide, by decide, by decide, by decide⟩

/-- Notes in a directory below that directory. -/
def innerNotes : Notes :=
  .inDirectory (Path.join ⟨[0x64]⟩ ⟨runName⟩)

/-- A question about the data files of the directory. -/
def dataQuestion (player : String) (count : Nat) (useDataFiles : Bool) : Question :=
  ⟨player, Battle.leastBattle.write, true, some (dataDir count), useDataFiles⟩

/-- An advisor with a service in memory. -/
def storeAdvisor (notes : Notes) : Advisor Store :=
  ⟨Store.service, .usual, ⟨"c", "p"⟩, notes⟩

/-- A store with one reply. -/
def oneReply : Store :=
  ⟨[], [], none, [⟨some "go", .null⟩], [], true, []⟩

theorem accepted_dataQuestion {player : String}
    (named : Battle.readPlayer (some player) = .ok player) {count : Nat}
    (short : count < pathLimit) {inside : Entries} (plain : (Node.directory inside).Plain)
    (useDataFiles : Bool) :
    Question.make (dataFiles inside) (some player) (some Battle.leastBattle.write) true
      (some (dataDir count)) useDataFiles = .ok (dataQuestion player count useDataFiles) :=
  have at' := directoryAt_dataDir short inside
  Battle.make_of_isDirectory named Battle.readBattle_leastBattle at'.given
    (at'.isDirectory (plain_dataFiles plain)) true useDataFiles

/-- One data file. -/
def movesFile : Entries := [(Utf8.encode "moves.json", .file [0x31])]

theorem plain_movesFile : (Node.directory movesFile).Plain :=
  .single ⟨by decide, by decide, by decide, by decide⟩ (.file _)

theorem readPlayer_p1 : Battle.readPlayer (some "p1") = .ok "p1" := by
  rw [Battle.readPlayer, if_neg (by decide), if_pos (by decide)]

theorem readPlayer_p2 : Battle.readPlayer (some "p2") = .ok "p2" := by
  rw [Battle.readPlayer, if_neg (by decide), if_pos (by decide)]

/-! ## Battles -/

/-- The exchanges are the same, or they are the same up to the last one, which asks for advice with
another prompt. -/
inductive SameButPrompt : List Exchange → List Exchange → Prop
  | early {exchanges : List Exchange} (unasked : .generate ∉ operations exchanges) :
      SameButPrompt exchanges exchanges
  | asked {exchanges : List Exchange} (unasked : .generate ∉ operations exchanges) (model : String)
      (config : ContextSource) (prompt prompt' : String)
      (answer answer' : Except ServiceError ModelReply) :
      SameButPrompt (exchanges ++ [⟨.generate ⟨model, prompt, config⟩, answer⟩])
        (exchanges ++ [⟨.generate ⟨model, prompt', config⟩, answer'⟩])

/-- Having the model generate is one exchange. -/
theorem generate_goes (advisor : Advisor σ) (request : ModelRequest) (world : World σ) :
    ∃ result next answer, (advisor.generate request).start world = (result, next) ∧
      world.Goes advisor.service [⟨.generate request, answer⟩] next := by
  unfold generate
  rw [Action.start_bind_ok (Action.start_report ..)]
  obtain ⟨answer, next, asked, goes, -⟩ :=
    Action.start_callAs_goes (fun error => .generationFailed error.message) advisor.service
      (.generate request) { world with log := world.log ++ [⟨.info, "Generating content..."⟩] }
  rw [Action.start_bind, asked]
  cases answer with
  | error error => exact ⟨_, next, _, rfl, ⟨goes.recorded, goes.served⟩⟩
  | ok reply =>
    simp only [mapError_ok]
    rw [Action.start_bind_ok (Notes.start_take ..), Action.start_ofExcept]
    exact ⟨_, _, _, rfl, ⟨goes.recorded, goes.served⟩⟩

section

variable [MediaTypes]

/-- Alike runs say the same up to the prompt. -/
theorem Alike.sameButPrompt {remote : σ}
    (alike : Alike advisor question (advisor.filesAfterPrompt question files)
      advisor' question' (advisor'.filesAfterPrompt question' files')) :
    SameButPrompt ((advisor.advise question).start (.start remote files)).2.exchanges
      ((advisor'.advise question').start (.start remote files')).2.exchanges := by
  obtain ⟨result, next, exchanges, run, goes, course⟩ :=
    advisor.prepare_course question (.start remote files)
  have unasked := course.generate_notMem
  have served : advisor'.service.Served remote exchanges next.remote := alike.service ▸ goes.served
  obtain ⟨next', run', goes', -⟩ :=
    @prepare_of_course _ _ advisor' question' (.start remote files') _ _ _ (course.transfer alike)
      served
  unfold advise
  rw [Action.start_bind, Action.start_bind, run, run']
  have recorded : next.exchanges = exchanges := goes.recorded
  have recorded' : next'.exchanges = exchanges := goes'.recorded
  cases result with
  | error error =>
    simp only [Except.map, recorded, recorded']
    exact .early unasked
  | ok request =>
    obtain ⟨result, last, answer, asked, gone⟩ := advisor.generate_goes request next
    obtain ⟨result', last', answer', asked', gone'⟩ :=
      advisor'.generate_goes (advisor'.withPrompt question' request) next'
    simp only [Except.map, asked, asked', gone.recorded, gone'.recorded, recorded, recorded']
    exact .asked unasked request.model request.config _ _ answer answer'

/-- **What is provided does not depend on the battle.** Two questions that differ in the player and
the battle lead to the same exchanges up to the call for advice, and in that call to the same model
with the same configuration. -/
theorem advise_any_battle (advisor : Advisor σ) (remote : σ) {files : FileSystem}
    (plain : files.top.Plain) {player? player?' battle? battle?' : Option String} {useCache : Bool}
    {dataDirectory? : Option Path} {useDataFiles : Bool}
    (accepted : Question.make files player? battle? useCache dataDirectory? useDataFiles =
      .ok question)
    (accepted' : Question.make files player?' battle?' useCache dataDirectory? useDataFiles =
      .ok question') :
    SameButPrompt ((advisor.advise question).start (.start remote files)).2.exchanges
      ((advisor.advise question').start (.start remote files)).2.exchanges := by
  have made := Battle.of_make accepted
  have made' := Battle.of_make accepted'
  have given : question'.dataDirectory? = question.dataDirectory? :=
    made'.given.trans made.given.symm
  have wanted : question'.useDataFiles = question.useDataFiles :=
    made'.wanted.trans made.wanted.symm
  have cached : question'.useCache = question.useCache := made'.cached.trans made.cached.symm
  obtain ⟨between, dug, noted⟩ := advisor.exists_dug plain
  refine Alike.sameButPrompt ⟨rfl, rfl, rfl, ?_, cached, ?_⟩
  · rw [Question.check, Question.check, cached, given, wanted]
  · refine filesCourse_of_offers rfl given wanted ?_
    intro dir same
    obtain ⟨location, at'⟩ :=
      FileSystem.exists_directoryAt plain (made.found dir (made.given.symm.trans same))
    have at'' := dug.directoryAt at'
    rw [(noted question dir location at'').2.2.1, (noted question' dir location at'').2.2.1]

end

/-- Two players ask about the same data files; the prompts are noted in the directory of these. -/
theorem advise_two_players :
    SameButPrompt
      (((storeAdvisor innerNotes).advise (dataQuestion "p1" 0 true)).start
        (.start oneReply (dataFiles movesFile))).2.exchanges
      (((storeAdvisor innerNotes).advise (dataQuestion "p2" 0 true)).start
        (.start oneReply (dataFiles movesFile))).2.exchanges :=
  advise_any_battle (storeAdvisor innerNotes) oneReply (plain_dataFiles plain_movesFile)
    (accepted_dataQuestion readPlayer_p1 (by decide) plain_movesFile true)
    (accepted_dataQuestion readPlayer_p2 (by decide) plain_movesFile true)

/-! ## Notes -/

/-- Two runs have the same result and the same exchanges. -/
def Agree {τ α : Type} (run run' : Except AdviceError α × World τ) : Prop :=
  run.1 = run'.1 ∧ run.2.exchanges = run'.2.exchanges

/-- The advisor with notes in another place. -/
def noting (advisor : Advisor σ) (notes : Notes) : Advisor σ :=
  { advisor with notes := notes }

/-- A note of the prompt does not hinder the walk through the data directory: that fails only where
it failed before. -/
def Unhindered (advisor : Advisor σ) (question : Question) (files : FileSystem) : Prop :=
  ∀ dir, question.dataDirectory? = some dir → ∀ error,
    .error error ∈ (advisor.filesAfterPrompt question files).walk dir →
      .error error ∈ files.walk dir

/-- Notes do not hinder a walk that meets no path too long. -/
theorem unhindered_of_short (plain : files.top.Plain)
    (found : ∀ dir, question.dataDirectory? = some dir → files.isDirectory dir = true)
    (short : ∀ dir, question.dataDirectory? = some dir → ∀ path,
      .ok path ∈ (advisor.filesAfterPrompt question files).walk dir →
        path.bytes.length ≤ pathLimit) : Unhindered advisor question files := by
  intro dir given error failed
  obtain ⟨location, at'⟩ := FileSystem.exists_directoryAt plain (found dir given)
  obtain ⟨between, dug, noted⟩ := advisor.exists_dug plain
  obtain ⟨plain', at'', -⟩ := noted question dir location (dug.directoryAt at')
  exact absurd failed
    (FileSystem.error_notMem_walk (at''.isDirectory plain') (short dir given) error)

section

variable [MediaTypes]

/-- Alike runs with the same prompt agree. -/
theorem Alike.agree {remote : σ}
    (alike : Alike advisor question (advisor.filesAfterPrompt question files)
      advisor' question' (advisor'.filesAfterPrompt question' files'))
    (prompt : advisor'.promptOf question' = advisor.promptOf question) :
    Agree ((advisor.advise question).start (.start remote files))
      ((advisor'.advise question').start (.start remote files')) := by
  obtain ⟨result, next, exchanges, run, goes, course⟩ :=
    advisor.advise_course question (.start remote files)
  have served : advisor'.service.Served remote exchanges next.remote := alike.service ▸ goes.served
  have same {exchanges : List Exchange} {request : ModelRequest}
      (prepared : PrepareCourse advisor question (advisor.filesAfterPrompt question files) exchanges
        (.ok request)) : advisor'.withPrompt question' request = request := by
    obtain ⟨_, _, _, _, -, -, -, formed, -⟩ := prepared.formed
    rw [withPrompt, prompt, ← formed]
  have course' : Course advisor' question' (advisor'.filesAfterPrompt question' files') exchanges
      result := by
    cases course with
    | unprepared prepared => exact .unprepared (prepared.transfer alike)
    | refused prepared error =>
      exact .refused (same prepared ▸ prepared.transfer alike) error
    | generated prepared reply =>
      exact .generated (same prepared ▸ prepared.transfer alike) reply
  obtain ⟨next', run', goes', -⟩ :=
    advisor'.advise_of_course (.start remote files') course' served
  rw [run, run']
  exact ⟨rfl, goes.recorded.trans goes'.recorded.symm⟩

/-- **A run does not depend on its notes.** It has the same result and the same exchanges wherever
notes are taken, if they do not hinder the walk through the data directory. Without data files, the
result and the exchanges do not depend on the files and the data directory either. -/
theorem advise_any_notes (advisor : Advisor σ) (notes' : Notes) (remote : σ) {files : FileSystem}
    {player? battle? : Option String} {useCache : Bool} {dataDirectory? : Option Path}
    {useDataFiles : Bool}
    (accepted : Question.make files player? battle? useCache dataDirectory? useDataFiles =
      .ok question) :
    (files.top.Plain → Unhindered advisor question files →
      Unhindered (advisor.noting notes') question files →
        Agree ((advisor.advise question).start (.start remote files))
          (((advisor.noting notes').advise question).start (.start remote files))) ∧
    (useDataFiles = false → ∀ files' dataDirectory?' question',
      Question.make files' player? battle? useCache dataDirectory?' useDataFiles = .ok question' →
        Agree ((advisor.advise question).start (.start remote files))
          (((advisor.noting notes').advise question').start (.start remote files'))) := by
  have made := Battle.of_make accepted
  constructor
  · intro plain calm calm'
    -- With either notes, the walk offers what it offers without any.
    have offered (advisor : Advisor σ) (calm : Unhindered advisor question files) (dir : Path)
        (given : question.dataDirectory? = some dir) :
        (advisor.filesAfterPrompt question files).offers advisor.preferences.selects dir =
          files.offers advisor.preferences.selects dir := by
      obtain ⟨location, at'⟩ :=
        FileSystem.exists_directoryAt plain (made.found dir (made.given.symm.trans given))
      obtain ⟨between, dug, noted⟩ := advisor.exists_dug plain
      obtain ⟨-, -, same, grown⟩ := noted question dir location (dug.directoryAt at')
      rw [same]
      exact dug.offers_eq plain at' fun error failed => calm dir given error (grown failed)
    refine Alike.agree ⟨rfl, rfl, rfl, rfl, rfl, ?_⟩ rfl
    refine filesCourse_of_offers rfl rfl rfl fun dir given => ?_
    exact (offered advisor calm dir given).trans
      (offered (advisor.noting notes') calm' dir given).symm
  · intro without files' dataDirectory?' question' accepted'
    have made' := Battle.of_make accepted'
    have unwanted : question.useDataFiles = false := made.wanted.trans without
    have unwanted' : question'.useDataFiles = false := made'.wanted.trans without
    have player : question'.player = question.player :=
      Except.ok.inj (made'.player.symm.trans made.player)
    have battle : question'.battle = question.battle :=
      Except.ok.inj (made'.battle.symm.trans made.battle)
    refine Alike.agree ⟨rfl, rfl, rfl, ?_, made'.cached.trans made.cached.symm, ?_⟩ ?_
    · rw [Question.check, Question.check, unwanted, unwanted']
      rfl
    · rw [filesCourse_unwanted (.inr unwanted), filesCourse_unwanted (.inr unwanted')]
    · rw [promptOf, promptOf, player, battle]
      rfl

end

/-- Notes in the data directory, or none, make no difference to the data file there; without data
files, it may as well not be there. -/
theorem advise_innerNotes_short :
    (∀ notes, notes = .off ∨ notes = innerNotes →
      Unhindered (storeAdvisor notes) (dataQuestion "p1" 0 true) (dataFiles movesFile)) ∧
    Agree
      (((storeAdvisor .off).advise (dataQuestion "p1" 0 true)).start
        (.start oneReply (dataFiles movesFile)))
      (((storeAdvisor innerNotes).advise (dataQuestion "p1" 0 true)).start
        (.start oneReply (dataFiles movesFile))) ∧
    Agree
      (((storeAdvisor .off).advise (dataQuestion "p1" 0 false)).start
        (.start oneReply (dataFiles movesFile)))
      (((storeAdvisor innerNotes).advise (dataQuestion "p1" 1 false)).start
        (.start oneReply (dataFiles []))) := by
  have plain : (dataFiles movesFile).top.Plain := plain_dataFiles plain_movesFile
  have calm : ∀ notes, notes = .off ∨ notes = innerNotes →
      Unhindered (storeAdvisor notes) (dataQuestion "p1" 0 true) (dataFiles movesFile) := by
    intro notes known
    refine unhindered_of_short plain ?_ ?_
    · rintro dir ⟨⟩
      exact (directoryAt_dataDir (by decide) movesFile).isDirectory plain
    · rintro dir ⟨⟩ path met
      refine Visit.length_le_of_all ?_ met
      rcases known with rfl | rfl <;> decide +kernel
  have accepted (useDataFiles : Bool) :=
    accepted_dataQuestion readPlayer_p1 (by decide : 0 < pathLimit) plain_movesFile useDataFiles
  have noted := advise_any_notes (storeAdvisor .off) innerNotes oneReply (accepted true)
  have without := advise_any_notes (storeAdvisor .off) innerNotes oneReply (accepted false)
  exact ⟨calm, noted.1 plain (calm .off (.inl rfl)) (calm innerNotes (.inr rfl)),
    without.2 rfl (dataFiles []) (some (dataDir 1)) (dataQuestion "p1" 1 false)
      (accepted_dataQuestion readPlayer_p1 (by decide) .empty false)⟩

/-! ### A directory that is too long to be walked -/

/-- A note in a new directory makes the directory and a file in it. -/
theorem write_dataFiles (content : String) :
    (innerNotes.write "prompt" content (dataFiles [])).1 =
      dataFiles [(runName, .directory [(promptName, .file (Utf8.encode content))])] := by
  have vacant : (dataFiles []).place false (Path.join ⟨[0x64]⟩ ⟨runName⟩)
      (Path.join ⟨[0x64]⟩ ⟨runName⟩).names = .ok (.vacant [[0x64]] runName) := by decide +kernel
  have made : (dataFiles []).makeDirectory (Path.join ⟨[0x64]⟩ ⟨runName⟩) =
      .ok (dataFiles [(runName, .directory [])]) :=
    FileSystem.makeDirectory_of_vacant vacant
  have vacant' : (dataFiles [(runName, .directory [])]).place true
      ((Path.join ⟨[0x64]⟩ ⟨runName⟩).join ⟨promptName⟩)
      ((Path.join ⟨[0x64]⟩ ⟨runName⟩).join ⟨promptName⟩).names =
        .ok (.vacant [[0x64], runName] promptName) := by decide +kernel
  have written : (dataFiles [(runName, .directory [])]).write
      ((Path.join ⟨[0x64]⟩ ⟨runName⟩).join ⟨promptName⟩) (Utf8.encode content) =
        .ok (dataFiles [(runName, .directory [(promptName, .file (Utf8.encode content))])]) :=
    FileSystem.write_of_vacant (by decide) vacant' _
  have files : (dataFiles []).makeDirectories (Path.join ⟨[0x64]⟩ ⟨runName⟩) =
      (.ok (), dataFiles [(runName, .directory [])]) := by
    rw [FileSystem.makeDirectories, FileSystem.makeDirectoriesFrom, if_neg (by decide), made]
  have noted : Notes.writeFile (dataFiles []) (Path.join ⟨[0x64]⟩ ⟨runName⟩) "prompt" content =
      (.ok (), dataFiles [(runName, .directory [(promptName, .file (Utf8.encode content))])]) := by
    rw [Notes.writeFile, files]
    dsimp only
    rw [Path.ofString, ← promptName, written]
  rw [innerNotes, Notes.write, Notes.inDirectory]
  dsimp only
  rw [noted]

/-- Without notes the walk meets the directory, and nothing else. -/
theorem walkable_dataQuestion : Walkable (dataQuestion "p1" 4083 true) (dataFiles []) := by
  have at' : (dataFiles []).DirectoryAt (dataDir 4083) [[0x64]] :=
    directoryAt_dataDir (by decide) []
  have walked : (dataFiles []).walk (dataDir 4083) = [.ok (dataDir 4083)] := by
    rw [FileSystem.walk_directoryAt (plain_dataFiles .empty) at' rfl, Node.visitsAt,
      Node.visitsBelow_directory, length_dataDir, if_neg (by decide), Node.visitsOfEntries_nil]
  rintro dir ⟨⟩ error
  rw [walked]
  simp

/-- With notes in a new directory the walk comes to a directory whose path is too long. -/
theorem advise_innerNotes : ∃ error,
    (((storeAdvisor innerNotes).advise (dataQuestion "p1" 4083 true)).start
      (.start oneReply (dataFiles []))).1 = .error (.io error) := by
  let prompt := (storeAdvisor innerNotes).promptOf (dataQuestion "p1" 4083 true)
  let inside : Entries := [(runName, .directory [(promptName, .file (Utf8.encode prompt))])]
  let long := (dataDir 4083).join ⟨runName⟩
  let error : IoError := .unwalkable long .nameTooLong
  have noted : (storeAdvisor innerNotes).filesAfterPrompt (dataQuestion "p1" 4083 true)
      (World.start oneReply (dataFiles [])).files = dataFiles inside :=
    write_dataFiles prompt
  have plain : (dataFiles inside).top.Plain :=
    plain_dataFiles (.single ordinary_runName (.single ordinary_promptName (.file _)))
  have at' : (dataFiles inside).DirectoryAt (dataDir 4083) [[0x64]] :=
    directoryAt_dataDir (by decide) inside
  have length : pathLimit < long.bytes.length := by
    refine Nat.lt_of_lt_of_le ?_ (Path.length_join_le at'.given ordinary_runName)
    rw [length_dataDir]
    decide
  have walked : (dataFiles inside).walk (dataDir 4083) =
      [.ok (dataDir 4083), .ok long, .error error] := by
    rw [FileSystem.walk_directoryAt plain at' rfl, Node.visitsAt, Node.visitsBelow_directory,
      length_dataDir, if_neg (by decide), Node.visitsOfEntries_cons, Node.visitsOfEntries_nil,
      Node.visitsAt, Node.visitsBelow_directory, if_pos length]
    rfl
  have visits : VisitsCourse (dataFiles inside)
      (displayName Preferences.usual.filePrefix (dataDir 4083)) Preferences.usual.selects
      ((dataFiles inside).walk (dataDir 4083)) [] (.error (.io error)) := by
    rw [walked]
    refine .passed ?_ (.passed ?_ (.unwalkable _ []))
    · rw [FileSystem.isFile_of_isDirectory (at'.isDirectory plain), Bool.false_and]
    · rw [FileSystem.isFile_of_long length, Bool.false_and]
  let card : ModelCard := ⟨Preferences.usual.model, some 1048576, some 65536⟩
  have course : Course (storeAdvisor innerNotes) (dataQuestion "p1" 4083 true) (dataFiles inside)
      [⟨.getModel Preferences.usual.model, .ok card⟩] (.error (.io error)) :=
    .unprepared (.provided rfl card (.noFiles (.walked rfl rfl visits)))
  have served : Store.service.Served oneReply [⟨.getModel Preferences.usual.model, .ok card⟩]
      { oneReply with history := [.getModel] } :=
    .cons rfl (.nil _)
  rw [← noted] at course
  obtain ⟨next, run, -⟩ := advise_of_course (storeAdvisor innerNotes)
    (.start oneReply (dataFiles [])) course served
  exact ⟨error, by rw [run]⟩

/-- Notes in a new directory can make a run fail that does not fail without notes: from the data
directory, the path of the new directory is too long to be walked. -/
theorem notes_hinder :
    (dataFiles []).top.Plain ∧
    Question.make (dataFiles []) (some "p1") (some Battle.leastBattle.write) true
      (some (dataDir 4083)) true = .ok (dataQuestion "p1" 4083 true) ∧
    ¬ Agree
      (((storeAdvisor .off).advise (dataQuestion "p1" 4083 true)).start
        (.start oneReply (dataFiles [])))
      (((storeAdvisor innerNotes).advise (dataQuestion "p1" 4083 true)).start
        (.start oneReply (dataFiles []))) := by
  refine ⟨plain_dataFiles .empty, accepted_dataQuestion readPlayer_p1 (by decide) .empty true,
    fun agree => ?_⟩
  obtain ⟨error, failed⟩ := advise_innerNotes
  obtain ⟨result, next, exchanges, run, -, course⟩ :=
    (storeAdvisor .off).advise_course (dataQuestion "p1" 4083 true) (.start oneReply (dataFiles []))
  have unchanged : (storeAdvisor .off).filesAfterPrompt (dataQuestion "p1" 4083 true)
      (World.start oneReply (dataFiles [])).files = dataFiles [] := rfl
  rw [unchanged] at course
  have same := agree.1
  rw [run, failed] at same
  cases course.late walkable_dataQuestion same

end Advisor

end BattleAdvisor
