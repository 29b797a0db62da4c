import BattleAdvisor.Proofs.Course
import BattleAdvisor.Proofs.FileSystem.Growth

/-!
# Notes that are taken one after another

A note goes to one file of a directory, which is made if it is missing; if that fails, it is
reported, and the run goes on. `Noted` says what comes of a note, whatever links the file system
has.

**Theorem (`Notes.takeAll_confined`).** However many notes are taken, each one changes nothing but
its file and directories on the way to it, and what has been noted is there until a later note goes
to the same file.
-/

namespace BattleAdvisor

/-- Two paths lead to the same file. -/
def FileSystem.SameFile (fs : FileSystem) (p q : Path) : Prop :=
  ∃ location content, fs.find true p = .ok (location, .file content) ∧
    fs.find true q = .ok (location, .file content)

/-- What comes of a note in a directory: it is written to the file to which its path leads, or one
warning is given. Nothing else changes but directories on the way. -/
inductive Noted (dir : Path) (name content : String) (old new : FileSystem) (log : List LogLine) :
    Prop
  | written {location : Location}
      (succeeds : (Notes.writeFile old dir name content).1 = .ok ())
      (found : new.find true (dir.join (.ofString name)) =
        .ok (location, .file (Utf8.encode content)))
      (confined : FileSystem.Confined dir (some location) old new) (silent : log = [])
  | failed {fault : Fault} (fails : (Notes.writeFile old dir name content).1 = .error fault)
      (confined : FileSystem.Confined dir none old new)
      (warned : log = [⟨.warn, s!"Failed to write debug file {name}: {fault.message}"⟩])

/-- A note, with its name first. -/
abbrev Note := String × String

namespace Notes

variable {σ : Type} {notes : Notes} {dir p : Path} {name content : String} {fs : FileSystem}

/-! ## One note -/

theorem writeFile_confined (ordinary : Name.Ordinary (Utf8.encode name)) (dir : Path)
    (content : String) (fs : FileSystem) :
    (∃ fault new, writeFile fs dir name content = (.error fault, new) ∧
      FileSystem.Confined dir none fs new) ∨
    ∃ location new, writeFile fs dir name content = (.ok (), new) ∧
      new.find true (dir.join (.ofString name)) = .ok (location, .file (Utf8.encode content)) ∧
      FileSystem.Confined dir (some location) fs new := by
  have made := FileSystem.makeDirectories_confined fs dir
  unfold writeFile
  generalize fs.makeDirectories dir = whole at made ⊢
  obtain ⟨result, between⟩ := whole
  cases result with
  | error fault => exact .inl ⟨fault, between, rfl, made⟩
  | ok _ =>
    have ends : (dir.join (.ofString name)).endsInSlash = false := Path.endsInSlash_join ordinary
    have further : (dir.join (.ofString name)).names ≠ [] := by
      intro none
      have final := Path.getLast?_names_join (p := dir) ordinary
      rw [show dir.join ⟨Utf8.encode name⟩ = dir.join (.ofString name) from rfl, none] at final
      cases final
    dsimp only
    rcases FileSystem.write_confined between dir ends further (Utf8.encode content) with
      ⟨fault, stuck⟩ | ⟨location, new, written, found, confined⟩
    · rw [stuck]
      exact .inl ⟨fault, between, rfl, made⟩
    · rw [written]
      exact .inr ⟨location, new, rfl, found, made.trans confined⟩

theorem write_noted (given : notes.dir? = some dir) (ordinary : Name.Ordinary (Utf8.encode name))
    (content : String) (fs : FileSystem) :
    Noted dir name content fs (notes.write name content fs).1 (notes.write name content fs).2 := by
  unfold write
  rw [given]
  dsimp only
  rcases writeFile_confined ordinary dir content fs with
    ⟨fault, new, fails, confined⟩ | ⟨location, new, succeeds, found, confined⟩
  · rw [fails]
    exact .failed (congrArg Prod.fst fails) confined rfl
  · rw [succeeds]
    exact .written (congrArg Prod.fst succeeds) found confined rfl

/-- What a path leads to is there after a note to another file. -/
theorem find_after_noted {location : Location} {kept : Bytes} {log : List LogLine}
    {old new : FileSystem} (noted : Noted dir name content old new log)
    (found : old.find true p = .ok (location, .file kept))
    (spared : ¬ new.SameFile p (dir.join (.ofString name))) :
    new.find true p = .ok (location, .file kept) := by
  have there := (FileSystem.find_eq_ok.mp found).2.2
  cases noted with
  | failed _ confined =>
    exact FileSystem.find_of_grown confined.current confined.grown found
      ((confined.files (by simp)).mpr there)
  | @written target _ found' confined =>
    by_cases same : location = target
    · -- The note went to the file to which the path leads: this is excluded.
      subst same
      have there' := (FileSystem.find_eq_ok.mp found').2.2
      exact absurd ⟨location, _, FileSystem.find_of_grown confined.current confined.grown found
        there', found'⟩ spared
    · exact FileSystem.find_of_grown confined.current confined.grown found
        ((confined.files (by simpa using same)).mpr there)

/-! ## Many notes -/

/-- Takes notes one after another. -/
def takeAll (notes : Notes) : List Note → Action σ Unit
  | [] => pure ()
  | (name, content) :: rest => do
    notes.take name content
    takeAll notes rest

/-- The files after notes. -/
def after (notes : Notes) (fs : FileSystem) (taken : List Note) : FileSystem :=
  taken.foldl (fun fs note => (notes.write note.1 note.2 fs).1) fs

/-- What is reported about notes, one after another. -/
def reported (notes : Notes) : FileSystem → List Note → List LogLine
  | _, [] => []
  | fs, (name, content) :: rest =>
    (notes.write name content fs).2 ++ reported notes (notes.write name content fs).1 rest

/-- None of the notes goes to the file to which a path leads. -/
def Spares (notes : Notes) (dir p : Path) : FileSystem → List Note → Prop
  | _, [] => True
  | fs, (name, content) :: rest =>
    ¬ (notes.write name content fs).1.SameFile p (dir.join (.ofString name)) ∧
      Spares notes dir p (notes.write name content fs).1 rest

theorem start_takeAll (notes : Notes) (taken : List Note) (world : World σ) :
    (notes.takeAll taken).start world = (.ok (), { world with
      files := notes.after world.files taken
      log := world.log ++ notes.reported world.files taken }) := by
  induction taken generalizing world with
  | nil => simp [takeAll, after, reported]
  | cons note rest ih =>
    obtain ⟨name, content⟩ := note
    rw [takeAll, Action.start_bind_ok (start_take ..), ih]
    simp [after, reported]

theorem find_after (given : notes.dir? = some dir) {location : Location} {kept : Bytes}
    {taken : List Note} (ordinary : ∀ note ∈ taken, Name.Ordinary (Utf8.encode note.1))
    (found : fs.find true p = .ok (location, .file kept)) (spared : notes.Spares dir p fs taken) :
    (notes.after fs taken).find true p = .ok (location, .file kept) := by
  induction taken generalizing fs with
  | nil => exact found
  | cons note rest ih =>
    obtain ⟨name, content⟩ := note
    obtain ⟨first, others⟩ := List.forall_mem_cons.mp ordinary
    exact ih others (find_after_noted (write_noted given first content fs) found spared.1) spared.2

theorem after_append (notes : Notes) (fs : FileSystem) (before later : List Note) :
    notes.after fs (before ++ later) = notes.after (notes.after fs before) later :=
  List.foldl_append

/-- No notes are taken if there is no directory for them. -/
theorem after_off (off : notes.dir? = none) (fs : FileSystem) (taken : List Note) :
    notes.after fs taken = fs ∧ notes.reported fs taken = [] := by
  have nothing (name content : String) : notes.write name content fs = (fs, []) := by
    rw [write, off]
  induction taken with
  | nil => exact ⟨rfl, rfl⟩
  | cons note rest ih =>
    obtain ⟨name, content⟩ := note
    simpa [after, reported, nothing] using ih

/-- **Notes that are taken one after another.** No note stops the run, and without a directory for
them nothing changes and nothing is reported. Otherwise each note is written to its file or gives
one warning, and changes nothing else but directories on the way; and what has been written is there
until a later note goes to the same file. -/
theorem takeAll_confined (notes : Notes) {taken : List Note}
    (ordinary : ∀ note ∈ taken, Name.Ordinary (Utf8.encode note.1)) (world : World σ) :
    (notes.takeAll taken).start world = (.ok (), { world with
      files := notes.after world.files taken
      log := world.log ++ notes.reported world.files taken }) ∧
    (notes.dir? = none → notes.after world.files taken = world.files ∧
      notes.reported world.files taken = []) ∧
    ∀ dir, notes.dir? = some dir → ∀ before name content later,
      taken = before ++ (name, content) :: later →
      let old := notes.after world.files before
      let new := (notes.write name content old).1
      Noted dir name content old new (notes.write name content old).2 ∧
      ((writeFile old dir name content).1 = .ok () → ∀ between rest, later = between ++ rest →
        notes.Spares dir (dir.join (.ofString name)) new between →
        (notes.after world.files (before ++ (name, content) :: between)).read
          (dir.join (.ofString name)) = .ok (Utf8.encode content)) := by
  refine ⟨notes.start_takeAll taken world, fun off => after_off off _ _, ?_⟩
  rintro dir given before name content later rfl old new
  have first : Name.Ordinary (Utf8.encode name) := ordinary (name, content) (by simp)
  have noted : Noted dir name content old new (notes.write name content old).2 :=
    write_noted given first content old
  refine ⟨noted, ?_⟩
  rintro succeeds between rest rfl spared
  have later : ∀ note ∈ between, Name.Ordinary (Utf8.encode note.1) := fun note among =>
    ordinary note (by simp [among])
  cases noted with
  | failed fails =>
    rw [fails] at succeeds
    cases succeeds
  | written _ found =>
    have kept := find_after given later found spared
    have same : notes.after world.files (before ++ (name, content) :: between) =
        notes.after new between := after_append notes _ _ _
    rw [same, FileSystem.read, FileSystem.stat, kept]
    rfl

/-- A file system in which a link leads to a directory, and another one nowhere. -/
def linkedFiles : FileSystem where
  top := .directory [
    (Utf8.encode "d", .directory [(Utf8.encode "response", .link (.ofString "../lost"))]),
    (Utf8.encode "l", .link (.ofString "d"))]
  current := []

/-- Notes that go through the first link. -/
def linkedNotes : Notes := .inDirectory (.ofString "l/.debug/..")

/-- A prompt and a response. -/
def bothNotes : List Note := [("prompt", "p"), ("response", "r")]

theorem ordinary_bothNotes : ∀ note ∈ bothNotes, Name.Ordinary (Utf8.encode note.1) := by
  have prompt : Name.Ordinary (Utf8.encode "prompt") :=
    ⟨by decide, by decide, by decide, by decide⟩
  have response : Name.Ordinary (Utf8.encode "response") :=
    ⟨by decide, by decide, by decide, by decide⟩
  simpa [bothNotes] using ⟨prompt, response⟩

/-- The response goes where the second link leads. -/
theorem linkedNotes_apart :
    ¬ (linkedNotes.after linkedFiles bothNotes).SameFile (.ofString "l/.debug/../prompt")
      (.ofString "l/.debug/../response") := by
  rintro ⟨location, content, found, found'⟩
  have prompt : ((linkedNotes.after linkedFiles bothNotes).find true
      (.ofString "l/.debug/../prompt")).toOption.map Prod.fst =
        some [Utf8.encode "d", Utf8.encode "prompt"] := by
    decide +kernel
  have response : ((linkedNotes.after linkedFiles bothNotes).find true
      (.ofString "l/.debug/../response")).toOption.map Prod.fst = some [Utf8.encode "lost"] := by
    decide +kernel
  rw [found] at prompt
  rw [found'] at response
  have lengths := congrArg List.length (Option.some.inj (prompt.symm.trans response))
  cases lengths

/-- The prompt is there after the response, which goes to another file. -/
theorem takeAll_linkedNotes :
    (∀ note ∈ bothNotes, Name.Ordinary (Utf8.encode note.1)) ∧
    (linkedNotes.after linkedFiles bothNotes).read (.ofString "l/.debug/../prompt") =
      .ok (Utf8.encode "p") := by
  have run := (takeAll_confined linkedNotes ordinary_bothNotes (World.start () linkedFiles)).2.2
  have succeeds : (writeFile linkedFiles (.ofString "l/.debug/..") "prompt" "p").1 = .ok () := by
    apply eq_ok_of_toOption
    decide +kernel
  refine ⟨ordinary_bothNotes, ?_⟩
  exact (run _ rfl [] "prompt" "p" [("response", "r")] rfl).2 succeeds [("response", "r")] [] rfl
    ⟨linkedNotes_apart, trivial⟩

end Notes

end BattleAdvisor
