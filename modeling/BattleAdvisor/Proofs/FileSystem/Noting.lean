import BattleAdvisor.Advice.Notes
import BattleAdvisor.Proofs.FileSystem.Follow

/-!
# What a note changes

Making directories sets empty directories where there was nothing, one after another
(`FileSystem.Dug`), also where it fails in the end. In a plain tree a note makes its directory in
this way and then sets at most one file, which has the name of the note; whether it does and where
does not depend on what is noted (`Notes.exists_dug`).
-/

namespace BattleAdvisor

namespace FileSystem

variable {fs last : FileSystem}

/-! ## Making directories -/

/-- Empty directories are made where there was nothing. -/
inductive Dug (fs : FileSystem) : FileSystem → Prop
  | refl : Dug fs fs
  | make {between : FileSystem} {around : Location} {entries : Entries} {name : Name}
      (before : Dug fs between) (inside : between.top.at? around = some (.directory entries))
      (ordinary : name.Ordinary) (absent : entries.lookup name = none) :
      Dug fs (between.put (around ++ [name]) (.directory []))

theorem Dug.trans {between : FileSystem} (first : fs.Dug between) (second : between.Dug last) :
    fs.Dug last := by
  induction second with
  | refl => exact first
  | make _ inside ordinary absent ih => exact .make ih inside ordinary absent

theorem Dug.plain (dug : fs.Dug last) (plain : fs.top.Plain) : last.top.Plain := by
  induction dug with
  | refl => exact plain
  | make _ inside ordinary _ ih =>
    exact ih.put inside ordinary .empty

theorem makeDirectory_dug (plain : fs.top.Plain) {p : Path} (made : fs.makeDirectory p = .ok last) :
    fs.Dug last := by
  unfold makeDirectory at made
  split at made
  next => cases made
  next => cases made
  next directory name placed =>
    cases made
    obtain ⟨-, leads⟩ := (place_eq_ok plain).mp placed
    obtain ⟨ne_here, ne_above, final, entries, inside, absent⟩ := leads.vacant_last
    have among : name ∈ p.names := List.mem_of_getLast? final
    have ordinary : name.Ordinary :=
      ⟨Path.nonempty_of_mem_names among, Path.slashless_of_mem_names among, ne_here, ne_above⟩
    exact .make .refl inside ordinary absent

theorem makeDirectory_of_vacant {p : Path} {around : Location} {name : Name}
    (vacant : fs.place false p p.names = .ok (.vacant around name)) :
    fs.makeDirectory p = .ok (fs.put (around ++ [name]) (.directory [])) := by
  have same : p.pieces.filter (· ≠ []) = p.names := rfl
  rw [makeDirectory, same, vacant]

/-- A directory may be made when those around it have been. -/
theorem Dug.makeDirectory {between : FileSystem} (dug : fs.Dug between) (plain : fs.top.Plain)
    (p : Path) :
    fs.Dug (match between.makeDirectory p with
      | .ok made => (Except.ok (), made)
      | .error fault =>
        (if between.isDirectory p then Except.ok () else .error fault, between)).2 := by
  split
  next made => exact dug.trans (makeDirectory_dug (dug.plain plain) made)
  next => exact dug

theorem makeDirectoriesFrom_dug (plain : fs.top.Plain) (depth : Nat) (p : Path) :
    fs.Dug (makeDirectoriesFrom depth p fs).2 := by
  induction depth generalizing p fs with
  | zero => exact .refl
  | succ depth ih =>
    rw [makeDirectoriesFrom]
    split
    · exact .refl
    split
    next made => exact makeDirectory_dug plain made
    next =>
      cases p.parent? with
      | none => exact Dug.refl.makeDirectory plain p
      | some dir =>
        -- What is made around the directory comes first.
        have dug := ih plain dir
        dsimp only
        generalize makeDirectoriesFrom depth dir fs = whole at dug ⊢
        obtain ⟨around, between⟩ := whole
        cases around with
        | error fault => exact dug
        | ok _ => exact dug.makeDirectory plain p
    next => exact .refl

theorem makeDirectories_dug (plain : fs.top.Plain) (p : Path) : fs.Dug (fs.makeDirectories p).2 :=
  makeDirectoriesFrom_dug plain _ p

/-! ## Writing a file -/

section

variable {p : Path} {location around : Location} {name : Name}

/-- Whether a file can be written is decided by where its path leads. -/
theorem write_of_error {fault : Fault} (ends : p.endsInSlash = false)
    (stuck : fs.place true p p.names = .error fault) (content : Bytes) :
    fs.write p content = .error fault := by
  have same : p.pieces.filter (· ≠ []) = p.names := rfl
  rw [write, ends, if_neg Bool.false_ne_true, same, stuck]

theorem write_of_vacant (ends : p.endsInSlash = false)
    (vacant : fs.place true p p.names = .ok (.vacant around name)) (content : Bytes) :
    fs.write p content = .ok (fs.put (around ++ [name]) (.file content)) := by
  have same : p.pieces.filter (· ≠ []) = p.names := rfl
  rw [write, ends, if_neg Bool.false_ne_true, same, vacant]

theorem write_of_file {old : Bytes} (ends : p.endsInSlash = false)
    (found : fs.place true p p.names = .ok (.found location))
    (there : fs.top.at? location = some (.file old)) (content : Bytes) :
    fs.write p content = .ok (fs.put location (.file content)) := by
  have same : p.pieces.filter (· ≠ []) = p.names := rfl
  rw [write, ends, if_neg Bool.false_ne_true, same, found]
  dsimp only
  rw [there]

theorem write_of_other (ends : p.endsInSlash = false)
    (found : fs.place true p p.names = .ok (.found location))
    (other : ∀ old, fs.top.at? location ≠ some (.file old)) (content : Bytes) :
    fs.write p content = .error .isDirectory := by
  have same : p.pieces.filter (· ≠ []) = p.names := rfl
  rw [write, ends, if_neg Bool.false_ne_true, same, found]
  dsimp only
  split
  next old there => exact absurd there (other old)
  next => rfl

end

/-- Whether a file can be written, and where it is set, does not depend on its content. -/
theorem write_join (plain : fs.top.Plain) (dir : Path) {name : Name} (ordinary : name.Ordinary) :
    (∃ fault, ∀ content, fs.write (dir.join ⟨name⟩) content = .error fault) ∨
    ∃ around, fs.top.HasRoom around name ∧ ∀ content,
      fs.write (dir.join ⟨name⟩) content = .ok (fs.put (around ++ [name]) (.file content)) := by
  have final : (dir.join ⟨name⟩).names.getLast? = some name := Path.getLast?_names_join ordinary
  have ends : (dir.join ⟨name⟩).endsInSlash = false := Path.endsInSlash_join ordinary
  generalize dir.join ⟨name⟩ = p at final ends ⊢
  cases placed : fs.place true p p.names with
  | error fault => exact .inl ⟨fault, write_of_error ends placed⟩
  | ok place =>
    obtain ⟨-, leads⟩ := (place_eq_ok plain).mp placed
    cases place with
    | vacant around last =>
      obtain ⟨-, -, final', entries, inside, absent⟩ := leads.vacant_last
      obtain rfl := Option.some.inj (final'.symm.trans final)
      exact .inr ⟨around, .of_absent inside absent, write_of_vacant ends placed⟩
    | found location =>
      obtain ⟨around, rfl⟩ := leads.found_last ordinary.ne_here ordinary.ne_above final
      by_cases file : ∃ old, fs.top.at? (around ++ [name]) = some (.file old)
      · obtain ⟨old, there⟩ := file
        obtain ⟨entries, inside, found⟩ := Node.exists_around there
        exact .inr ⟨around, ⟨entries, inside, by simp [found]⟩, write_of_file ends placed there⟩
      · exact .inl ⟨.isDirectory, write_of_other ends placed (not_exists.mp file)⟩

end FileSystem

/-! ## Notes -/

/-- After directories have been made, at most one file is set, and what is noted is its content. -/
theorem Notes.exists_dug (notes : Notes) {name : String}
    (ordinary : Name.Ordinary (Utf8.encode name)) {fs : FileSystem} (plain : fs.top.Plain) :
    ∃ between, fs.Dug between ∧ ((∀ content, (notes.write name content fs).1 = between) ∨
      ∃ around, between.top.HasRoom around (Utf8.encode name) ∧ ∀ content,
        (notes.write name content fs).1 =
          between.put (around ++ [Utf8.encode name]) (.file (Utf8.encode content))) := by
  cases given : notes.dir? with
  | none =>
    refine ⟨fs, .refl, .inl fun content => ?_⟩
    rw [write, given]
  | some dir =>
    have files (content : String) :
        (notes.write name content fs).1 = (writeFile fs dir name content).2 := by
      rw [write, given]
      dsimp only
      split <;> next found => rw [found]
    have dug : fs.Dug (fs.makeDirectories dir).2 := FileSystem.makeDirectories_dug plain dir
    simp only [files, writeFile]
    generalize fs.makeDirectories dir = whole at dug ⊢
    obtain ⟨made, between⟩ := whole
    refine ⟨between, dug, ?_⟩
    cases made with
    | error fault => exact .inl fun content => rfl
    | ok _ =>
      rcases FileSystem.write_join (dug.plain plain) dir ordinary with
        ⟨fault, stuck⟩ | ⟨around, room, written⟩
      · refine .inl fun content => ?_
        simp only [Path.ofString, stuck]
      · refine .inr ⟨around, room, fun content => ?_⟩
        simp only [Path.ofString, written]

end BattleAdvisor
