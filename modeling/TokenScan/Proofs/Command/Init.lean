import TokenScan.Command.Init
import TokenScan.Proofs.Config
/-!
# A first configuration never overwrites by accident

Whatever the command that writes a first configuration does, it does it in one of three ways
(`run_cases`): it refuses, because the file is there already; it fails to save; or it saves. Only the
last one touches a file, and only the file it answers with (`run_protects_files`).

What has been written stays. Every later run of the command, for this directory or another, forced or
not, leaves the same bytes where the path led (`holdsAt_run`): a path that could be followed can
still be followed, and the one thing that the command ever writes is the same configuration, which a
codec writes in one way only. `holdsAt_runAll` carries this along any number of runs.

Nothing is asked of the codec for that. Only that the file can be loaded again needs one that
conforms.
-/

namespace TokenScan.InitRequest

variable {codec : Toml.Codec} {r : InitRequest} {files saved : FileTree} {processors : Nat}
  {path : OsString} {place : Place} {text : String}

/-- **The three ways of the command.** -/
theorem run_cases (codec : Toml.Codec) (r : InitRequest) (files : FileTree) (processors : Nat) :
    (files.pathExists r.target = true ∧ r.force = false ∧
        r.run codec files processors = ([], .error (.configurationExists r.target), files)) ∨
      (∃ failure saved,
        Config.saveTo codec files (.standard processors) r.target = (.error failure, saved) ∧
        r.run codec files processors = ([], .error failure, saved)) ∨
      ∃ saved, Config.saveTo codec files (.standard processors) r.target = (.ok (), saved) ∧
        r.run codec files processors =
          ([.event (.wroteConfiguration r.target)], .ok r.target, saved) := by
  rw [run]
  split
  · next h =>
    obtain ⟨hexists, hforce⟩ := Bool.and_eq_true_iff.1 h
    exact .inl ⟨hexists, by simpa using hforce, rfl⟩
  · split
    · next hsave => exact .inr (.inl ⟨_, _, hsave, rfl⟩)
    · next hsave => exact .inr (.inr ⟨_, hsave, rfl⟩)

/-- Unless it is told to overwrite, the command refuses where there is something. -/
theorem run_of_pathExists (hexists : files.pathExists r.target = true) (hforce : r.force = false) :
    r.run codec files processors = ([], .error (.configurationExists r.target), files) := by
  rw [run, if_pos (by simp [hexists, hforce])]

/-! ### Later runs -/

/-- **The configuration that has been written is still there after another run.** -/
theorem holdsAt_run (htext : codec.write? (Config.standard processors).fields = some text)
    (h : files.HoldsAt path place text.toUTF8) (r : InitRequest) :
    (r.run codec files processors).2.2.HoldsAt path place text.toUTF8 := by
  rcases run_cases codec r files processors with
    ⟨-, -, hrun⟩ | ⟨failure, saved, hsave, hrun⟩ | ⟨saved, hsave, hrun⟩
  · rw [hrun]
    exact h
  · obtain ⟨hext, hsame⟩ := Config.saveTo_eq_error hsave
    rw [hrun]
    exact h.of_extends hext ((hsame place _).2 h.lookup)
  · obtain ⟨place', _, htext', hholds, hext, hothers⟩ := Config.saveTo_eq_ok hsave
    obtain rfl := Option.some.inj (htext'.symm.trans htext)
    rw [hrun]
    refine h.of_extends hext ?_
    by_cases hplace : place = place'
    · rw [hplace]
      exact hholds.lookup
    · exact (hothers place hplace _).2 h.lookup

/-- Runs of the command one after the other. -/
def runAll (codec : Toml.Codec) (processors : Nat) : List InitRequest → FileTree → FileTree
  | [], files => files
  | r :: rest, files => runAll codec processors rest (r.run codec files processors).2.2

theorem holdsAt_runAll (htext : codec.write? (Config.standard processors).fields = some text)
    (h : files.HoldsAt path place text.toUTF8) (later : List InitRequest) :
    (runAll codec processors later files).HoldsAt path place text.toUTF8 := by
  induction later generalizing files with
  | nil => exact h
  | cons r later ih => exact ih (holdsAt_run htext h r)

/-! ### What is protected -/

/-- Where the command succeeds, its answer leads to the configuration in which everything has its
default, and every other file is as it was. -/
theorem run_eq_ok (h : (r.run codec files processors).2.1 = .ok path) :
    path = r.target ∧ ∃ place text,
      codec.write? (Config.standard processors).fields = some text ∧
        (r.run codec files processors).2.2.HoldsAt path place text.toUTF8 ∧
        ∀ q, q ≠ place → ∀ data, (r.run codec files processors).2.2.lookup? q = some (.file data) ↔
          files.lookup? q = some (.file data) := by
  rcases run_cases codec r files processors with
    ⟨-, -, hrun⟩ | ⟨failure, saved, -, hrun⟩ | ⟨saved, hsave, hrun⟩
  · rw [hrun] at h
    cases h
  · rw [hrun] at h
    cases h
  · rw [hrun] at h ⊢
    obtain rfl : r.target = path := Except.ok.inj h
    obtain ⟨place, text, htext, hholds, -, hothers⟩ := Config.saveTo_eq_ok hsave
    exact ⟨rfl, place, text, htext, hholds, hothers⟩

/-- Where the command fails, no file has been changed and none has been made. -/
theorem sameFiles_run {failure : Failure}
    (h : (r.run codec files processors).2.1 = .error failure) :
    files.SameFiles (r.run codec files processors).2.2 := by
  rcases run_cases codec r files processors with
    ⟨-, -, hrun⟩ | ⟨failure, saved, hsave, hrun⟩ | ⟨saved, -, hrun⟩
  · rw [hrun]
    exact .refl files
  · rw [hrun]
    exact (Config.saveTo_eq_error hsave).2
  · rw [hrun] at h
    cases h

/-- **The command protects files.** Where the file is there already and is not to be overwritten,
the command fails and leaves everything as it was. Where it succeeds, the file holds the
configuration in which everything has its default, as a codec that conforms reads it, and every
other file is as it was. After any further runs the file holds the same bytes, and another run whose
file is at the same place, by whatever path, fails unless it is forced. Where the command fails, or
saving any configuration does, no file has been changed and none has been made. -/
theorem run_protects_files (codec : Toml.Codec) (r : InitRequest) (files : FileTree)
    (processors : Nat) :
    (files.pathExists r.target = true → r.force = false →
      ∃ problem, r.run codec files processors = ([], .error (.validation problem), files)) ∧
    (∀ path, (r.run codec files processors).2.1 = .ok path →
      let written := (r.run codec files processors).2.2
      path = r.target ∧
      (codec.Conforms →
        (Config.loadFrom codec written path processors).1 = .ok (.standard processors)) ∧
      ∃ place data, written.HoldsAt path place data ∧
        (∀ q, q ≠ place → ∀ other,
          written.lookup? q = some (.file other) ↔ files.lookup? q = some (.file other)) ∧
        ∀ (later : List InitRequest) (again : InitRequest), again.force = false →
          let reached := runAll codec processors later written
          reached.HoldsAt path place data ∧
            (again.directory = r.directory ∨ reached.LeadsTo again.target place →
              ∃ problem, again.run codec reached processors =
                ([], .error (.validation problem), reached))) ∧
    (∀ failure, (r.run codec files processors).2.1 = .error failure →
      files.SameFiles (r.run codec files processors).2.2) ∧
    (∀ (c : Config) (path : OsString) (failure : Failure),
      (Config.saveTo codec files c path).1 = .error failure →
        files.SameFiles (Config.saveTo codec files c path).2) := by
  refine ⟨fun hexists hforce ↦ ⟨_, run_of_pathExists hexists hforce⟩, fun path hok ↦ ?_,
    fun failure ↦ sameFiles_run,
    fun c path failure herror ↦ (Config.saveTo_eq_error (Prod.ext herror rfl)).2⟩
  obtain ⟨rfl, place, text, htext, hholds, hothers⟩ := run_eq_ok hok
  refine ⟨rfl, fun hcodec ↦ ?_, place, _, hholds, hothers, fun later again hforce ↦ ?_⟩
  · rw [Config.loadFrom_of_locate hholds.locate (Config.parse?_of_write? hcodec htext)]
  · have hreached := holdsAt_runAll htext hholds later
    refine ⟨hreached, fun hsame ↦ ⟨_, run_of_pathExists ?_ hforce⟩⟩
    rcases hsame with hdirectory | hleads
    · have htarget : again.target = r.target := by rw [target, target, hdirectory]
      exact htarget ▸ hreached.pathExists
    · exact (hreached.of_leadsTo hleads).pathExists

/-- A tree with a file, and with something where the configuration belongs. -/
def withConfiguration (entry : Entry) : FileTree where
  entries := [([Config.fileName], entry), ([.ofString "a"], .file .empty)]

/-- A first configuration is written where there is none, and is still there after a forced run,
when another one fails, for the root as for the current directory. None is written where a file
stands, nor, even by force, where a directory does; and a configuration with too many jobs is saved
nowhere. -/
theorem run_protects_files_of_trees :
    let path : OsString := .ofString "./tokt.toml"
    let jobs : Config := { output := { jobs := Toml.integerLimit } }
    (∃ problem, run .plain {} (withConfiguration (.file .empty)) 8 =
        ([], .error (.validation problem), withConfiguration (.file .empty))) ∧
      (let written := (run .plain {} {} 8).2.2
      let reached := runAll .plain 8 [{ force := true }] written
      (Config.loadFrom .plain written path 8).1 = .ok (.standard 8) ∧
        ∃ place data, written.HoldsAt path place data ∧ reached.HoldsAt path place data ∧
          ∀ again ∈ [({} : InitRequest), { directory := some (.ofString "/") }],
            ∃ problem, again.run .plain reached 8 = ([], .error (.validation problem), reached)) ∧
      (withConfiguration .directory).SameFiles
        (run .plain { force := true } (withConfiguration .directory) 8).2.2 ∧
      (withConfiguration .directory).SameFiles
        (Config.saveTo .plain (withConfiguration .directory) jobs (.ofString "b/tokt.toml")).2 := by
  intro path jobs
  have hempty : (run .plain {} {} 8).2.1 = .ok path := rfl
  have hblocked : (run .plain { force := true } (withConfiguration .directory) 8).2.1 =
      .error (.io (.os .isADirectory)) := rfl
  have hjobs : Toml.Codec.plain.write? jobs.fields = none := by decide +kernel
  have hbusy : (Config.saveTo .plain (withConfiguration .directory) jobs
      (.ofString "b/tokt.toml")).1 = .error .configurationNotWritten := by
    simp only [Config.saveTo, hjobs]
    rfl
  obtain ⟨-, hload, place, data, hholds, -, hlater⟩ :=
    (run_protects_files .plain {} {} 8).2.1 _ hempty
  obtain rfl : [Config.fileName] = place := Except.ok.inj hholds.walk
  obtain ⟨hreached, hagain⟩ := hlater [{ force := true }] {} rfl
  obtain ⟨-, hroot⟩ := hlater [{ force := true }] { directory := some (.ofString "/") } rfl
  refine ⟨(run_protects_files .plain {} _ 8).1 rfl rfl,
    ⟨hload Toml.Codec.plain_conforms, _, data, hholds, hreached, ?_⟩,
    (run_protects_files .plain { force := true } _ 8).2.2.1 _ hblocked,
    (run_protects_files .plain {} _ 8).2.2.2 _ _ _ hbusy⟩
  exact List.forall_mem_cons.2
    ⟨hagain (.inl rfl), List.forall_mem_singleton.2 (hroot (.inr ⟨rfl, rfl, rfl⟩))⟩

end TokenScan.InitRequest
