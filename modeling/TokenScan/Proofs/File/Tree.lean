import Mathlib.Tactic.SplitIfs
import TokenScan.File.Tree
/-!
# What operations on files leave alone

Making directories and writing files only ever add to what can be followed: directories stay, and
where something stood something still stands (`Extends`). So a path that led to a place still leads
there (`Extends.walk`).

Files are told apart from that. Making directories leaves every file as it was and makes none,
however far it gets (`extends_makeDirectories`). Writing a file that succeeds puts its bytes where
its path leads and changes nothing else (`writeFile_eq_ok`), and whether it succeeds does not depend
on the bytes (`writeFile_of_ok`).
-/

namespace TokenScan.FileTree

variable {t u v : FileTree} {place next q : Place} {path name : OsString} {data data' : ByteArray}
  {entry : Entry} {names : List OsString}

/-! ### Comparing trees -/

/-- Whether two trees have the same files, with the same bytes. -/
def SameFiles (t u : FileTree) : Prop :=
  ∀ place data, u.lookup? place = some (.file data) ↔ t.lookup? place = some (.file data)

theorem SameFiles.refl (t : FileTree) : SameFiles t t := fun _ _ ↦ Iff.rfl

theorem SameFiles.trans (h : SameFiles t u) (h' : SameFiles u v) : SameFiles t v :=
  fun place data ↦ (h' place data).trans (h place data)

/-- Whether all that can be followed in a tree can be followed in another. -/
structure Extends (t u : FileTree) : Prop where
  /-- Relative paths start from the same directory. -/
  current : u.current = t.current
  /-- Directories are still there. -/
  directory : ∀ place, t.lookup? place = some .directory → u.lookup? place = some .directory
  /-- Nothing is gone. -/
  isSome : ∀ place, (t.lookup? place).isSome → (u.lookup? place).isSome

namespace Extends

theorem refl (t : FileTree) : Extends t t := ⟨rfl, fun _ ↦ id, fun _ ↦ id⟩

theorem trans (h : Extends t u) (h' : Extends u v) : Extends t v where
  current := h'.current.trans h.current
  directory place := h'.directory place ∘ h.directory place
  isSome place := h'.isSome place ∘ h.isSome place

theorem start (h : Extends t u) (path : OsString) : u.start path = t.start path := by
  rw [FileTree.start, FileTree.start, h.current]

theorem step (h : Extends t u) (hstep : t.step place name = .ok next) :
    u.step place name = .ok next := by
  rw [FileTree.step] at hstep ⊢
  split at hstep
  · next hdir =>
    rw [h.directory place hdir]
    split_ifs at hstep with hdot hdots hlong hsome
    · exact (if_pos hdot).trans hstep
    · exact (if_neg hdot).trans ((if_pos hdots).trans hstep)
    · exact (if_neg hdot).trans ((if_neg hdots).trans ((if_neg hlong).trans
        ((if_pos (h.isSome _ hsome)).trans hstep)))
  · cases hstep
  · cases hstep

/-- **A path that leads to a place still leads there.** -/
theorem walk (h : Extends t u) (hwalk : t.walk place names = .ok q) :
    u.walk place names = .ok q := by
  induction names generalizing place with
  | nil => exact hwalk
  | cons name names ih =>
    rw [FileTree.walk] at hwalk ⊢
    split at hwalk
    · next hstep =>
      rw [h.step hstep]
      exact ih hwalk
    · cases hwalk

end Extends

/-- Putting something at a place, other than a file in that of a directory. -/
theorem extends_put (hplace : place ≠ [])
    (h : t.lookup? place = some .directory → entry = .directory) : Extends t (t.put place entry) where
  current := rfl
  directory q hq := by
    rw [lookup?_put t place q entry hplace]
    split
    · next heq => rw [h (heq ▸ hq)]
    · exact hq
  isSome q hq := by
    rw [lookup?_put t place q entry hplace]
    split
    · rfl
    · exact hq

theorem walk_concat (hwalk : t.walk place names = .ok q) (hstep : t.step q name = .ok next) :
    t.walk place (names ++ [name]) = .ok next := by
  induction names generalizing place with
  | nil =>
    obtain rfl : place = q := Except.ok.inj hwalk
    rw [List.nil_append, walk, hstep]
    rfl
  | cons first names ih =>
    rw [walk] at hwalk
    rw [List.cons_append, walk]
    split at hwalk
    · exact ih hwalk
    · cases hwalk

/-- A name leads to what is under it, if it can stand in a directory at all. -/
theorem step_of_isSome (hdir : t.lookup? place = some .directory) (hdots : isDots name = false)
    (hlong : ¬ longestName < name.bytes.length) (h : (t.lookup? (place ++ [name])).isSome) :
    t.step place name = .ok (place ++ [name]) := by
  simp only [isDots, Bool.or_eq_false_iff, beq_eq_false_iff_ne] at hdots
  rw [step, hdir]
  exact (if_neg hdots.1).trans ((if_neg hdots.2).trans ((if_neg hlong).trans (if_pos h)))

/-! ### Making directories -/

theorem parent_eq_ok {last : Option OsString} (h : t.parent path = .ok (place, last)) :
    check path = .ok () ∧ t.walk (t.start path) (Path.names path).dropLast = .ok place ∧
      t.lookup? place = some .directory ∧ (Path.names path).getLast? = last := by
  rw [parent] at h
  split at h
  · cases h
  · next hcheck =>
    split at h
    · cases h
    · next place' hwalk =>
      split at h
      · cases h
      · cases h
      · next hdir =>
        obtain ⟨rfl, rfl⟩ := Prod.mk.inj (Except.ok.inj h)
        exact ⟨hcheck, hwalk, hdir, rfl⟩

/-- A directory is made where nothing stood. -/
theorem makeDirectory_eq_ok (h : t.makeDirectory path = .ok u) :
    ∃ place, place ≠ [] ∧ t.lookup? place = none ∧ u = t.put place .directory := by
  rw [makeDirectory] at h
  split at h
  · cases h
  · cases h
  · next place name hparent =>
    split_ifs at h with _ _ hsome
    refine ⟨place ++ [name], by simp, Option.not_isSome_iff_eq_none.1 hsome, (Except.ok.inj h).symm⟩

theorem extends_makeDirectory (h : t.makeDirectory path = .ok u) :
    Extends t u ∧ SameFiles t u := by
  obtain ⟨place, hplace, hnone, rfl⟩ := makeDirectory_eq_ok h
  refine ⟨extends_put hplace fun _ ↦ rfl, fun q data ↦ ?_⟩
  rw [lookup?_put t place q .directory hplace]
  split
  · next heq => rw [heq, hnone]; simp
  · exact Iff.rfl

/-- **Making directories leaves every file alone**, whether it gets to the end or not. -/
theorem extends_makeDirectories (t : FileTree) (paths : List OsString) :
    Extends t (t.makeDirectories paths).2 ∧ SameFiles t (t.makeDirectories paths).2 := by
  induction paths with
  | nil => exact ⟨.refl t, .refl t⟩
  | cons path above ih =>
    rw [makeDirectories]
    split
    · exact ⟨.refl t, .refl t⟩
    · split
      · next hmake => exact extends_makeDirectory hmake
      · split
        · next habove =>
          rw [habove] at ih
          exact ih
        · next habove =>
          rw [habove] at ih
          split
          · next hmake =>
            have hlast := extends_makeDirectory hmake
            exact ⟨ih.1.trans hlast.1, ih.2.trans hlast.2⟩
          · split <;> exact ih
      · split <;> exact ⟨.refl t, .refl t⟩

/-! ### Writing files -/

/-- Whether a path, as that of a file, leads to a place. -/
structure LeadsTo (t : FileTree) (path : OsString) (place : Place) : Prop where
  /-- The path can be followed. -/
  check : check path = .ok ()
  /-- It is not written as that of a directory. -/
  noSlash : Path.endsInSlash path = false
  /-- It leads to the place. -/
  walk : t.walk (t.start path) (Path.names path) = .ok place

/-- Whether a path leads to a place, and the file there has some bytes. -/
structure HoldsAt (t : FileTree) (path : OsString) (place : Place) (data : ByteArray) : Prop
    extends LeadsTo t path place where
  /-- The file is there. -/
  lookup : t.lookup? place = some (.file data)

theorem HoldsAt.locate (h : t.HoldsAt path place data) : t.locate path = .ok (.file data) := by
  rw [FileTree.locate, h.check]
  simp only [h.walk, h.lookup, h.noSlash]
  rfl

theorem HoldsAt.pathExists (h : t.HoldsAt path place data) : t.pathExists path = true := by
  rw [FileTree.pathExists, h.locate]
  rfl

/-- The file at a place is found by every path that leads there. -/
theorem HoldsAt.of_leadsTo {path' : OsString} (h : t.HoldsAt path place data)
    (hleads : t.LeadsTo path' place) : t.HoldsAt path' place data := ⟨hleads, h.lookup⟩

theorem HoldsAt.of_extends (h : t.HoldsAt path place data) (hext : Extends t u)
    (hlookup : u.lookup? place = some (.file data')) : u.HoldsAt path place data' where
  check := h.check
  noSlash := h.noSlash
  walk := by
    rw [hext.start]
    exact hext.walk h.walk
  lookup := hlookup

/-- **A file that is written holds its bytes where its path leads**, and nothing else is changed. -/
theorem writeFile_eq_ok (h : t.writeFile path data = .ok u) :
    ∃ place, u.HoldsAt path place data ∧ Extends t u ∧
      ∀ q, q ≠ place → u.lookup? q = t.lookup? q := by
  rw [writeFile] at h
  split at h
  · cases h
  · cases h
  · next place name hparent =>
    obtain ⟨hcheck, hwalk, hdir, hlast⟩ := parent_eq_ok hparent
    have hplace : place ++ [name] ≠ [] := by simp
    split_ifs at h with hslash hlong
    split at h
    · cases h
    · next hnodir =>
      obtain rfl := Except.ok.inj h
      have hput := fun q ↦ lookup?_put t (place ++ [name]) q (.file data) hplace
      have hext : Extends t (t.put (place ++ [name]) (.file data)) :=
        extends_put hplace fun h ↦ absurd h hnodir
      obtain ⟨hslash, hdots⟩ := Bool.or_eq_false_iff.1 (Bool.eq_false_iff.2 hslash)
      have hself : (t.put (place ++ [name]) (.file data)).lookup? (place ++ [name]) =
          some (.file data) := by rw [hput, if_pos rfl]
      refine ⟨place ++ [name], ⟨⟨hcheck, hslash, ?_⟩, hself⟩, hext, fun q hq ↦ ?_⟩
      · obtain ⟨above, hnames⟩ := List.getLast?_eq_some_iff.1 hlast
        rw [hnames, List.dropLast_concat] at hwalk
        rw [hnames, hext.start]
        exact walk_concat (hext.walk hwalk)
          (step_of_isSome (hext.directory place hdir) hdots hlong (hself ▸ rfl))
      · rw [hput, if_neg hq]

/-- Whether a file can be written does not depend on its bytes. -/
theorem writeFile_of_ok (h : t.writeFile path data = .ok u) (data' : ByteArray) :
    ∃ v, t.writeFile path data' = .ok v := by
  rw [writeFile] at h ⊢
  split at h
  · cases h
  · cases h
  · split_ifs at h ⊢
    split at h
    · cases h
    · exact ⟨_, rfl⟩

/-- Whether a file can be written at a path: the directories above it are there or can be made, and
then the system takes a file. -/
def Writable (t : FileTree) (path : OsString) : Prop :=
  ∃ u v, t.makeDirectories (Path.ancestors path) = (.ok (), u) ∧ u.writeFile path .empty = .ok v

end TokenScan.FileTree
