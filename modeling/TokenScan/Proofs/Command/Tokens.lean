import TokenScan.Command.Tokens
/-!
# Files one by one

A run scans its files with a pool of workers and puts out what came of them. What is seen of it does
not show the pool: it is what would be seen of the files one by one.

* `TokensRequest.runOn_eq_run` is where the pool goes away. All that is asked of it is that it can be
  started with the workers of this run and keeps the order of the files (`WorkerPool.Reliable`).
* `TokensRequest.shown_eq` says what is seen of a run. It is where the run is opened, and everything
  else is read off it: of what the run is asked for there are only the symbols, the format and
  whether white space counts on its right side, and of the files only the sources that open at the
  paths that are named.
* Texts that are put together along a list are homomorphisms of lists, and failures are counted
  along it. So the files of a run can be cut anywhere (`TokensRequest.shown_append`).
* `TokensRequest.isSome_failure_iff` ties the failure that a scan keeps to what goes wrong: the file
  cannot be opened, or a construct in it is left open.

`TokensRequest.runOn_filewise` puts them together.
-/

namespace TokenScan

/-! ### Pools -/

namespace WorkerPool

/-- Whether a pool can be relied upon if it has some number of workers. -/
structure Reliable (pool : WorkerPool) (workers : Nat) : Prop where
  /-- The workers can be started. -/
  starts : ∀ {α β : Type} (f : α → β) (xs : List α), ∃ ys, pool.collect workers f xs = .ok ys
  /-- What they made of the members stands in the order in which the members stand. -/
  order : ∀ {α β : Type} (f : α → β) (xs : List α) (ys : List β),
    pool.collect workers f xs = .ok ys → ys = xs.map f

theorem Reliable.collect_eq {pool : WorkerPool} {workers : Nat} (hpool : pool.Reliable workers)
    {α β : Type} (f : α → β) (xs : List α) : pool.collect workers f xs = .ok (xs.map f) := by
  obtain ⟨ys, hys⟩ := hpool.starts f xs
  rw [hys, hpool.order f xs ys hys]

/-- What comes of a list that is cut in halves again and again. -/
def inHalves {α β : Type} (f : α → β) : Nat → List α → List β
  | 0, xs => xs.map f
  | n + 1, xs =>
    inHalves f n (xs.take (xs.length / 2)) ++ inHalves f n (xs.drop (xs.length / 2))

/-- However often a list is cut, its parts are put together in their order. -/
theorem inHalves_eq_map {α β : Type} (f : α → β) (n : Nat) (xs : List α) :
    inHalves f n xs = xs.map f := by
  induction n generalizing xs with
  | zero => rfl
  | succ n ih => rw [inHalves, ih, ih, ← List.map_append, List.take_append_drop]

/-- A pool that shares the members out by halves. It cannot be started without workers. -/
def halving : WorkerPool where
  collect workers f xs :=
    if workers = 0 then .error "no workers" else .ok (inHalves f workers xs)

theorem reliable_halving {workers : Nat} (hworkers : 0 < workers) : halving.Reliable workers where
  starts _ _ := ⟨_, if_neg (Nat.ne_of_gt hworkers)⟩
  order f xs ys hys := by
    change (if workers = 0 then _ else _) = _ at hys
    rw [if_neg (Nat.ne_of_gt hworkers)] at hys
    rw [← Except.ok.inj hys, inHalves_eq_map]

end WorkerPool

/-! ### What is put out for a scan -/

namespace FileScan

/-- A scan as text is a heading and a line for each token. -/
theorem render_text (s : FileScan) :
    s.render .text = "  processing file: " ++ s.path.display ++ "\n" ++
      String.join (s.tokens.map fun token ↦ String.ofList token.textLine ++ "\n") := by
  have hend : String.ofList ['\n'] = "\n" := rfl
  have hheading (rest : List Char) :
      String.ofList ("  processing file: ".toList ++ s.path.display.toList ++ ['\n'] ++ rest) =
        "  processing file: " ++ s.path.display ++ "\n" ++ String.ofList rest := by
    rw [String.ofList_append, String.ofList_append, String.ofList_append, String.ofList_toList,
      String.ofList_toList]
  have hlines : String.ofList (s.tokens.flatMap fun token ↦ token.textLine ++ ['\n']) =
      String.join (s.tokens.map fun token ↦ String.ofList token.textLine ++ "\n") := by
    apply String.toList_injective
    simp only [← hend, String.toList_ofList, String.toList_join, List.flatMap_map,
      String.toList_append]
  exact (hheading _).trans (congrArg _ hlines)

/-- A scan as JSON is one document, unless there is nothing but a failure. -/
theorem render_json (s : FileScan) :
    s.render .json = if s.failure.isSome = true ∧ s.tokens = [] then ""
      else String.ofList s.record.pretty ++ "\n" := by
  have hbarren : s.isBarren = true ↔ s.failure.isSome = true ∧ s.tokens = [] := by
    rw [isBarren, Bool.and_eq_true, List.isEmpty_iff]
  rw [render, document]
  simp only [hbarren]
  split
  · rfl
  · exact String.ofList_append

end FileScan

namespace TokensRequest

open Emission

variable {pool : WorkerPool} {r : TokensRequest} {tree : FileTree} {config : Config}
  {format : OutputFormat} {paths : List OsString}

/-! ### What comes of a file -/

/-- What comes of a file. -/
def scanned (r : TokensRequest) (tree : FileTree) (config : Config) (path : OsString) : FileScan :=
  (r.scanFile tree config path).1

/-- The scan of a source that opens. -/
def scanSource (r : TokensRequest) (config : Config) (source : Source) : Session.Scan :=
  ((Session.withSymbols (r.symbols config)).bind source).scan (r.raw || config.output.raw)

/-- Whether a file cannot be opened, or a construct in it is left open. -/
def Fails (r : TokensRequest) (tree : FileTree) (config : Config) (path : OsString) : Prop :=
  (∃ error, tree.openSource path = .error error) ∨
    ∃ source error, tree.openSource path = .ok source ∧
      (r.scanSource config source).error = some error

/-- What comes of a file that cannot be opened. -/
theorem scanned_of_error {path : OsString} {error : OpenError}
    (h : tree.openSource path = .error error) :
    r.scanned tree config path = { path, failure := some (.opening error) } :=
  FileScan.ofFile_of_error h _ _

/-- What comes of a file that opens. -/
theorem scanned_of_ok {path : OsString} {source : Source} (h : tree.openSource path = .ok source) :
    r.scanned tree config path =
      { path
        tokens := (r.scanSource config source).tokens
        lines := (r.scanSource config source).session.line
        failure := (r.scanSource config source).error.map .scanning } :=
  FileScan.ofFile_of_ok h _ _

/-- **A scan keeps a failure** if the file cannot be opened or holds an open construct. -/
theorem isSome_failure_iff {path : OsString} :
    (r.scanned tree config path).failure.isSome = true ↔ r.Fails tree config path := by
  cases hsource : tree.openSource path with
  | error error =>
    rw [scanned_of_error hsource]
    exact iff_of_true rfl (.inl ⟨error, hsource⟩)
  | ok source =>
    rw [scanned_of_ok hsource, Option.isSome_map, Option.isSome_iff_exists]
    constructor
    · rintro ⟨error, herror⟩
      exact .inr ⟨source, error, hsource, herror⟩
    · rintro (⟨error, herror⟩ | ⟨other, error, hother, herror⟩)
      · cases hsource.symm.trans herror
      · cases hsource.symm.trans hother
        exact ⟨error, herror⟩

instance : DecidablePred (r.Fails tree config) := fun _ ↦ decidable_of_iff _ isSome_failure_iff

theorem path_scanned (path : OsString) : (r.scanned tree config path).path = path := by
  cases hsource : tree.openSource path with
  | error error => rw [scanned_of_error hsource]
  | ok source => rw [scanned_of_ok hsource]

/-- How many files fail. -/
def failures (r : TokensRequest) (tree : FileTree) (config : Config) (paths : List OsString) :
    Nat :=
  paths.countP fun path ↦ decide (r.Fails tree config path)

/-! ### What is seen of a run -/

/-- What is seen of a run. -/
structure Shown where
  /-- The output. -/
  output : String
  /-- The reports of files that failed. -/
  problems : String
  /-- What the run comes to. -/
  result : Except Failure Unit

/-- What is seen of a run that is asked for some files. -/
def shown (pool : WorkerPool) (r : TokensRequest) (tree : FileTree) (config : Config)
    (paths : List OsString) : Shown :=
  let (emissions, result) := runOn pool { r with files := paths } tree config
  ⟨outputOf emissions, problemsOf emissions, result⟩

theorem outputOf_emissions (format : OutputFormat) (s : FileScan) :
    outputOf (emissions format s) = s.render format := by
  rw [emissions]
  cases s.report <;> simp [outputOf, outputText]

theorem problemsOf_emissions (format : OutputFormat) (s : FileScan) :
    problemsOf (emissions format s) = s.report.getD "" := by
  rw [emissions]
  cases s.report <;> simp [problemsOf, problemText]

/-- A format that is known is the one that is used. -/
theorem resolve_of_ofName?
    (h : OutputFormat.ofName? (r.format.getD config.output.format) = some format) :
    OutputFormat.resolve r.format config.output.format = .ok format := by
  rw [OutputFormat.resolve, h]

/-- There is a worker, even if none is asked for. -/
theorem workers_pos (r : TokensRequest) (config : Config) : 0 < r.workers config :=
  Nat.lt_of_lt_of_le Nat.one_pos (Nat.le_max_right _ _)

/-- **A run does not depend on who scans the files.** -/
theorem runOn_eq_run (hpool : pool.Reliable (r.workers config)) :
    r.runOn pool tree config = r.run tree config := by
  rw [run, runOn, runOn, hpool.collect_eq]
  rfl

/-- **What a run gives out**: events aside, what comes of each file in turn. -/
theorem run_eq (tree : FileTree) (hfiles : r.files ≠ [])
    (hformat : OutputFormat.ofName? (r.format.getD config.output.format) = some format) :
    ∃ before after : List Event, r.run tree config =
      (before.map .event ++ (r.files.map (r.scanned tree config)).flatMap (emissions format) ++
          after.map .event,
        outcome (r.failures tree config r.files)) := by
  have hemissions : (r.files.map (r.scanFile tree config)).flatMap (fun s ↦ emissions format s.1) =
      (r.files.map (r.scanned tree config)).flatMap (emissions format) := by
    rw [List.flatMap_map, List.flatMap_map]
    rfl
  have hfailures :
      ((r.files.map (r.scanFile tree config)).filter fun s ↦ s.1.failure.isSome).length =
        r.failures tree config r.files := by
    rw [← List.countP_eq_length_filter, List.countP_map, failures]
    refine List.countP_congr fun path _ ↦ ?_
    rw [decide_eq_true_iff, ← isSome_failure_iff]
    rfl
  rw [run, runOn, if_neg (mt List.isEmpty_iff.1 hfiles), resolve_of_ofName? hformat]
  dsimp only [WorkerPool.sequential]
  rw [hfailures, hemissions]
  exact ⟨_, [_], rfl⟩

/-- The output of scans in turn. -/
theorem outputOf_turns (scans : List FileScan) (before after : List Event) :
    outputOf (before.map .event ++ scans.flatMap (emissions format) ++ after.map .event) =
      String.join (scans.map (FileScan.render format)) := by
  rw [outputOf, join_map_between fun _ ↦ rfl, join_map_flatMap]
  exact congrArg String.join (List.map_congr_left fun s _ ↦ outputOf_emissions format s)

/-- The reports of scans in turn. -/
theorem problemsOf_turns (scans : List FileScan) (before after : List Event) :
    problemsOf (before.map .event ++ scans.flatMap (emissions format) ++ after.map .event) =
      String.join (scans.map fun s ↦ s.report.getD "") := by
  rw [problemsOf, join_map_between fun _ ↦ rfl, join_map_flatMap]
  exact congrArg String.join (List.map_congr_left fun s _ ↦ problemsOf_emissions format s)

/-- **What is seen of a run** is what would be seen of the files one by one. -/
theorem shown_eq (hpool : pool.Reliable (r.workers config)) (hpaths : paths ≠ [])
    (hformat : OutputFormat.ofName? (r.format.getD config.output.format) = some format) :
    r.shown pool tree config paths =
      { output := String.join ((paths.map (r.scanned tree config)).map (FileScan.render format))
        problems := String.join ((paths.map (r.scanned tree config)).map fun s ↦ s.report.getD "")
        result := outcome (r.failures tree config paths) } := by
  obtain ⟨before, after, hrun⟩ :=
    run_eq (r := { r with files := paths }) tree hpaths hformat
  rw [shown, runOn_eq_run (r := { r with files := paths }) hpool, hrun]
  show Shown.mk (outputOf _) (problemsOf _) _ = _
  rw [outputOf_turns, problemsOf_turns]
  rfl

/-- **What a run sees of the files**, and of what it is asked for: the symbols, whether white space
counts, the format, and the sources that open at the paths. The workers are not among it. -/
theorem shown_congr {pool' : WorkerPool} {r' : TokensRequest} {tree' : FileTree} {config' : Config}
    (hpool : pool.Reliable (r.workers config)) (hpool' : pool'.Reliable (r'.workers config'))
    (hpaths : paths ≠ [])
    (hformat : OutputFormat.ofName? (r.format.getD config.output.format) = some format)
    (hformat' : OutputFormat.ofName? (r'.format.getD config'.output.format) = some format)
    (hsymbols : r'.symbols config' = r.symbols config)
    (hraw : (r'.raw || config'.output.raw) = (r.raw || config.output.raw))
    (htree : ∀ path ∈ paths, tree'.openSource path = tree.openSource path) :
    r'.shown pool' tree' config' paths = r.shown pool tree config paths := by
  have hscanned : ∀ path ∈ paths, r'.scanned tree' config' path = r.scanned tree config path := by
    intro path hpath
    rw [scanned, scanFile, FileScan.ofFile, hsymbols, hraw, htree path hpath]
    rfl
  have hfailures : r'.failures tree' config' paths = r.failures tree config paths := by
    refine List.countP_congr fun path hpath ↦ ?_
    rw [decide_eq_true_iff, decide_eq_true_iff, ← isSome_failure_iff, ← isSome_failure_iff,
      hscanned path hpath]
  have hscans : paths.map (r'.scanned tree' config') = paths.map (r.scanned tree config) :=
    List.map_congr_left hscanned
  rw [shown_eq hpool' hpaths hformat', shown_eq hpool hpaths hformat, hfailures, hscans]

theorem failures_append (a b : List OsString) :
    r.failures tree config (a ++ b) = r.failures tree config a + r.failures tree config b :=
  List.countP_append

theorem failures_eq_zero_iff :
    r.failures tree config paths = 0 ↔ ∀ path ∈ paths, ¬ r.Fails tree config path := by
  rw [failures, List.countP_eq_zero]
  exact forall₂_congr fun path _ ↦ not_congr decide_eq_true_iff

theorem outcome_eq_ok_iff {n : Nat} : outcome n = .ok () ↔ n = 0 := by
  rw [outcome]
  split
  · exact iff_of_true rfl ‹_›
  · exact iff_of_false nofun ‹_›

/-! ### File by file -/

/-- Whether what is seen of runs is what is to be seen of their files one by one. -/
structure Filewise (pool : WorkerPool) (r : TokensRequest) (tree : FileTree) (config : Config)
    (format : OutputFormat) : Prop where
  /-- Of files before others, the output and the reports come before those of the others. -/
  append : ∀ a b, a ≠ [] → b ≠ [] →
    (r.shown pool tree config (a ++ b)).output =
        (r.shown pool tree config a).output ++ (r.shown pool tree config b).output ∧
      (r.shown pool tree config (a ++ b)).problems =
        (r.shown pool tree config a).problems ++ (r.shown pool tree config b).problems
  /-- Files that are named together are seen as if each were named alone. -/
  alone : ∀ paths, paths ≠ [] →
    (r.shown pool tree config paths).output =
        String.join (paths.map fun path ↦ (r.shown pool tree config [path]).output) ∧
      (r.shown pool tree config paths).problems =
        String.join (paths.map fun path ↦ (r.shown pool tree config [path]).problems)
  /-- Neither the workers and their number nor what is at other paths makes a difference. -/
  elsewhere : ∀ (pool' : WorkerPool) (tree' : FileTree) (jobs : Option Nat) (configured : Nat)
      (paths : List OsString),
    pool'.Reliable (workers { r with jobs } { config with output.jobs := configured }) →
    paths ≠ [] → (∀ path ∈ paths, tree'.openSource path = tree.openSource path) →
    shown pool' { r with jobs } tree' { config with output.jobs := configured } paths =
      r.shown pool tree config paths
  /-- A run succeeds if no file fails. -/
  ok_iff : ∀ paths, paths ≠ [] →
    ((r.shown pool tree config paths).result = .ok () ↔
      ∀ path ∈ paths, ¬ r.Fails tree config path)
  /-- Otherwise it says how many do. -/
  error : ∀ paths, (∃ path ∈ paths, r.Fails tree config path) →
    (r.shown pool tree config paths).result =
      .error (.execution (toString (r.failures tree config paths) ++ " file(s) failed to tokenize"))
  /-- The files that fail are counted, each as often as it is named. -/
  count : ∀ a b, r.failures tree config (a ++ b) =
    r.failures tree config a + r.failures tree config b
  /-- A file that fails is reported, with its failure. -/
  report : ∀ path,
    (¬ r.Fails tree config path → (r.shown pool tree config [path]).problems = "") ∧
      (∀ error, tree.openSource path = .error error →
        (r.shown pool tree config [path]).problems =
          "tokt: " ++ path.display ++ ": " ++ (Failure.opening error).message ++ "\n") ∧
      ∀ source error, tree.openSource path = .ok source →
        (r.scanSource config source).error = some error →
          (r.shown pool tree config [path]).problems =
            "tokt: " ++ path.display ++ ": " ++ (Failure.scanning error).message ++ "\n"
  /-- As text, there is a heading, even if the file cannot be opened, and a line for each token. -/
  text : format = .text → ∀ path,
    (r.shown pool tree config [path]).output =
        "  processing file: " ++ path.display ++ "\n" ++
          String.join ((r.scanned tree config path).tokens.map fun token ↦
            String.ofList token.textLine ++ "\n") ∧
      ∀ error, tree.openSource path = .error error →
        (r.shown pool tree config [path]).output = "  processing file: " ++ path.display ++ "\n"
  /-- As JSON, there is one document, unless the file fails before its first token. -/
  json : format = .json → ∀ path,
    (r.shown pool tree config [path]).output =
      if r.Fails tree config path ∧ (r.scanned tree config path).tokens = [] then ""
      else String.ofList (r.scanned tree config path).record.pretty ++ "\n"

section Filewise

variable (hpool : pool.Reliable (r.workers config))
  (hformat : OutputFormat.ofName? (r.format.getD config.output.format) = some format)

include hpool hformat

/-- What is seen of one file. -/
theorem shown_singleton (path : OsString) :
    r.shown pool tree config [path] =
      { output := (r.scanned tree config path).render format
        problems := (r.scanned tree config path).report.getD ""
        result := outcome (r.failures tree config [path]) } := by
  rw [shown_eq hpool (List.cons_ne_nil _ _) hformat, List.map_singleton, List.map_singleton,
    List.map_singleton, String.join_cons, String.join_cons, String.join_nil, String.append_empty,
    String.append_empty]

/-- **The files of a run can be cut anywhere.** -/
theorem shown_append {a b : List OsString} (ha : a ≠ []) (hb : b ≠ []) :
    r.shown pool tree config (a ++ b) =
      { output := (r.shown pool tree config a).output ++ (r.shown pool tree config b).output
        problems := (r.shown pool tree config a).problems ++ (r.shown pool tree config b).problems
        result := outcome (r.failures tree config a + r.failures tree config b) } := by
  rw [shown_eq hpool (List.append_ne_nil_of_left_ne_nil ha b) hformat, shown_eq hpool ha hformat,
    shown_eq hpool hb hformat, failures_append]
  simp only [List.map_append, String.join_append]

theorem result_eq_ok_iff (hpaths : paths ≠ []) :
    (r.shown pool tree config paths).result = .ok () ↔
      ∀ path ∈ paths, ¬ r.Fails tree config path := by
  rw [shown_eq hpool hpaths hformat, outcome_eq_ok_iff, failures_eq_zero_iff]

/-- **What is seen of a run is what is to be seen of its files one by one.** -/
theorem filewise (tree : FileTree) : Filewise pool r tree config format where
  append a b ha hb := by
    rw [shown_append hpool hformat ha hb]
    exact ⟨rfl, rfl⟩
  alone paths hpaths := by
    simp only [shown_singleton hpool hformat]
    rw [shown_eq hpool hpaths hformat, List.map_map, List.map_map]
    exact ⟨rfl, rfl⟩
  elsewhere pool' tree' jobs configured paths hpool' hpaths htree :=
    shown_congr hpool hpool' hpaths hformat hformat rfl rfl htree
  ok_iff paths hpaths := result_eq_ok_iff hpool hformat hpaths
  error paths := by
    rintro ⟨path, hpath, hfails⟩
    have hne : r.failures tree config paths ≠ 0 :=
      fun h ↦ failures_eq_zero_iff.1 h path hpath hfails
    rw [shown_eq hpool (List.ne_nil_of_mem hpath) hformat]
    exact if_neg hne
  count := failures_append
  report path := by
    rw [shown_singleton hpool hformat, FileScan.report]
    refine ⟨fun hfails ↦ ?_, fun error herror ↦ ?_, fun source error hsource herror ↦ ?_⟩
    · rw [← isSome_failure_iff, Option.not_isSome_iff_eq_none] at hfails
      rw [hfails]
      rfl
    · rw [scanned_of_error herror]
      rfl
    · rw [scanned_of_ok hsource, herror]
      rfl
  text := by
    rintro rfl path
    rw [shown_singleton hpool hformat]
    refine ⟨?_, fun error herror ↦ ?_⟩
    · show FileScan.render .text _ = _
      rw [FileScan.render_text, path_scanned]
    · show FileScan.render .text _ = _
      rw [FileScan.render_text, scanned_of_error herror]
      exact String.append_empty
  json := by
    rintro rfl path
    rw [shown_singleton hpool hformat]
    show FileScan.render .json _ = _
    rw [FileScan.render_json]
    simp only [isSome_failure_iff]

end Filewise

/-- **A run goes through its files one by one**, if the workers keep their order. Without files, or
with a format that is not known, it comes to nothing but this fault, whatever the workers and the
files are; that no file is named comes first. -/
theorem runOn_filewise (r : TokensRequest) (tree : FileTree) (config : Config)
    (hpool : pool.Reliable (r.workers config)) :
    let name := r.format.getD config.output.format
    (∀ format, OutputFormat.ofName? name = some format → Filewise pool r tree config format) ∧
      (∀ (pool' : WorkerPool) (tree' : FileTree),
        runOn pool' { r with files := [] } tree' config =
          ([], .error (.validation "No input files specified"))) ∧
      (OutputFormat.ofName? name = none →
        ∀ (pool' : WorkerPool) (tree' : FileTree) (paths : List OsString), paths ≠ [] →
          runOn pool' { r with files := paths } tree' config =
            ([], .error (.validation ("Unknown format: " ++ name)))) := by
  refine ⟨fun format hformat ↦ filewise hpool hformat tree, fun _ _ ↦ rfl,
    fun hname pool' tree' paths hpaths ↦ ?_⟩
  have hresolve : OutputFormat.resolve r.format config.output.format =
      .error (.unknownFormat (r.format.getD config.output.format)) := by
    rw [OutputFormat.resolve, hname]
  rw [runOn, if_neg (mt List.isEmpty_iff.1 hpaths), hresolve]
  rfl

/-- A file that is named twice, one that is missing and one with an open comment, without a number
of workers. -/
theorem runOn_filewise_halving :
    let a : OsString := .ofString "a.c"
    let b : OsString := .ofString "b.c"
    let missing : OsString := .ofString "none.c"
    let tree := (FileTree.withFile {} a "x+y\n".toUTF8).withFile b "/* z".toUTF8
    let r : TokensRequest := { files := [], format := some "Json", jobs := some 0 }
    let shown := r.shown .halving tree {}
    WorkerPool.halving.Reliable (r.workers {}) ∧
      (shown ([a, missing] ++ [b, a])).output =
          (shown [a, missing]).output ++ (shown [b, a]).output ∧
        (shown [missing]).output = "" ∧ (shown [b]).output = "" ∧
        (shown ([a, missing] ++ [b, a])).result =
          .error (.execution "2 file(s) failed to tokenize") := by
  intro a b missing tree r shown
  have hpool : WorkerPool.halving.Reliable (r.workers {}) :=
    WorkerPool.reliable_halving (r.workers_pos {})
  have hfilewise : Filewise .halving r tree {} .json :=
    (runOn_filewise r tree {} hpool).1 .json (by decide +kernel)
  have hfails : r.Fails tree {} missing := by decide +kernel
  have hcount : r.failures tree {} ([a, missing] ++ [b, a]) = 2 := by decide +kernel
  refine ⟨hpool, (hfilewise.append _ _ (by simp) (by simp)).1, ?_, ?_, ?_⟩
  · exact (hfilewise.json rfl missing).trans (by decide +kernel)
  · exact (hfilewise.json rfl b).trans (by decide +kernel)
  · rw [hfilewise.error _ ⟨missing, by simp, hfails⟩, hcount]
    rfl

end TokensRequest

end TokenScan
