import TokenScan.Command.Emission
import TokenScan.Report.File
import TokenScan.Symbol.Build
/-!
# Tokenizing files

The command scans every file that is named and puts the results out in the order in which the files
are named. A file that fails is reported after what came of it, and does not keep the others from
being scanned; the run fails at the end if any did.

Two faults are found before any file is read: no file is named, or the format is not known, in this
order.

The files are scanned by a pool of workers, of which there is at least one. How the workers share
the files out among themselves is up to the pool (`WorkerPool`), and so is whether it can be started
at all; `runOn` runs the command with any pool, `run` with one that takes the files in order.
-/

namespace TokenScan

/-- What the command is asked for. -/
structure TokensRequest where
  /-- The files. -/
  files : List OsString
  /-- The name of the format, unless the configured one is to be used. -/
  format : Option String := none
  /-- Whether white space counts as tokens. The configuration may say so as well. -/
  raw : Bool := false
  /-- Further digraphs. -/
  digraphs : List String := []
  /-- Further single symbols. -/
  singles : List String := []
  /-- How many files are scanned at a time, unless the configured number is to be used. -/
  jobs : Option Nat := none

/-- A pool of workers that go through a list, several members at a time. -/
structure WorkerPool where
  /-- What a number of workers bring together when each member is worked on, or why the pool cannot
  be started. -/
  collect : {α β : Type} → Nat → (α → β) → List α → Except String (List β)

/-- The pool that takes one member after the other. -/
def WorkerPool.sequential : WorkerPool where
  collect _ f xs := .ok (xs.map f)

namespace TokensRequest

/-- The number of workers, which is at least one. -/
def workers (r : TokensRequest) (config : Config) : Nat := max (r.jobs.getD config.output.jobs) 1

/-- The symbols of the run. -/
def symbols (r : TokensRequest) (config : Config) : SymbolTable :=
  .build config.symbols r.digraphs r.singles

/-- Scans one of the files. -/
def scanFile (r : TokensRequest) (files : FileTree) (config : Config) :
    OsString → FileScan × List Event :=
  FileScan.ofFile files (r.symbols config) (r.raw || config.output.raw)

/-- What is put out and reported for one file. -/
def emissions (format : OutputFormat) (s : FileScan) : List Emission :=
  .output (s.render format) :: (s.report.map Emission.problem).toList

/-- What a run comes to when files have failed. -/
def outcome (failed : Nat) : Except Failure Unit :=
  if failed = 0 then .ok () else .error (.filesFailed failed)

/-- Runs the command with a pool of workers. -/
def runOn (pool : WorkerPool) (r : TokensRequest) (files : FileTree) (config : Config) :
    List Emission × Except Failure Unit :=
  if r.files.isEmpty then ([], .error .noInput)
  else
    match OutputFormat.resolve r.format config.output.format with
    | .error failure => ([], .error failure)
    | .ok format =>
      let before := SymbolTable.warnings config.symbols r.digraphs r.singles ++
        [Event.startingWorkers (r.workers config)]
      match pool.collect (r.workers config) (r.scanFile files config) r.files with
      | .error problem => (before.map .event, .error (.poolNotStarted problem))
      | .ok scans =>
        let failed := (scans.filter fun s ↦ s.1.failure.isSome).length
        ((before ++ scans.flatMap Prod.snd).map .event ++
            scans.flatMap (fun s ↦ emissions format s.1) ++
            [.event (.tokenized scans.length failed)],
          outcome failed)

/-- Runs the command. -/
def run (r : TokensRequest) (files : FileTree) (config : Config) :
    List Emission × Except Failure Unit := r.runOn .sequential files config

end TokensRequest

end TokenScan
