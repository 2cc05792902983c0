import TokenScan.Command.Symbols
import TokenScan.Proofs.Json.Reader
import TokenScan.Session.Call
/-!
# The symbols of a run

The symbols of a run are put together from the standard ones, those of the configuration and those
that are asked for besides. `SymbolTable.build_eraseDups` says what comes of it: each pattern stands
where it came first, each registration answers whether the pattern is new, and the table that is
listed is the table that the listing makes.

Everything about order comes from one fact about pattern sets: inserting patterns one after the other
is listing them and dropping repetitions (`PatternSet.toList_insertAll`). A set that is listed has no
repetitions to drop, so a listing can be fed back (`PatternSet.insertAll_toList`).

A registration by itself is a call on a session, which answers whether the pattern is new
(`Session.performAll_registerDigraphs`, `Session.performAll_registerSingles`).
-/

namespace TokenScan

/-! ### Lists without repetitions -/

namespace PatternSet

variable {s : PatternSet} {p : String} {ps : List String}

/-- A list without repetitions has none to drop. -/
theorem eraseDups_eq_self {ps : List String} (h : ps.Nodup) : ps.eraseDups = ps := by
  induction ps with
  | nil => rfl
  | cons p ps ih =>
    obtain ⟨hp, hps⟩ := List.nodup_cons.1 h
    have hfilter : ps.filter (fun q ↦ !q == p) = ps := by
      refine List.filter_eq_self.2 fun q hq ↦ ?_
      rw [Bool.not_eq_true', beq_eq_false_iff_ne]
      exact ne_of_mem_of_not_mem hq hp
    rw [List.eraseDups_cons, hfilter, ih hps]

/-- A pattern that is listed already can be left out behind. -/
theorem eraseDups_append_cons_of_mem {known : List String} (h : p ∈ known) (ps : List String) :
    (known ++ p :: ps).eraseDups = (known ++ ps).eraseDups := by
  rw [List.eraseDups_append, List.eraseDups_append, List.cons_removeAll, if_neg (by simp [h])]

/-- **Inserting patterns in turn lists each where it came first.** -/
theorem toList_insertAll (s : PatternSet) (ps : List String) :
    (s.insertAll ps).toList = (s.toList ++ ps).eraseDups := by
  induction ps generalizing s with
  | nil => rw [insertAll_nil, List.append_nil, eraseDups_eq_self s.nodup]
  | cons p ps ih =>
    rw [insertAll_cons, ih]
    by_cases h : p ∈ s
    · rw [insert_of_mem h, eraseDups_append_cons_of_mem h]
    · rw [toList_insert_of_not_mem h, List.append_assoc, List.singleton_append]

/-- **A set is what its listing makes.** -/
theorem insertAll_toList (s : PatternSet) : empty.insertAll s.toList = s :=
  ext (by rw [toList_insertAll, toList_empty, List.nil_append, eraseDups_eq_self s.nodup])

end PatternSet

/-! ### Registrations one after the other -/

/-- Whether each of some patterns is new: neither known nor among those before it. -/
def newcomers (known ps : List String) : List Bool :=
  ps.mapIdx fun i p ↦ decide (p ∉ known ++ ps.take i)

theorem newcomers_cons (known : List String) (p : String) (ps : List String) :
    newcomers known (p :: ps) = decide (p ∉ known) :: newcomers (known ++ [p]) ps := by
  simp [newcomers, List.mapIdx_cons]

/-- It only matters which patterns are known. -/
theorem newcomers_congr {known known' : List String} (h : ∀ p, p ∈ known ↔ p ∈ known')
    (ps : List String) : newcomers known ps = newcomers known' ps := by
  simp only [newcomers, List.mem_append, h]

/-- The patterns known to a set that one was inserted into. -/
theorem newcomers_insert (s : PatternSet) (p : String) (ps : List String) :
    newcomers (s.insert p).toList ps = newcomers (s.toList ++ [p]) ps :=
  newcomers_congr (fun q ↦ by simp) ps

namespace Session

theorem performAll_append (s : Session) (calls more : List Call) :
    s.performAll (calls ++ more) =
      ((s.performAll calls).1 ++ ((s.performAll calls).2.performAll more).1,
        ((s.performAll calls).2.performAll more).2) := by
  induction calls generalizing s with
  | nil => rfl
  | cons call calls ih =>
    show ((s.perform call).answer :: ((s.perform call).session.performAll (calls ++ more)).1,
      ((s.perform call).session.performAll (calls ++ more)).2) = _
    rw [ih]
    rfl

/-- **Patterns that are registered in turn are answered by whether they are new**, for either way of
registering them. -/
theorem performAll_map_register (known : SymbolTable → PatternSet) {call : String → Call}
    {register : SymbolTable → String → Bool × SymbolTable}
    (hanswer : ∀ t p, ((withSymbols t).perform (call p)).answer = .added (register t p).1)
    (hsession : ∀ t p, ((withSymbols t).perform (call p)).session = withSymbols (register t p).2)
    (hnew : ∀ t p, (register t p).1 = !(known t).contains p)
    (hknown : ∀ t p, known (register t p).2 = (known t).insert p) (t : SymbolTable)
    (ps : List String) :
    (withSymbols t).performAll (ps.map call) =
      ((newcomers (known t).toList ps).map .added,
        withSymbols (ps.foldl (fun t p ↦ (register t p).2) t)) := by
  induction ps generalizing t with
  | nil => rfl
  | cons p ps ih =>
    have hrest := ih (register t p).2
    rw [hknown, newcomers_insert] at hrest
    have hfirst : (register t p).1 = decide (p ∉ (known t).toList) :=
      (hnew t p).trans decide_not.symm
    rw [newcomers_cons, List.map_cons, List.map_cons, List.foldl_cons, ← hfirst, ← hanswer t p,
      performAll, hsession, hrest]

theorem performAll_registerDigraphs (t : SymbolTable) (ps : List String) :
    (withSymbols t).performAll (ps.map .registerDigraph) =
      ((newcomers t.digraphs.toList ps).map .added, withSymbols (t.registerAll ps [])) := by
  rw [← SymbolTable.foldl_registerDigraph]
  exact performAll_map_register SymbolTable.digraphs (fun _ _ ↦ rfl) (fun _ _ ↦ rfl)
    (fun _ _ ↦ rfl) (fun _ _ ↦ rfl) t ps

theorem performAll_registerSingles (t : SymbolTable) (ps : List String) :
    (withSymbols t).performAll (ps.map .registerSingle) =
      ((newcomers t.singles.toList ps).map .added, withSymbols (t.registerAll [] ps)) := by
  rw [← SymbolTable.foldl_registerSingle]
  exact performAll_map_register SymbolTable.singles (fun _ _ ↦ rfl) (fun _ _ ↦ rfl)
    (fun _ _ ↦ rfl) (fun _ _ ↦ rfl) t ps

/-- **Registering digraphs and then single symbols** answers each by whether it is new. -/
theorem performAll_registerAll (t : SymbolTable) (digraphs singles : List String) :
    (withSymbols t).performAll (digraphs.map .registerDigraph ++ singles.map .registerSingle) =
      ((newcomers t.digraphs.toList digraphs ++ newcomers t.singles.toList singles).map .added,
        withSymbols (t.registerAll digraphs singles)) := by
  rw [performAll_append, performAll_registerDigraphs, performAll_registerSingles, List.map_append]
  rfl

end Session

/-! ### Events with an output behind them -/

namespace Emission

theorem eventsOf_append_output (es : List Event) (text : String) :
    eventsOf (es.map .event ++ [.output text]) = es := by
  rw [eventsOf, List.filterMap_append, List.filterMap_map]
  show es.filterMap some ++ [] = es
  rw [List.filterMap_some, List.append_nil]

theorem outputOf_append_output (es : List Event) (text : String) :
    outputOf (es.map .event ++ [.output text]) = text := by
  rw [outputOf, join_map_append, join_map_event fun _ ↦ rfl, List.map_singleton, String.join_cons,
    String.join_nil, String.append_empty, String.empty_append]
  rfl

end Emission

/-! ### The table of a run -/

namespace SymbolSettings

/-- The settings that a listing of a table stands for: its symbols and no others. -/
def ofListing? (data : ByteArray) : Option SymbolSettings := do
  match ← Json.ofBytes? data with
  | [j] =>
    let digraphs ← (← j.get? "digraphs").list? Json.string?
    let singles ← (← j.get? "singles").list? Json.string?
    return { defaults := false, digraphs, singles }
  | _ => none

end SymbolSettings

namespace SymbolTable

open Session (withSymbols)

theorem fitsWithin_record (t : SymbolTable) (depth : Nat) : t.record.FitsWithin (depth + 2) := by
  simp [record, Json.strings, Json.FitsWithin]

/-- **The JSON listing of a table tells its symbols in their order.** -/
theorem ofListing?_render (t : SymbolTable) :
    SymbolSettings.ofListing? (t.render .json).toUTF8 =
      some ⟨false, t.digraphs.toList, t.singles.toList⟩ := by
  have htext : (t.render .json).toList =
      [] ++ [t.record].flatMap fun j ↦ j.pretty ++ ['\n'] := by
    rw [List.nil_append, List.flatMap_singleton]
    exact String.toList_ofList
  have hread : Json.ofBytes? (t.render .json).toUTF8 = some [t.record] := by
    rw [Json.ofBytes?_toUTF8, htext]
    exact Json.documents?_flatMap _ (List.forall_mem_singleton.2 (t.fitsWithin_record _))
      Json.isGap_nil
  have hstrings (ps : List String) : (Json.strings ps).list? Json.string? = some ps := by
    have htold : ∀ p ∈ ps, Json.string? (.string p) = some (id p) := fun _ _ ↦ rfl
    have hall := Json.mapM_map_eq_some htold
    rwa [List.map_id] at hall
  have hdigraphs : t.record.get? "digraphs" = some (.strings t.digraphs.toList) := rfl
  have hsingles : t.record.get? "singles" = some (.strings t.singles.toList) := rfl
  simp only [SymbolSettings.ofListing?, hread, hdigraphs, hsingles, hstrings, Option.bind_eq_bind,
    Option.bind_some]
  rfl

/-- A table that is built from what it lists is the same table. -/
theorem build_toList (t : SymbolTable) :
    build ⟨false, t.digraphs.toList, t.singles.toList⟩ [] [] = t := by
  rw [build_eq, List.append_nil, List.append_nil, registerAll]
  show mk (PatternSet.empty.insertAll _) (PatternSet.empty.insertAll _) = t
  rw [PatternSet.insertAll_toList, PatternSet.insertAll_toList]

/-- **The symbols of a run are those given, each where it came first, and their listing makes them
again.**

Each set lists the patterns that it starts from, then those of the configuration and then those asked
for besides, without repetitions. Registering them one by one answers each by whether it is new, and
gives rise to this table. For each time that a pattern is given whose length cannot match there is a
warning, digraphs first. It makes no difference where the configuration ends and what is asked for
besides begins. The command that shows the symbols tells these warnings, and what it puts out as JSON
is read as a configuration from which the same table is built, with its symbols in the same order, so
that texts are scanned alike. -/
theorem build_eraseDups (settings : SymbolSettings) (digraphs singles : List String) :
    let table := build settings digraphs singles
    let start := if settings.defaults then standard else empty
    let allDigraphs := settings.digraphs ++ digraphs
    let allSingles := settings.singles ++ singles
    (table.digraphs.toList = (start.digraphs.toList ++ allDigraphs).eraseDups ∧
      table.singles.toList = (start.singles.toList ++ allSingles).eraseDups) ∧
    (withSymbols start).performAll
        (allDigraphs.map .registerDigraph ++ allSingles.map .registerSingle) =
      ((newcomers start.digraphs.toList allDigraphs ++
          newcomers start.singles.toList allSingles).map .added, withSymbols table) ∧
    warnings settings digraphs singles =
      (allDigraphs.flatMap fun p ↦ if p.length = 2 then [] else [.unmatchableDigraph p]) ++
        allSingles.flatMap (fun p ↦ if p.length = 1 then [] else [.unmatchableSingle p]) ∧
    (∀ ds ds' ss ss' : List String,
      let moved := { settings with
        digraphs := settings.digraphs ++ ds
        singles := settings.singles ++ ss }
      build moved ds' ss' = build settings (ds ++ ds') (ss ++ ss') ∧
        warnings moved ds' ss' = warnings settings (ds ++ ds') (ss ++ ss')) ∧
    ∀ (format : Option String) (output : OutputSettings),
      OutputFormat.ofName? (format.getD output.format) = some .json →
      let emissions := (SymbolsRequest.run { format, digraphs, singles }
        { symbols := settings, output }).1
      Emission.eventsOf emissions = warnings settings digraphs singles ∧
        ∃ listed, SymbolSettings.ofListing? (Emission.outputOf emissions).toUTF8 = some listed ∧
          listed.defaults = false ∧ listed.digraphs = table.digraphs.toList ∧
          listed.singles = table.singles.toList ∧ build listed [] [] = table ∧
          ∀ (text : String) (raw : Bool),
            ((withSymbols (build listed [] [])).bind (.ofText text)).scan raw =
              ((withSymbols table).bind (.ofText text)).scan raw := by
  intro table start allDigraphs allSingles
  have htable : table = start.registerAll allDigraphs allSingles :=
    build_eq settings digraphs singles
  refine ⟨?_, ?_, warnings_eq settings digraphs singles, fun ds ds' ss ss' ↦ ?_,
    fun format output hformat ↦ ?_⟩
  · rw [htable]
    exact ⟨PatternSet.toList_insertAll _ _, PatternSet.toList_insertAll _ _⟩
  · rw [htable]
    exact Session.performAll_registerAll _ _ _
  · constructor <;> simp [build_eq, base, warnings_eq]
  · intro emissions
    have hemissions : emissions = (warnings settings digraphs singles).map .event ++
        [.output (table.render .json)] := by
      show (SymbolsRequest.run _ _).1 = _
      rw [SymbolsRequest.run, OutputFormat.resolve, hformat]
    rw [hemissions, Emission.eventsOf_append_output, Emission.outputOf_append_output]
    refine ⟨rfl, ⟨false, table.digraphs.toList, table.singles.toList⟩, ofListing?_render table,
      rfl, rfl, rfl, build_toList table, fun text raw ↦ ?_⟩
    rw [build_toList]

/-- Patterns that are given twice, are among the standard ones or have the wrong length, and a format
whose name comes from the configuration. -/
theorem build_eraseDups_of_repeated :
    let settings : SymbolSettings := { digraphs := ["->", "==", "abc"], singles := ["@"] }
    OutputFormat.ofName? ((none : Option String).getD "JSON") = some .json ∧
      (build settings ["abc", "->"] ["@", ""]).singles.toList =
        (standard.singles.toList ++ ["@", "@", ""]).eraseDups ∧
      warnings settings ["abc", "->"] ["@", ""] =
        [.unmatchableDigraph "abc", .unmatchableDigraph "abc", .unmatchableSingle ""] ∧
      ∃ listed, SymbolSettings.ofListing? (Emission.outputOf
          (SymbolsRequest.run { digraphs := ["abc", "->"], singles := ["@", ""] }
            { symbols := settings, output := { format := "JSON" } }).1).toUTF8 = some listed ∧
        build listed [] [] = build settings ["abc", "->"] ["@", ""] := by
  intro settings
  have hformat : OutputFormat.ofName? ((none : Option String).getD "JSON") = some .json := by
    decide +kernel
  obtain ⟨⟨-, hsingles⟩, -, hwarnings, -, hcommand⟩ :=
    build_eraseDups settings ["abc", "->"] ["@", ""]
  obtain ⟨-, listed, hread, -, -, -, hbuild, -⟩ := hcommand none { format := "JSON" } hformat
  exact ⟨hformat, hsingles, hwarnings.trans (by decide +kernel), listed, hread, hbuild⟩

end SymbolTable

end TokenScan
