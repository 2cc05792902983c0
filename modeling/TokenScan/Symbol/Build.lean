import TokenScan.Config
import TokenScan.Symbol.Table
/-!
# The symbol table of a run

The symbols of a run are those of the configuration and those that are asked for besides, in this
order, on top of the standard ones unless the configuration leaves them out. A pattern of the wrong
length is registered like any other, but can never match, so each time it is given there is a
warning.

Patterns are registered and warned about one after the other (`registerWarning`). The table that
comes of it (`build`) does not depend on the warnings (`build_eq`), nor they on the table
(`warnings_eq`).
-/

namespace TokenScan.SymbolTable

/-- The symbols that a configuration starts from. -/
def base (settings : SymbolSettings) : SymbolTable := if settings.defaults then standard else empty

/-- Registers patterns one after the other, with a warning about each that does not have some
length. -/
def registerWarning (register : SymbolTable → String → Bool × SymbolTable) (length : Nat)
    (warning : String → Event) (t : SymbolTable) : List String → List Event × SymbolTable
  | [] => ([], t)
  | p :: ps =>
    let (events, last) := registerWarning register length warning (register t p).2 ps
    ((if p.length = length then [] else [warning p]) ++ events, last)

/-- Registers the symbols of a configuration and those that are asked for besides, with the warnings
about patterns that can never match. -/
def assemble (settings : SymbolSettings) (digraphs singles : List String) :
    List Event × SymbolTable :=
  let (before, t) := registerWarning registerDigraph 2 .unmatchableDigraph (base settings)
    (settings.digraphs ++ digraphs)
  let (after, t) := registerWarning registerSingle 1 .unmatchableSingle t
    (settings.singles ++ singles)
  (before ++ after, t)

/-- The symbols of a configuration and those that are asked for besides. -/
def build (settings : SymbolSettings) (digraphs singles : List String) : SymbolTable :=
  (assemble settings digraphs singles).2

/-- The warnings about patterns that can never match. -/
def warnings (settings : SymbolSettings) (digraphs singles : List String) : List Event :=
  (assemble settings digraphs singles).1

theorem registerWarning_eq (register : SymbolTable → String → Bool × SymbolTable) (length : Nat)
    (warning : String → Event) (t : SymbolTable) (ps : List String) :
    registerWarning register length warning t ps =
      (ps.flatMap fun p ↦ if p.length = length then [] else [warning p],
        ps.foldl (fun t p ↦ (register t p).2) t) := by
  induction ps generalizing t with
  | nil => rfl
  | cons p ps ih => rw [registerWarning, ih, List.flatMap_cons, List.foldl_cons]

theorem foldl_registerDigraph (t : SymbolTable) (ps : List String) :
    ps.foldl (fun t p ↦ (registerDigraph t p).2) t = t.registerAll ps [] := by
  induction ps generalizing t with
  | nil => rfl
  | cons p ps ih => exact ih (t.registerDigraph p).2

theorem foldl_registerSingle (t : SymbolTable) (ps : List String) :
    ps.foldl (fun t p ↦ (registerSingle t p).2) t = t.registerAll [] ps := by
  induction ps generalizing t with
  | nil => rfl
  | cons p ps ih => exact ih (t.registerSingle p).2

/-- **All symbols are registered**, whatever their lengths. -/
theorem build_eq (settings : SymbolSettings) (digraphs singles : List String) :
    build settings digraphs singles =
      (base settings).registerAll (settings.digraphs ++ digraphs)
        (settings.singles ++ singles) := by
  simp only [build, assemble, registerWarning_eq, foldl_registerDigraph, foldl_registerSingle]
  rfl

/-- **There is a warning for each time that a pattern of the wrong length is given.** -/
theorem warnings_eq (settings : SymbolSettings) (digraphs singles : List String) :
    warnings settings digraphs singles =
      ((settings.digraphs ++ digraphs).flatMap fun p ↦
          if p.length = 2 then [] else [.unmatchableDigraph p]) ++
        (settings.singles ++ singles).flatMap fun p ↦
          if p.length = 1 then [] else [.unmatchableSingle p] := by
  simp only [warnings, assemble, registerWarning_eq]

end TokenScan.SymbolTable
