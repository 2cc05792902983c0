import TokenScan.Symbol.Set
/-!
# Symbol tables

A symbol table says how punctuation is classified: it holds a set of digraphs and a set of single
symbols. Patterns of any length can be registered, but the table is only ever asked about two
characters (`isDigraph`) or one (`isSingle`), so a pattern of another length never matches
(`isDigraph_registerDigraph`, `isSingle_registerSingle`).
-/

namespace TokenScan

/-- The digraphs and single symbols by which punctuation is classified. -/
structure SymbolTable where
  /-- The two-character symbols. -/
  digraphs : PatternSet
  /-- The one-character symbols. -/
  singles : PatternSet

namespace SymbolTable

/-- The table without symbols. -/
def empty : SymbolTable := ⟨.empty, .empty⟩

/-- The table that a scan uses unless it is told otherwise. -/
def standard : SymbolTable where
  digraphs := ⟨["<<", ">>", "::", "++", "--", "==", "+=", "-=", "*=", "/=", "&&", "||"], by decide⟩
  singles := ⟨["<", ">", "[", "]", "(", ")", "\x7b", "\x7d", ":", "=", "+", "-", "*"], by decide⟩

instance : Inhabited SymbolTable := ⟨standard⟩

/-- Whether one character followed by another is a digraph of the table. -/
def isDigraph (t : SymbolTable) (first second : Char) : Bool :=
  t.digraphs.contains (String.ofList [first, second])

/-- Whether a character is a single symbol of the table. -/
def isSingle (t : SymbolTable) (c : Char) : Bool := t.singles.contains (String.ofList [c])

/-- Registers a digraph, and tells whether it is new. -/
def registerDigraph (t : SymbolTable) (pattern : String) : Bool × SymbolTable :=
  (!t.digraphs.contains pattern, { t with digraphs := t.digraphs.insert pattern })

/-- Registers a single symbol, and tells whether it is new. -/
def registerSingle (t : SymbolTable) (pattern : String) : Bool × SymbolTable :=
  (!t.singles.contains pattern, { t with singles := t.singles.insert pattern })

/-- Registers digraphs, then single symbols, each list in order. -/
def registerAll (t : SymbolTable) (digraphs singles : List String) : SymbolTable where
  digraphs := t.digraphs.insertAll digraphs
  singles := t.singles.insertAll singles

/-- Whether two tables hold the same symbols, whatever the order of registration. -/
def equiv (t u : SymbolTable) : Bool := t.digraphs.equiv u.digraphs && t.singles.equiv u.singles

theorem isDigraph_iff {t : SymbolTable} {a b : Char} :
    t.isDigraph a b = true ↔ String.ofList [a, b] ∈ t.digraphs := PatternSet.contains_eq_true

theorem isSingle_iff {t : SymbolTable} {c : Char} :
    t.isSingle c = true ↔ String.ofList [c] ∈ t.singles := PatternSet.contains_eq_true

/-- A registration adds the pair that the pattern consists of, if it consists of a pair. -/
theorem isDigraph_registerDigraph (t : SymbolTable) (p : String) (a b : Char) :
    (t.registerDigraph p).2.isDigraph a b = (t.isDigraph a b || decide (p.toList = [a, b])) := by
  rw [Bool.eq_iff_iff, isDigraph_iff, registerDigraph, PatternSet.mem_insert, ← isDigraph_iff,
    Bool.or_eq_true, decide_eq_true_iff]
  exact or_congr_right ⟨fun h ↦ by rw [← h, String.toList_ofList],
    fun h ↦ by rw [← h, String.ofList_toList]⟩

/-- A registration adds the character that the pattern consists of, if it consists of one. -/
theorem isSingle_registerSingle (t : SymbolTable) (p : String) (c : Char) :
    (t.registerSingle p).2.isSingle c = (t.isSingle c || decide (p.toList = [c])) := by
  rw [Bool.eq_iff_iff, isSingle_iff, registerSingle, PatternSet.mem_insert, ← isSingle_iff,
    Bool.or_eq_true, decide_eq_true_iff]
  exact or_congr_right ⟨fun h ↦ by rw [← h, String.toList_ofList],
    fun h ↦ by rw [← h, String.ofList_toList]⟩

end SymbolTable

end TokenScan
