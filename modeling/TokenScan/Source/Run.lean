import TokenScan.Source.Basic
import TokenScan.Symbol.Table
import TokenScan.Text.Alphanumeric
import TokenScan.Text.Whitespace
/-!
# Runs and digraphs

The tokens without a terminator. A run of white space, of letters and digits, or of single symbols
takes its first character whatever it is and goes on as long as characters are in the class; a run
of punctuation takes only what is neither white space nor a letter or digit. A digraph is taken
only if the table has it.

`run_eq` says what is taken and what is left.
-/

namespace TokenScan.Source

/-- Takes the first character, whatever it is, and the longest run in a class that follows. -/
def run (s : Source) (p : Char → Bool) : List Char × Source :=
  match s.next with
  | (none, t) => ([], t)
  | (some c, t) => t.eatWhile [c] p

/-- Takes a run of white space. -/
def whitespace (s : Source) : List Char × Source := s.run Text.isWhitespace

/-- Takes a run of letters and digits. -/
def alphanumeric (s : Source) : List Char × Source := s.run Text.isAlphanumeric

/-- Takes a run of single symbols. -/
def symbolRun (s : Source) (symbols : SymbolTable) : List Char × Source := s.run symbols.isSingle

/-- Whether a character is neither white space nor a letter or digit. -/
def isPunctuation (c : Char) : Bool := !(Text.isWhitespace c || Text.isAlphanumeric c)

/-- Takes a run of punctuation, which may be empty. -/
def punctuation (s : Source) : List Char × Source := s.eatWhile [] isPunctuation

/-- Takes two characters if the table has them as a digraph, and nothing otherwise. -/
def digraph (s : Source) (symbols : SymbolTable) : List Char × Source :=
  match s.peek 0 with
  | (some first, t) =>
    match t.peek 1 with
    | (some second, u) => if symbols.isDigraph first second then u.read 2 else ([], u)
    | (none, u) => ([], u)
  | (none, t) => ([], (t.peek 1).2)

theorem run_eq (s : Source) (p : Char → Bool) :
    s.remaining = (s.run p).1 ++ (s.run p).2.remaining ∧
      (s.run p).2.line = lineAfter s.line (s.run p).1 := by
  rw [run]
  split
  · next t h =>
    obtain ⟨hs, ht, hl⟩ := eq_of_next_none h
    simp [hs, ht, hl]
  · next c t h =>
    obtain ⟨hs, hl⟩ := eq_of_next_some h
    refine ⟨?_, ?_⟩
    · rw [hs, eatWhile_fst, remaining_eatWhile, List.append_assoc, List.takeWhile_append_dropWhile]
      rfl
    · rw [eatWhile_fst, line_eatWhile, hl]
      exact (lineAfter_cons s.line c _).symm

theorem punctuation_eq (s : Source) :
    s.remaining = s.punctuation.1 ++ s.punctuation.2.remaining ∧
      s.punctuation.2.line = lineAfter s.line s.punctuation.1 := by
  rw [punctuation, eatWhile_fst, remaining_eatWhile, line_eatWhile, List.nil_append,
    List.takeWhile_append_dropWhile]
  exact ⟨rfl, rfl⟩

theorem digraph_eq (s : Source) (symbols : SymbolTable) :
    s.remaining = (s.digraph symbols).1 ++ (s.digraph symbols).2.remaining ∧
      (s.digraph symbols).2.line = lineAfter s.line (s.digraph symbols).1 := by
  rw [digraph]
  split
  · next a t h =>
    obtain ⟨-, hr, hl⟩ := eq_of_peek h
    split
    · next b u hu =>
      obtain ⟨-, hr₁, hl₁⟩ := eq_of_peek hu
      split
      · rw [remaining_read, line_read, read_fst, hr₁, hr, hl₁, hl, List.take_append_drop]
        exact ⟨rfl, rfl⟩
      · simp [hr₁, hr, hl₁, hl]
    · next u hu =>
      obtain ⟨-, hr₁, hl₁⟩ := eq_of_peek hu
      simp [hr₁, hr, hl₁, hl]
  · next t h =>
    obtain ⟨-, hr, hl⟩ := eq_of_peek h
    simp [hr, hl]

end TokenScan.Source
