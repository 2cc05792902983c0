import TokenScan.Proofs.Grammar
/-!
# Symbol tables that say the same about a text

A scan asks its table about the characters of its text: whether one of them is a single symbol, and
whether two that stand side by side are a digraph. It does not ask about pairs that start with white
space, a letter or a digit. Two tables that answer these questions alike (`SymbolTable.SameOn`) cut
the text alike: the same kind comes first, and the same texts are lexemes (`SameOn.firstMatch_iff`,
`SameOn.isLexeme`).

Tables with the same patterns say the same about every text, whatever the order in which the
patterns were registered (`SameOn.of_equiv`). So do tables of which one has a pattern more, if the
pattern is idle on the text: a digraph that is not asked about (`IdleDigraph`), or a single symbol
that does not occur (`IdleSingle`).
-/

namespace TokenScan

open Text

namespace SymbolTable

variable {symbols symbols' : SymbolTable} {k : TokenKind} {cs ds text : List Char}

/-- Whether two tables answer alike what a scan of a text may ask. -/
structure SameOn (symbols symbols' : SymbolTable) (cs : List Char) : Prop where
  /-- The same characters are single symbols. -/
  isSingle : ∀ c ∈ cs, symbols.isSingle c = symbols'.isSingle c
  /-- The same pairs are digraphs, among those that do not start with white space, a letter or a
  digit. -/
  isDigraph : ∀ c d, [c, d] <:+: cs → isWhitespace c = false → isAlphanumeric c = false →
    symbols.isDigraph c d = symbols'.isDigraph c d

namespace SameOn

/-- Less is asked about less text. -/
theorem suffix (h : symbols.SameOn symbols' cs) (hds : ds <:+ cs) : symbols.SameOn symbols' ds where
  isSingle c hc := h.isSingle c (hds.subset hc)
  isDigraph c d hpair := h.isDigraph c d (hpair.trans hds.isInfix)

/-- The same kind is called for. -/
theorem kindAt_eq (h : symbols.SameOn symbols' cs) : symbols.kindAt cs = symbols'.kindAt cs := by
  rcases cs with - | ⟨c, rest⟩
  · rfl
  rw [kindAt, kindAt]
  split
  · rfl
  split
  · rfl
  next hw ha =>
  have hsingle := h.isSingle c List.mem_cons_self
  have hpairs : rest.head?.any (symbols.isDigraph c) = rest.head?.any (symbols'.isDigraph c) := by
    rcases rest with - | ⟨d, rest⟩
    · rfl
    · have hpair : [c, d] <:+: c :: d :: rest := ⟨[], rest, rfl⟩
      exact h.isDigraph c d hpair (Bool.eq_false_iff.2 hw) (Bool.eq_false_iff.2 ha)
  rw [kindOfPunctuation.eq_def, kindOfPunctuation.eq_def, hpairs, hsingle]

/-- **The same kind comes first.** -/
theorem firstMatch_iff (h : symbols.SameOn symbols' cs) :
    symbols.FirstMatch k cs ↔ symbols'.FirstMatch k cs := by
  rw [firstMatch_iff_kindAt, firstMatch_iff_kindAt, h.kindAt_eq]

/-- A lexeme for one table is a lexeme for the other. -/
theorem isLexeme (h : symbols.SameOn symbols' cs) (htext : symbols.IsLexeme k cs text) :
    symbols'.IsLexeme k cs text := by
  cases k
  case symbolRun =>
    refine IsLongest.congr (fun u hu ↦ forall₂_congr fun c hc ↦ ?_) htext
    rw [← isSingle_iff, ← isSingle_iff, h.isSingle c (hu.subset hc)]
  all_goals exact htext

/-- Tables with the same patterns say the same about every text. -/
theorem of_equiv (h : symbols.equiv symbols' = true) (cs : List Char) :
    symbols.SameOn symbols' cs := by
  obtain ⟨hdigraphs, hsingles⟩ := Bool.and_eq_true_iff.1 h
  rw [PatternSet.equiv_iff] at hdigraphs hsingles
  constructor
  · intro c _
    rw [Bool.eq_iff_iff, isSingle_iff, isSingle_iff]
    exact hsingles _
  · intro c d _ _ _
    rw [Bool.eq_iff_iff, isDigraph_iff, isDigraph_iff]
    exact hdigraphs _

/-- Tables that say the same still do when the same digraph is registered in both. -/
theorem registerDigraph (h : symbols.SameOn symbols' cs) (p : String) :
    (symbols.registerDigraph p).2.SameOn (symbols'.registerDigraph p).2 cs where
  isSingle c hc := h.isSingle c hc
  isDigraph c d hpair hw ha := by
    rw [isDigraph_registerDigraph, isDigraph_registerDigraph, h.isDigraph c d hpair hw ha]

/-- Tables that say the same still do when the same single symbol is registered in both. -/
theorem registerSingle (h : symbols.SameOn symbols' cs) (p : String) :
    (symbols.registerSingle p).2.SameOn (symbols'.registerSingle p).2 cs where
  isSingle c hc := by rw [isSingle_registerSingle, isSingle_registerSingle, h.isSingle c hc]
  isDigraph c d hpair hw ha := h.isDigraph c d hpair hw ha

end SameOn

/-! ### Patterns that are not asked about -/

/-- Whether a scan of a text never asks about a digraph: it is not two characters long, it starts
with white space, a letter or a digit, or its characters do not stand side by side in the text. -/
def IdleDigraph (p : String) (cs : List Char) : Prop :=
  p.length ≠ 2 ∨ (∃ c ∈ p.toList.head?, isWhitespace c = true ∨ isAlphanumeric c = true) ∨
    ¬ p.toList <:+: cs

/-- Whether a scan of a text never asks about a single symbol: it is not one character long, or its
character does not occur in the text. -/
def IdleSingle (p : String) (cs : List Char) : Prop :=
  p.length ≠ 1 ∨ ∀ c ∈ p.toList, c ∉ cs

/-- **A digraph that is not asked about makes no difference.** -/
theorem SameOn.of_idleDigraph {p : String} (h : IdleDigraph p cs) (symbols : SymbolTable) :
    symbols.SameOn (symbols.registerDigraph p).2 cs where
  isSingle c _ := rfl
  isDigraph c d hpair hw ha := by
    have hne : p.toList ≠ [c, d] := by
      intro hp
      rcases h with hlength | ⟨c', hc', hclass⟩ | habsent
      · exact hlength (by rw [← String.length_toList, hp]; rfl)
      · rw [hp] at hc'
        obtain rfl : c = c' := Option.some.inj hc'
        simp [hw, ha] at hclass
      · exact habsent (hp ▸ hpair)
    rw [isDigraph_registerDigraph, decide_eq_false hne, Bool.or_false]

/-- **A single symbol that is not asked about makes no difference.** -/
theorem SameOn.of_idleSingle {p : String} (h : IdleSingle p cs) (symbols : SymbolTable) :
    symbols.SameOn (symbols.registerSingle p).2 cs where
  isSingle c hc := by
    have hne : p.toList ≠ [c] := by
      intro hp
      rcases h with hlength | habsent
      · exact hlength (by rw [← String.length_toList, hp]; rfl)
      · exact habsent c (hp ▸ List.mem_singleton_self c) hc
    rw [isSingle_registerSingle, decide_eq_false hne, Bool.or_false]
  isDigraph c d _ _ _ := rfl

/-! ### Registering the same pattern in two tables -/

/-- Whether a pattern is new is the same for tables with the same patterns. -/
theorem contains_of_equiv (h : symbols.equiv symbols' = true) (p : String) :
    symbols.digraphs.contains p = symbols'.digraphs.contains p ∧
      symbols.singles.contains p = symbols'.singles.contains p := by
  obtain ⟨hdigraphs, hsingles⟩ := Bool.and_eq_true_iff.1 h
  rw [PatternSet.equiv_iff] at hdigraphs hsingles
  constructor
  · rw [Bool.eq_iff_iff, PatternSet.contains_eq_true, PatternSet.contains_eq_true]
    exact hdigraphs p
  · rw [Bool.eq_iff_iff, PatternSet.contains_eq_true, PatternSet.contains_eq_true]
    exact hsingles p

/-- Sets with the same patterns have the same patterns after one more. -/
theorem equiv_insert {s t : PatternSet} (h : s.equiv t = true) (p : String) :
    (s.insert p).equiv (t.insert p) = true := by
  rw [PatternSet.equiv_iff] at h ⊢
  intro q
  rw [PatternSet.mem_insert, PatternSet.mem_insert, h q]

theorem equiv_registerDigraph (h : symbols.equiv symbols' = true) (p : String) :
    (symbols.registerDigraph p).2.equiv (symbols'.registerDigraph p).2 = true := by
  obtain ⟨hdigraphs, hsingles⟩ := Bool.and_eq_true_iff.1 h
  exact Bool.and_eq_true_iff.2 ⟨equiv_insert hdigraphs p, hsingles⟩

theorem equiv_registerSingle (h : symbols.equiv symbols' = true) (p : String) :
    (symbols.registerSingle p).2.equiv (symbols'.registerSingle p).2 = true := by
  obtain ⟨hdigraphs, hsingles⟩ := Bool.and_eq_true_iff.1 h
  exact Bool.and_eq_true_iff.2 ⟨hdigraphs, equiv_insert hsingles p⟩

end SymbolTable

end TokenScan
