import TokenScan.Source.Construct
import TokenScan.Source.Run
/-!
# Which token comes next

The kind of the next token follows from the next one or two characters. `kindAt` states the rules,
highest priority first, on a list of characters; `Source.nextKind` follows them by looking ahead,
and looks at a second character only if the first decides nothing (`nextKind_fst`). Looking consumes
nothing (`remaining_nextKind`).

The rules are total: there is a next token exactly when there is a next character
(`kindAt_eq_none_iff`).
-/

namespace TokenScan

namespace SymbolTable

/-- The kind of a token that starts with a character that is neither white space nor a letter or
digit, by that character and the one after it. Registered symbols come first, so they can take
the place of comment markers, quotes and number signs. A quote that ends the text encloses
nothing. -/
def kindOfPunctuation (symbols : SymbolTable) (first : Char) (second : Option Char) : TokenKind :=
  if second.any (symbols.isDigraph first) then .digraph
  else if symbols.isSingle first then .symbolRun
  else
    match first, second with
    | '/', some '/' => .lineComment
    | '/', some '*' => .blockComment
    | '"', some _ => .quotedString
    | '#', _ => .directive
    | _, _ => .punctuation

/-- The kind of the token at the start of a text. -/
def kindAt (symbols : SymbolTable) : List Char → Option TokenKind
  | [] => none
  | c :: rest =>
    if Text.isWhitespace c then some .whitespace
    else if Text.isAlphanumeric c then some .alphanumeric
    else some (symbols.kindOfPunctuation c rest.head?)

@[simp] theorem kindAt_nil (symbols : SymbolTable) : symbols.kindAt [] = none := rfl

theorem kindAt_eq_none_iff {symbols : SymbolTable} {cs : List Char} :
    symbols.kindAt cs = none ↔ cs = [] := by
  cases cs with
  | nil => simp
  | cons c rest =>
    simp only [kindAt, reduceCtorEq, iff_false]
    split
    · simp
    · split <;> simp

end SymbolTable

namespace Source

/-- The kind of the next token. -/
def nextKind (s : Source) (symbols : SymbolTable) : Option TokenKind × Source :=
  match s.peek 0 with
  | (none, t) => (none, t)
  | (some c, t) =>
    if Text.isWhitespace c then (some .whitespace, t)
    else if Text.isAlphanumeric c then (some .alphanumeric, t)
    else (some (symbols.kindOfPunctuation c (t.peek 1).1), (t.peek 1).2)

theorem nextKind_eq (s : Source) (symbols : SymbolTable) :
    (s.nextKind symbols).1 = symbols.kindAt s.remaining ∧
      (s.nextKind symbols).2.remaining = s.remaining ∧
      (s.nextKind symbols).2.line = s.line := by
  rw [nextKind]
  split
  · next t h =>
    obtain ⟨-, hr, hl⟩ := eq_of_peek h
    rw [remaining_eq_nil_of_peek h] at hr ⊢
    exact ⟨rfl, hr, hl⟩
  · next c t h =>
    obtain ⟨-, hr, hl⟩ := eq_of_peek h
    obtain ⟨hs, -⟩ := eq_of_peek_some h
    rw [hs, SymbolTable.kindAt]
    rw [hs] at hr
    split
    · exact ⟨rfl, hr, hl⟩
    split
    · exact ⟨rfl, hr, hl⟩
    -- only here does the second character matter
    refine ⟨?_, ?_, ?_⟩
    · rw [peek_fst, hr, List.getElem?_cons_succ, ← List.head?_eq_getElem?]
    · rw [remaining_peek, hr]
    · rw [line_peek, hl]

theorem nextKind_fst (s : Source) (symbols : SymbolTable) :
    (s.nextKind symbols).1 = symbols.kindAt s.remaining := (nextKind_eq s symbols).1

@[simp] theorem remaining_nextKind (s : Source) (symbols : SymbolTable) :
    (s.nextKind symbols).2.remaining = s.remaining := (nextKind_eq s symbols).2.1

@[simp] theorem line_nextKind (s : Source) (symbols : SymbolTable) :
    (s.nextKind symbols).2.line = s.line := (nextKind_eq s symbols).2.2

end Source

end TokenScan
