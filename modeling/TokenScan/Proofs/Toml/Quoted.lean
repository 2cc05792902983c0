import Mathlib.Data.List.Infix
import TokenScan.Toml.Plain
/-!
# Strings come back from every form

A string is written in the plainest form that can hold it, and is read back from this form as it was
(`string?_writeString`), whatever characters it is made of.

Each form is read back by itself. Between quotes each character comes back from what is written for
it: an escape is read as the character it stands for (`escape?_escaped`). Between apostrophes
nothing is escaped, so such a form is only chosen for a string that can stand there as it is.

Over several lines the end has to be found: three delimiters close the string, and up to two in front
of them belong to it. What is written never has three in a row (`HasNoThree`), so three that are read
are the closing ones with what is left of the string before them, and this is nothing but delimiters
(`eq_replicate_of_startsWithThree`).
-/

namespace TokenScan.Toml

open Text (hexValue? upperHexDigit)

variable {c x : Char} {cs ds rest : List Char}

/-! ### Characters -/

theorem newline?_eq_none (hfeed : c ≠ '\n') (hreturn : c ≠ '\r') : newline? (c :: rest) = none := by
  rw [newline?]
  · rintro _ h; exact hfeed (List.cons.inj h).1
  · rintro _ h; exact hreturn (List.cons.inj h).1

theorem ne_return_of_plain (h : isControl c = false ∨ c = '\n') : c ≠ '\r' := by
  rintro rfl
  exact absurd h (by decide)

/-- What has to be escaped has a code of two hexadecimal digits. -/
theorem toNat_lt_of_isControl (h : isControl c = true) : c.toNat < 256 := by
  simp only [isControl, Bool.or_eq_true, Bool.and_eq_true, decide_eq_true_eq, beq_iff_eq] at h
  omega

/-! ### Escapes -/

theorem numbered?_of_lt (h : c.toNat < 256) (rest : List Char) :
    numbered? 4 ('0' :: '0' :: upperHexDigit (c.toNat / 16) :: upperHexDigit c.toNat :: rest) =
      some (c, rest) := by
  have hzero : hexValue? '0' = some 0 := rfl
  have hnumber : hexNumber? 0 ['0', '0', upperHexDigit (c.toNat / 16), upperHexDigit c.toNat] =
      some c.toNat := by
    simp only [hexNumber?, hzero, upperHexDigit,
      Text.hexValue?_toUpper_digitChar (Nat.mod_lt _ (by decide : 0 < 16)), Option.some.injEq]
    omega
  simp only [numbered?, List.take_succ_cons, List.take_zero, List.drop_succ_cons, List.drop_zero,
    List.length_cons, List.length_nil, if_true, hnumber, Option.bind_some]
  rw [charOfNat?, if_pos (show c.toNat.isValidChar from c.valid), Char.ofNat_toNat]
  rfl

/-- **An escape is read as the character it stands for.** It goes on, behind its backslash, neither
with blank space nor with a line end. -/
theorem escape?_escaped (h : c.toNat < 256) :
    ∃ d tail, escaped c = '\\' :: d :: tail ∧ isBlank d = false ∧ d ≠ '\n' ∧ d ≠ '\r' ∧
      ∀ rest, escape? (d :: (tail ++ rest)) = some (c, rest) := by
  rw [escaped]
  split
  · next h => subst h; exact ⟨'b', [], rfl, rfl, by decide, by decide, fun _ ↦ rfl⟩
  split
  · next h => subst h; exact ⟨'t', [], rfl, rfl, by decide, by decide, fun _ ↦ rfl⟩
  split
  · next h => subst h; exact ⟨'n', [], rfl, rfl, by decide, by decide, fun _ ↦ rfl⟩
  split
  · next h => subst h; exact ⟨'f', [], rfl, rfl, by decide, by decide, fun _ ↦ rfl⟩
  split
  · next h => subst h; exact ⟨'r', [], rfl, rfl, by decide, by decide, fun _ ↦ rfl⟩
  split
  · next h => subst h; exact ⟨'"', [], rfl, rfl, by decide, by decide, fun _ ↦ rfl⟩
  split
  · next h => subst h; exact ⟨'\\', [], rfl, rfl, by decide, by decide, fun _ ↦ rfl⟩
  · exact ⟨'u', _, rfl, rfl, by decide, by decide, numbered?_of_lt h⟩

/-- **What is written for a character between quotes** is an escape, or the character itself: a
quote if fewer than two were just written, and otherwise what needs no escape. -/
theorem writeBasic_cons (lines : Bool) (c : Char) (cs : List Char) (quotes : Nat) :
    (c.toNat < 256 ∧
        writeBasic lines (c :: cs) quotes = escaped c ++ writeBasic lines cs 0) ∨
      (c = '"' ∧ lines = true ∧ quotes < 2 ∧
        writeBasic lines (c :: cs) quotes = '"' :: writeBasic lines cs (quotes + 1)) ∨
      (c ≠ '"' ∧ c ≠ '\\' ∧ (isControl c = false ∨ c = '\n' ∧ lines = true) ∧
        writeBasic lines (c :: cs) quotes = c :: writeBasic lines cs 0) := by
  rw [writeBasic]
  split
  · next hquote =>
    subst hquote
    split
    · next h =>
      simp only [Bool.and_eq_true, decide_eq_true_eq] at h
      exact .inr (.inl ⟨rfl, h.1, h.2, rfl⟩)
    · exact .inl ⟨by decide, rfl⟩
  · next hquote =>
    split
    · next h =>
      refine .inl ⟨?_, rfl⟩
      simp only [needsEscape, Bool.or_eq_true, Bool.and_eq_true, beq_iff_eq] at h
      rcases h with ((rfl | rfl) | ⟨h, -⟩) | ⟨rfl, -⟩
      · decide
      · decide
      · exact toNat_lt_of_isControl h
      · decide
    · next h =>
      refine .inr (.inr ⟨hquote, ?_, ?_, rfl⟩)
      · rintro rfl
        exact h rfl
      · cases hcontrol : isControl c with
        | false => exact .inl rfl
        | true =>
          right
          by_cases hfeed : c = '\n' <;> cases lines <;> simp_all [needsEscape]

/-! ### Between quotes on one line -/

theorem basic?_of_escape {d : Char} (h : escape? ds = some (d, rest)) :
    basic? ('\\' :: ds) = (basic? rest).map fun (cs, tail) ↦ (d :: cs, tail) := by
  rw [basic?, if_neg (by decide), if_pos rfl]
  split
  · next e => rw [h] at e; obtain ⟨rfl, rfl⟩ := Prod.mk.inj (Option.some.inj e); rfl
  · next e => rw [h] at e; cases e

theorem basic?_of_plain (hquote : c ≠ '"') (hslash : c ≠ '\\') (h : isControl c = false) :
    basic? (c :: rest) = (basic? rest).map fun (cs, tail) ↦ (c :: cs, tail) := by
  rw [basic?, if_neg hquote, if_neg hslash, if_neg (Bool.eq_false_iff.1 h)]

theorem basic?_escaped_append (h : c.toNat < 256) (rest : List Char) :
    basic? (escaped c ++ rest) = (basic? rest).map fun (cs, tail) ↦ (c :: cs, tail) := by
  obtain ⟨d, tail, heq, -, -, -, hread⟩ := escape?_escaped h
  rw [heq, List.cons_append, List.cons_append, basic?_of_escape (hread rest)]

theorem basic?_writeBasic (cs rest : List Char) (quotes : Nat) :
    basic? (writeBasic false cs quotes ++ '"' :: rest) = some (cs, rest) := by
  induction cs generalizing quotes with
  | nil => rw [writeBasic, List.nil_append, basic?, if_pos rfl]
  | cons c cs ih =>
    rcases writeBasic_cons false c cs quotes with ⟨h, heq⟩ | ⟨_, ⟨⟩, _⟩ | ⟨hquote, hslash, h, heq⟩
    · rw [heq, List.append_assoc, basic?_escaped_append h, ih]
      rfl
    · have hcontrol : isControl c = false := h.resolve_right fun h ↦ Bool.false_ne_true h.2
      rw [heq, List.cons_append, basic?_of_plain hquote hslash hcontrol, ih]
      rfl

/-! ### Between apostrophes on one line -/

theorem literal?_append (hquote : '\'' ∉ cs) (h : ∀ c ∈ cs, isControl c = false) :
    literal? (cs ++ '\'' :: rest) = some (cs, rest) := by
  induction cs with
  | nil => rw [List.nil_append, literal?, if_pos rfl]
  | cons c cs ih =>
    have hc : c ≠ '\'' := fun e ↦ hquote (e ▸ List.mem_cons_self)
    rw [List.cons_append, literal?, if_neg hc,
      if_neg (Bool.eq_false_iff.1 (h c List.mem_cons_self)),
      ih (fun hm ↦ hquote (List.mem_cons_of_mem c hm)) fun d hd ↦ h d (List.mem_cons_of_mem c hd)]
    rfl

/-! ### The end of a string over several lines -/

/-- Whether a character never stands three times in a row in a text. -/
def HasNoThree (x : Char) (cs : List Char) : Prop := ¬ [x, x, x] <:+: cs

theorem HasNoThree.tail (h : HasNoThree x (c :: cs)) : HasNoThree x cs :=
  fun hc ↦ h (hc.trans (List.suffix_cons c cs).isInfix)

theorem startsWithThree_self (x : Char) (rest : List Char) :
    startsWithThree x (x :: x :: x :: rest) = true :=
  List.isPrefixOf_iff_prefix.2 (List.prefix_append [x, x, x] rest)

theorem startsWithThree_of_head (h : c ≠ x) : startsWithThree x (c :: rest) = false := by
  simp [startsWithThree, List.isPrefixOf, h.symm]

/-- Three delimiters that are read before the closing ones are closing ones with nothing but
delimiters before them. -/
theorem eq_replicate_of_startsWithThree (hno : ¬ [x, x, x] <+: cs)
    (h : startsWithThree x (cs ++ x :: x :: x :: rest) = true) :
    ∃ k ≤ 2, cs = List.replicate k x := by
  have hprefix := List.isPrefixOf_iff_prefix.1 h
  match cs with
  | [] => exact ⟨0, by decide, rfl⟩
  | [a] =>
    simp only [List.cons_append, List.cons_prefix_cons] at hprefix
    exact ⟨1, by decide, by rw [← hprefix.1]; rfl⟩
  | [a, b] =>
    simp only [List.cons_append, List.cons_prefix_cons] at hprefix
    exact ⟨2, by decide, by rw [← hprefix.1, ← hprefix.2.1]; rfl⟩
  | a :: b :: c :: more =>
    simp only [List.cons_append, List.cons_prefix_cons] at hprefix
    obtain ⟨rfl, rfl, rfl, -⟩ := hprefix
    exact absurd (List.prefix_append _ more) hno

/-- **Up to two delimiters in front of the closing ones belong to the string.** -/
theorem closing_replicate {k : Nat} (hk : k ≤ 2) (hrest : rest.head? ≠ some x) :
    closing x (List.replicate k x ++ x :: x :: x :: rest) = (List.replicate k x, rest) := by
  have htake : ∀ j, (rest.take j).takeWhile (· == x) = [] := by
    intro j
    cases rest with
    | nil => simp
    | cons c rest =>
      cases j with
      | zero => rfl
      | succ j =>
        rw [List.take_succ_cons, List.takeWhile_cons_of_neg]
        simpa using hrest
  match k, hk with
  | 0, _ => simp [closing, htake]
  | 1, _ => simp [closing, htake]
  | 2, _ => simp [closing]

/-! ### Between three quotes -/

theorem basicLines?_of_escape {d e : Char} (h : escape? (d :: ds) = some (e, rest))
    (hblank : isBlank d = false) (hfeed : d ≠ '\n') (hreturn : d ≠ '\r') :
    basicLines? ('\\' :: d :: ds) = (basicLines? rest).map fun (cs, tail) ↦ (e :: cs, tail) := by
  have hskip : newline? (skipBlanks (d :: ds)) = none := by
    rw [skipBlanks, List.dropWhile_cons_of_neg (Bool.eq_false_iff.1 hblank)]
    exact newline?_eq_none hfeed hreturn
  rw [basicLines?, startsWithThree_of_head (by decide), if_neg Bool.false_ne_true]
  split
  · next e => rw [newline?_eq_none (by decide) (by decide)] at e; cases e
  · simp only [if_true]
    split
    · next e => rw [hskip] at e; cases e
    · split
      · next e => rw [h] at e; obtain ⟨rfl, rfl⟩ := Prod.mk.inj (Option.some.inj e); rfl
      · next e => rw [h] at e; cases e

theorem basicLines?_of_plain (hslash : c ≠ '\\') (h : isControl c = false ∨ c = '\n')
    (hthree : startsWithThree '"' (c :: rest) = false) :
    basicLines? (c :: rest) = (basicLines? rest).map fun (cs, tail) ↦ (c :: cs, tail) := by
  rw [basicLines?, hthree, if_neg Bool.false_ne_true]
  by_cases hfeed : c = '\n'
  · subst hfeed
    rfl
  · have hcontrol := h.resolve_right hfeed
    split
    · next e => rw [newline?_eq_none hfeed (ne_return_of_plain h)] at e; cases e
    · simp only [if_neg hslash, hcontrol, Bool.false_eq_true, if_false]

theorem basicLines?_escaped_append (h : c.toNat < 256) (rest : List Char) :
    basicLines? (escaped c ++ rest) =
      (basicLines? rest).map fun (cs, tail) ↦ (c :: cs, tail) := by
  obtain ⟨d, tail, heq, hblank, hfeed, hreturn, hread⟩ := escape?_escaped h
  rw [heq, List.cons_append, List.cons_append,
    basicLines?_of_escape (hread rest) hblank hfeed hreturn]

/-- Quotes that stand as they are never become three. -/
theorem not_replicate_prefix_writeBasic (cs : List Char) {quotes : Nat} (h : quotes ≤ 2) :
    ¬ List.replicate (3 - quotes) '"' <+: writeBasic true cs quotes := by
  obtain ⟨k, hk⟩ : ∃ k, 3 - quotes = k + 1 := ⟨2 - quotes, by omega⟩
  induction cs generalizing quotes k with
  | nil => rw [hk]; simp [writeBasic, List.replicate_succ]
  | cons c cs ih =>
    rw [hk, List.replicate_succ]
    rcases writeBasic_cons true c cs quotes with ⟨hc, heq⟩ | ⟨_, _, hlt, heq⟩ | ⟨hquote, _, _, heq⟩
    · obtain ⟨d, tail, hescaped, -⟩ := escape?_escaped hc
      rw [heq, hescaped, List.cons_append, List.cons_prefix_cons]
      exact fun h ↦ absurd h.1 (by decide)
    · rw [heq, List.cons_prefix_cons]
      rintro ⟨-, h⟩
      obtain rfl : k = 3 - (quotes + 1) := by omega
      exact ih (by omega) (2 - (quotes + 1)) (by omega) h
    · rw [heq, List.cons_prefix_cons]
      exact fun h ↦ hquote h.1.symm

/-- Where nothing but quotes is written, they are the text. -/
theorem writeBasic_eq_of_forall_eq {quotes : Nat} (h : ∀ d ∈ writeBasic true cs quotes, d = '"') :
    writeBasic true cs quotes = cs := by
  induction cs generalizing quotes with
  | nil => rfl
  | cons c cs ih =>
    rcases writeBasic_cons true c cs quotes with ⟨hc, heq⟩ | ⟨rfl, _, _, heq⟩ | ⟨hquote, _, _, heq⟩
    · obtain ⟨d, tail, hescaped, -⟩ := escape?_escaped hc
      rw [heq, hescaped] at h
      exact absurd (h '\\' List.mem_cons_self) (by decide)
    · rw [heq] at h ⊢
      rw [ih fun d hd ↦ h d (List.mem_cons_of_mem _ hd)]
    · rw [heq] at h
      exact absurd (h c List.mem_cons_self) hquote

/-- **A string between three quotes ends at its own quotes**, also if it ends with some. -/
theorem basicLines?_writeBasic (cs : List Char) {quotes : Nat} (hquotes : quotes ≤ 2)
    (hrest : rest.head? ≠ some '"') :
    basicLines? (writeBasic true cs quotes ++ '"' :: '"' :: '"' :: rest) = some (cs, rest) := by
  induction cs generalizing quotes with
  | nil =>
    rw [writeBasic, List.nil_append, basicLines?, if_pos (startsWithThree_self _ _)]
    exact congrArg some (closing_replicate (Nat.zero_le 2) hrest)
  | cons c cs ih =>
    cases hthree : startsWithThree '"'
        (writeBasic true (c :: cs) quotes ++ '"' :: '"' :: '"' :: rest) with
    | true =>
      have hno : ¬ ['"', '"', '"'] <+: writeBasic true (c :: cs) quotes := fun h ↦
        not_replicate_prefix_writeBasic (c :: cs) hquotes (.trans
          ⟨List.replicate quotes '"', by
            rw [List.replicate_append_replicate, show 3 - quotes + quotes = 3 by omega]; rfl⟩ h)
      obtain ⟨k, hk, heq⟩ := eq_replicate_of_startsWithThree hno hthree
      have hcs : writeBasic true (c :: cs) quotes = c :: cs :=
        writeBasic_eq_of_forall_eq fun d hd ↦ List.eq_of_mem_replicate (heq ▸ hd)
      rw [basicLines?, if_pos hthree, heq, closing_replicate hk hrest, ← heq, hcs]
    | false =>
      rcases writeBasic_cons true c cs quotes with
        ⟨hc, heq⟩ | ⟨rfl, _, hlt, heq⟩ | ⟨_, hslash, hcontrol, heq⟩
      · rw [heq, List.append_assoc, basicLines?_escaped_append hc, ih (by decide)]
        rfl
      · rw [heq, List.cons_append] at hthree ⊢
        rw [basicLines?_of_plain (by decide) (.inl rfl) hthree, ih (by omega)]
        rfl
      · rw [heq, List.cons_append] at hthree ⊢
        rw [basicLines?_of_plain hslash (hcontrol.imp_right And.left) hthree, ih (by decide)]
        rfl

/-! ### Between three apostrophes -/

theorem literalLines?_of_plain (h : isControl c = false ∨ c = '\n')
    (hthree : startsWithThree '\'' (c :: rest) = false) :
    literalLines? (c :: rest) = (literalLines? rest).map fun (cs, tail) ↦ (c :: cs, tail) := by
  rw [literalLines?, hthree, if_neg Bool.false_ne_true]
  by_cases hfeed : c = '\n'
  · subst hfeed
    rfl
  · have hcontrol := h.resolve_right hfeed
    split
    · next e => rw [newline?_eq_none hfeed (ne_return_of_plain h)] at e; cases e
    · simp only [hcontrol, Bool.false_eq_true, if_false]

/-- **A string between three apostrophes ends at its own**, also if it ends with some. -/
theorem literalLines?_append (hno : HasNoThree '\'' cs)
    (h : ∀ c ∈ cs, isControl c = false ∨ c = '\n') (hrest : rest.head? ≠ some '\'') :
    literalLines? (cs ++ '\'' :: '\'' :: '\'' :: rest) = some (cs, rest) := by
  induction cs with
  | nil =>
    rw [List.nil_append, literalLines?, if_pos (startsWithThree_self _ _)]
    exact congrArg some (closing_replicate (Nat.zero_le 2) hrest)
  | cons c cs ih =>
    cases hthree : startsWithThree '\'' (c :: cs ++ '\'' :: '\'' :: '\'' :: rest) with
    | true =>
      obtain ⟨k, hk, heq⟩ := eq_replicate_of_startsWithThree (fun h ↦ hno h.isInfix) hthree
      rw [literalLines?, if_pos hthree, heq, closing_replicate hk hrest]
    | false =>
      rw [List.cons_append] at hthree ⊢
      rw [literalLines?_of_plain (h c List.mem_cons_self) hthree,
        ih hno.tail fun d hd ↦ h d (List.mem_cons_of_mem c hd)]
      rfl

/-! ### Runs -/

theorem le_longestRun (x : Char) (cs : List Char) (n : Nat) : n ≤ longestRun x cs n := by
  induction cs generalizing n with
  | nil => exact Nat.le_refl n
  | cons c cs ih =>
    rw [longestRun]
    split
    · exact Nat.le_trans (Nat.le_succ n) (ih (n + 1))
    · exact Nat.le_max_left _ _

theorem longestRun_mono {m n : Nat} (h : m ≤ n) : longestRun x cs m ≤ longestRun x cs n := by
  induction cs generalizing m n with
  | nil => exact h
  | cons c cs ih =>
    rw [longestRun, longestRun]
    split
    · exact ih (Nat.succ_le_succ h)
    · omega

theorem longestRun_le_append (ds : List Char) (n : Nat) :
    longestRun x cs 0 ≤ longestRun x (ds ++ cs) n := by
  induction ds generalizing n with
  | nil => exact longestRun_mono (Nat.zero_le n)
  | cons d ds ih =>
    rw [List.cons_append, longestRun]
    split
    · exact ih (n + 1)
    · exact Nat.le_trans (ih 0) (Nat.le_max_right _ _)

theorem longestRun_replicate_append (k n : Nat) :
    longestRun x (List.replicate k x ++ cs) n = longestRun x cs (n + k) := by
  induction k generalizing n with
  | zero => rfl
  | succ k ih =>
    rw [List.replicate_succ, List.cons_append, longestRun, if_pos rfl, ih]
    congr 1
    omega

/-- **No run is longer than the longest one.** -/
theorem le_longestRun_of_isInfix {k : Nat} (h : List.replicate k x <:+: cs) :
    k ≤ longestRun x cs 0 := by
  obtain ⟨before, after, rfl⟩ := h
  calc k ≤ longestRun x after (0 + k) := by rw [Nat.zero_add]; exact le_longestRun x after k
    _ = longestRun x (List.replicate k x ++ after) 0 := (longestRun_replicate_append k 0).symm
    _ ≤ longestRun x (before ++ (List.replicate k x ++ after)) 0 := longestRun_le_append before 0
    _ = longestRun x (before ++ List.replicate k x ++ after) 0 := by rw [List.append_assoc]

theorem hasNoThree_of_longestRun (h : longestRun x cs 0 ≤ 2) : HasNoThree x cs := fun hthree ↦
  absurd (Nat.le_trans (le_longestRun_of_isInfix (k := 3) hthree) h) (by decide)

theorem notMem_of_longestRun (h : longestRun x cs 0 = 0) : x ∉ cs := fun hx ↦
  absurd (Nat.le_trans (le_longestRun_of_isInfix (k := 1) ((List.singleton_infix_iff x cs).2 hx))
    h.le) (by decide)

/-! ### Forms -/

/-- What stands between apostrophes on one line has none, and no controls. -/
theorem of_formOf_eq_literal (h : formOf cs = .literal) :
    '\'' ∉ cs ∧ ∀ c ∈ cs, isControl c = false := by
  simp only [formOf] at h
  split_ifs at h with _ hliteral
  simp only [Bool.and_eq_true, Bool.not_eq_true', beq_iff_eq, List.any_eq_false,
    List.contains_eq_mem, decide_eq_false_iff_not, bne_iff_ne, not_and,
    Decidable.not_not] at hliteral
  obtain ⟨⟨hcontrols, hruns⟩, hfeed⟩ := hliteral
  refine ⟨notMem_of_longestRun hruns, fun c hc ↦ ?_⟩
  cases hcontrol : isControl c with
  | false => rfl
  | true => exact absurd (hcontrols c hc hcontrol ▸ hc) hfeed

/-- What stands between three apostrophes has no three in a row, and no controls but line feeds. -/
theorem of_formOf_eq_literalLines (h : formOf cs = .literalLines) :
    HasNoThree '\'' cs ∧ ∀ c ∈ cs, isControl c = false ∨ c = '\n' := by
  simp only [formOf] at h
  split_ifs at h with _ _ _ hliteral
  simp only [Bool.and_eq_true, Bool.not_eq_true', List.any_eq_false, decide_eq_true_eq,
    bne_iff_ne, not_and, Decidable.not_not] at hliteral
  refine ⟨hasNoThree_of_longestRun hliteral.2, fun c hc ↦ ?_⟩
  cases hcontrol : isControl c with
  | false => exact .inl rfl
  | true => exact .inr (hliteral.1 c hc hcontrol)

/-! ### Strings -/

theorem dropNewline_of_head {d : Char} (hfeed : d ≠ '\n') (hreturn : d ≠ '\r') :
    dropNewline (d :: rest) = d :: rest := by
  rw [dropNewline, newline?_eq_none hfeed hreturn, Option.getD_none]

/-- The line end that is put in front of a string over several lines is dropped, and no other. -/
theorem dropNewline_append (hd : ∀ d ∈ ds.head?, d ≠ '\r' ∧ (d = '\n' → '\n' ∈ cs))
    (hx : x ≠ '\n' ∧ x ≠ '\r') :
    dropNewline ((if cs.contains '\n' then ['\n'] else []) ++ (ds ++ x :: rest)) =
      ds ++ x :: rest := by
  split
  · rfl
  · next h =>
    rw [List.nil_append]
    cases ds with
    | nil => exact dropNewline_of_head hx.1 hx.2
    | cons d ds =>
      obtain ⟨hreturn, hfeed⟩ := hd d rfl
      exact dropNewline_of_head (fun e ↦ h (List.contains_iff_mem.2 (hfeed e))) hreturn

/-- What is written first between quotes. -/
theorem head?_writeBasic {lines : Bool} {d : Char} (h : d ∈ (writeBasic lines cs 0).head?) :
    d ≠ '\r' ∧ (d = '\n' → '\n' ∈ cs) ∧ (d = '"' → lines = true) := by
  cases cs with
  | nil => cases h
  | cons c cs =>
    rcases writeBasic_cons lines c cs 0 with
      ⟨hc, heq⟩ | ⟨rfl, hlines, _, heq⟩ | ⟨hquote, _, hcontrol, heq⟩
    · obtain ⟨e, tail, hescaped, -⟩ := escape?_escaped hc
      rw [heq, hescaped] at h
      obtain rfl : '\\' = d := Option.some.inj h
      exact ⟨by decide, fun e ↦ absurd e (by decide), fun e ↦ absurd e (by decide)⟩
    · rw [heq] at h
      obtain rfl : '"' = d := Option.some.inj h
      exact ⟨by decide, fun e ↦ absurd e (by decide), fun _ ↦ hlines⟩
    · rw [heq] at h
      obtain rfl : c = d := Option.some.inj h
      exact ⟨ne_return_of_plain (hcontrol.imp_right And.left), fun e ↦ e ▸ List.mem_cons_self,
        fun e ↦ absurd e hquote⟩

theorem string?_threeQuotes (cs : List Char) :
    string? ('"' :: '"' :: '"' :: cs) =
      (basicLines? (dropNewline cs)).map fun (ds, tail) ↦ (String.ofList ds, tail) := by
  rw [string?, if_pos (startsWithThree_self _ _)]
  rfl

theorem string?_threeApostrophes (cs : List Char) :
    string? ('\'' :: '\'' :: '\'' :: cs) =
      (literalLines? (dropNewline cs)).map fun (ds, tail) ↦ (String.ofList ds, tail) := by
  rw [string?, startsWithThree_of_head (show '\'' ≠ '"' by decide),
    if_pos (startsWithThree_self _ _)]
  rfl

/-- A string on one line does not start with three delimiters. -/
theorem startsWithThree_eq_false (hcs : ∀ c ∈ cs.head?, c ≠ x) (hrest : rest.head? ≠ some x) :
    startsWithThree x (x :: (cs ++ x :: rest)) = false := by
  refine Bool.eq_false_iff.2 fun h ↦ ?_
  have hprefix := (List.cons_prefix_cons.1 (List.isPrefixOf_iff_prefix.1 h)).2
  cases cs with
  | cons c cs => exact hcs c rfl (List.cons_prefix_cons.1 hprefix).1.symm
  | nil =>
    obtain ⟨tail, rfl⟩ := (List.cons_prefix_cons.1 hprefix).2
    exact hrest rfl

theorem string?_line (hquote : startsWithThree '"' cs = false)
    (hapostrophe : startsWithThree '\'' cs = false) :
    string? cs = (line? cs).map fun (ds, tail) ↦ (String.ofList ds, tail) := by
  rw [string?, hquote, hapostrophe]
  rfl

theorem string?_basic (hquote : rest.head? ≠ some '"') :
    string? (writeAs cs .basic ++ rest) = some (String.ofList cs, rest) := by
  have hwrite : writeAs cs .basic ++ rest = '"' :: (writeBasic false cs 0 ++ '"' :: rest) := by
    simp [writeAs]
  have hthree : startsWithThree '"' ('"' :: (writeBasic false cs 0 ++ '"' :: rest)) = false :=
    startsWithThree_eq_false (fun c hc e ↦ Bool.false_ne_true ((head?_writeBasic hc).2.2 e)) hquote
  rw [hwrite, string?_line hthree (startsWithThree_of_head (by decide)), line?, basic?_writeBasic]
  rfl

theorem string?_literal (hno : '\'' ∉ cs) (hplain : ∀ c ∈ cs, isControl c = false)
    (hapostrophe : rest.head? ≠ some '\'') :
    string? (writeAs cs .literal ++ rest) = some (String.ofList cs, rest) := by
  have hwrite : writeAs cs .literal ++ rest = '\'' :: (cs ++ '\'' :: rest) := by simp [writeAs]
  have hthree : startsWithThree '\'' ('\'' :: (cs ++ '\'' :: rest)) = false :=
    startsWithThree_eq_false (fun c hc e ↦ hno (e ▸ List.mem_of_mem_head? hc)) hapostrophe
  rw [hwrite, string?_line (startsWithThree_of_head (by decide)) hthree, line?,
    literal?_append hno hplain]
  rfl

theorem string?_basicLines (hquote : rest.head? ≠ some '"') :
    string? (writeAs cs .basicLines ++ rest) = some (String.ofList cs, rest) := by
  have hwrite : writeAs cs .basicLines ++ rest =
      '"' :: '"' :: '"' :: ((if cs.contains '\n' then ['\n'] else []) ++
        (writeBasic true cs 0 ++ '"' :: '"' :: '"' :: rest)) := by
    simp [writeAs]
  rw [hwrite, string?_threeQuotes,
    dropNewline_append (fun _ hd ↦ (head?_writeBasic hd).imp_right And.left) (by decide),
    basicLines?_writeBasic cs (Nat.zero_le 2) hquote]
  rfl

theorem string?_literalLines (hno : HasNoThree '\'' cs)
    (hplain : ∀ c ∈ cs, isControl c = false ∨ c = '\n') (hapostrophe : rest.head? ≠ some '\'') :
    string? (writeAs cs .literalLines ++ rest) = some (String.ofList cs, rest) := by
  have hwrite : writeAs cs .literalLines ++ rest =
      '\'' :: '\'' :: '\'' :: ((if cs.contains '\n' then ['\n'] else []) ++
        (cs ++ '\'' :: '\'' :: '\'' :: rest)) := by
    simp [writeAs]
  have hhead {d : Char} (hd : d ∈ cs.head?) : d ≠ '\r' ∧ (d = '\n' → '\n' ∈ cs) :=
    ⟨ne_return_of_plain (hplain d (List.mem_of_mem_head? hd)),
      fun e ↦ e ▸ List.mem_of_mem_head? hd⟩
  rw [hwrite, string?_threeApostrophes, dropNewline_append (fun _ ↦ hhead) (by decide),
    literalLines?_append hno hplain hapostrophe]
  rfl

/-- **A string comes back from the form in which it is written**, if its text does not go on with
one more delimiter. -/
theorem string?_writeString (s : String) (hquote : rest.head? ≠ some '"')
    (hapostrophe : rest.head? ≠ some '\'') :
    string? (writeString s ++ rest) = some (s, rest) := by
  rw [writeString]
  generalize hcs : s.toList = cs
  obtain rfl : String.ofList cs = s := by rw [← hcs, String.ofList_toList]
  cases hform : formOf cs with
  | basic => exact string?_basic hquote
  | literal =>
    obtain ⟨hno, hplain⟩ := of_formOf_eq_literal hform
    exact string?_literal hno hplain hapostrophe
  | basicLines => exact string?_basicLines hquote
  | literalLines =>
    obtain ⟨hno, hplain⟩ := of_formOf_eq_literalLines hform
    exact string?_literalLines hno hplain hapostrophe

end TokenScan.Toml
