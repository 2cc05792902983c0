import TokenScan.Proofs.Text.Digits
import TokenScan.Toml.Moment
import TokenScan.Toml.Number
/-!
# Numbers come back from their digits

A number is written as its decimal digits, with a line end behind them. It is read back as it was if
it fits (`integer?_toDigits`), and is taken for nothing else before: digits that a line end follows
start no moment (`moment?_of_digits`), and have neither a fraction nor an exponent
(`float?_toDigits`).

Nothing is asked of the digits but what stands at their head: whatever is left of them goes on with a
digit or with the line end (`ne_cons_of_digits`), and so with none of the characters that a moment or
another kind of number would need there.
-/

namespace TokenScan.Toml

open Text (AreDigits hexValue?)

variable {c x : Char} {ds cs rest : List Char} {n : Nat}

/-! ### What digits start with -/

/-- Digits with a line end behind them start with one of them or with the line end. -/
theorem ne_cons_of_digits (hx : x.isDigit = false) (hfeed : x ≠ '\n') (h : AreDigits ds) :
    ds ++ '\n' :: rest ≠ x :: cs := by
  cases ds with
  | nil => exact fun heq ↦ hfeed (List.cons.inj heq).1.symm
  | cons d ds =>
    intro heq
    obtain ⟨rfl, -⟩ := List.cons.inj heq
    exact Text.ne_of_class (h d List.mem_cons_self) hx rfl

/-! ### No moments -/

/-- A character that is neither a digit nor a line end is not found behind digits. -/
theorem after?_of_digits (hx : x.isDigit = false) (hfeed : x ≠ '\n') (h : AreDigits ds) :
    after? x (ds ++ '\n' :: rest) = none := by
  cases heq : ds ++ '\n' :: rest with
  | nil => rfl
  | cons c cs => exact if_neg fun hc ↦ ne_cons_of_digits hx hfeed h (hc ▸ heq)

/-- What two digits leave of some are digits. -/
theorem twoDigits?_of_digits {low high m : Nat} (h : AreDigits ds)
    (heq : twoDigits? low high (ds ++ '\n' :: rest) = some (m, cs)) :
    ∃ ds', AreDigits ds' ∧ cs = ds' ++ '\n' :: rest := by
  match ds with
  | [] => cases rest <;> cases heq
  | [a] =>
    rw [List.singleton_append, twoDigits?, if_neg (by simp)] at heq
    cases heq
  | a :: b :: ds =>
    rw [List.cons_append, List.cons_append, twoDigits?] at heq
    dsimp only at heq
    split_ifs at heq
    exact ⟨ds, h.tail.tail, (Prod.mk.inj (Option.some.inj heq)).2.symm⟩

theorem date?_of_digits (h : AreDigits ds) : date? (ds ++ '\n' :: rest) = none := by
  simp only [date?, Option.bind_eq_bind, Option.bind_eq_none_iff]
  rintro ⟨_, _⟩ hcentury ⟨_, _⟩ hyear cs hdash
  obtain ⟨ds₁, h₁, rfl⟩ := twoDigits?_of_digits h hcentury
  obtain ⟨ds₂, h₂, rfl⟩ := twoDigits?_of_digits h₁ hyear
  rw [after?_of_digits rfl (by decide) h₂] at hdash
  cases hdash

theorem time?_of_digits (h : AreDigits ds) : time? (ds ++ '\n' :: rest) = none := by
  simp only [time?, Option.bind_eq_bind, Option.bind_eq_none_iff]
  rintro ⟨_, _⟩ hhour cs hcolon
  obtain ⟨ds₁, h₁, rfl⟩ := twoDigits?_of_digits h hhour
  rw [after?_of_digits rfl (by decide) h₁] at hcolon
  cases hcolon

/-- **Digits that a line end follows start no moment.** -/
theorem moment?_of_digits (h : AreDigits ds) : moment? (ds ++ '\n' :: rest) = none := by
  rw [moment?, date?_of_digits h, time?_of_digits h]

/-! ### Whole numbers -/

theorem moreDigits_append (h : AreDigits ds) :
    moreDigits Char.isDigit (ds ++ '\n' :: rest) = (ds, '\n' :: rest) := by
  induction ds with
  | nil => cases rest <;> rfl
  | cons d ds ih =>
    have hd : d.isDigit = true := h d List.mem_cons_self
    rw [List.cons_append, moreDigits, if_pos hd, ih h.tail]
    rintro c tail rfl
    exact absurd hd (by decide)

/-- **The digits of a number are all that is read of it.** -/
theorem wholeDigits?_toDigits (n : Nat) (rest : List Char) :
    wholeDigits? (Nat.toDigits 10 n ++ '\n' :: rest) = some (Nat.toDigits 10 n, '\n' :: rest) := by
  rcases Nat.eq_zero_or_pos n with rfl | hpos
  · rfl
  · have hhead := Text.head?_toDigits hpos
    obtain ⟨d, ds, hds, hd, hdigits⟩ := Text.exists_toDigits n
    rw [hds] at hhead ⊢
    rw [List.cons_append, wholeDigits?, digits?, if_pos hd, moreDigits_append hdigits]
    rintro tail h
    exact hhead (congrArg some (List.cons.inj h).1)

theorem ofDigits_of_digits (h : AreDigits ds) (m : Nat) :
    ds.foldl (fun n c ↦ 10 * n + (hexValue? c).getD 0) m = Nat.ofDigitChars 10 ds m := by
  rw [Nat.ofDigitChars]
  refine List.foldl_ext _ _ m fun n c hc ↦ ?_
  rw [Text.hexValue?_of_isDigit (h c hc), Option.getD_some]

theorem ofDigits_toDigits (n : Nat) : ofDigits 10 (Nat.toDigits 10 n) = n := by
  rw [ofDigits, ofDigits_of_digits (Text.areDigits_toDigits n), Nat.ofDigitChars_ten_toDigits]

theorem sign_of_digits (h : AreDigits ds) :
    sign (ds ++ '\n' :: rest) = (false, ds ++ '\n' :: rest) := by
  rw [sign]
  · exact fun _ ↦ ne_cons_of_digits rfl (by decide) h
  · exact fun _ ↦ ne_cons_of_digits rfl (by decide) h

/-- The mark of another base does not stand in the second place. -/
theorem toDigits_append_ne (hx : x.isDigit = false) (hfeed : x ≠ '\n') :
    Nat.toDigits 10 n ++ '\n' :: rest ≠ '0' :: x :: cs := by
  obtain ⟨d, ds, hds, -, hdigits⟩ := Text.exists_toDigits n
  rw [hds]
  exact fun h ↦ ne_cons_of_digits hx hfeed hdigits (List.cons.inj h).2

/-- **A number that fits comes back from its digits.** -/
theorem integer?_toDigits (h : n < integerLimit) :
    integer? (Nat.toDigits 10 n ++ '\n' :: rest) = some ((n : Int), '\n' :: rest) := by
  rw [integer?, sign_of_digits (Text.areDigits_toDigits n)]
  · simp only [wholeDigits?_toDigits, ofDigits_toDigits]
    rw [fits?, if_neg Bool.false_ne_true, if_pos h]
    rfl
  · exact fun _ ↦ toDigits_append_ne rfl (by decide)
  · exact fun _ ↦ toDigits_append_ne rfl (by decide)
  · exact fun _ ↦ toDigits_append_ne rfl (by decide)

/-- A number in front of a line end has neither a fraction nor an exponent. -/
theorem float?_toDigits (n : Nat) (rest : List Char) :
    float? (Nat.toDigits 10 n ++ '\n' :: rest) = none := by
  have hdigits := Text.areDigits_toDigits n
  have hdecimal : decimal? (Nat.toDigits 10 n ++ '\n' :: rest) = none := by
    rw [decimal?, sign_of_digits hdigits]
    simp only [wholeDigits?_toDigits]
    rfl
  have hnamed : namedNumber? (Nat.toDigits 10 n ++ '\n' :: rest) = none := by
    rw [namedNumber?, sign_of_digits hdigits]
    split
    · next h => exact absurd h (ne_cons_of_digits rfl (by decide) hdigits)
    · next h => exact absurd h (ne_cons_of_digits rfl (by decide) hdigits)
    · rfl
  rw [float?, hdecimal, hnamed]

end TokenScan.Toml
