import Mathlib.Data.List.Basic
import Mathlib.Data.List.TakeWhile
/-!
# Runs of characters, and the decimal digits of a number

A run of characters of some class, a key or a number, ends where the text behind it does not go on
with the class (`takeWhile_append_of_head`, `dropWhile_append_of_head`).

Numbers are written in decimal, and read back from the digits at the start of a text. The digits of a
number end where the text behind them does not go on with one (`AreDigits.takeWhile`,
`AreDigits.dropWhile`), and there is no zero in front of them (`head?_toDigits`).
-/

namespace TokenScan.Text

variable {n : Nat} {ds rest : List Char}

/-! ### Runs of a class of characters -/

section Runs

variable {p : Char → Bool} {c x : Char}

/-- A character of a class is none that is outside of it. -/
theorem ne_of_class (hc : p c = true) (hx : p x = false) : c ≠ x := by
  rintro rfl
  exact Bool.false_ne_true (hx.symm.trans hc)

/-- What is taken of a class is a run of it, if the text behind the run does not go on with it. -/
theorem takeWhile_append_of_head (h : ∀ c ∈ ds, p c = true)
    (hrest : ∀ c ∈ rest.head?, p c = false) : (ds ++ rest).takeWhile p = ds := by
  rw [List.takeWhile_append_of_pos h]
  cases rest with
  | nil => exact List.append_nil ds
  | cons c rest =>
    rw [List.takeWhile_cons_of_neg (Bool.eq_false_iff.1 (hrest c rfl)), List.append_nil]

theorem dropWhile_append_of_head (h : ∀ c ∈ ds, p c = true)
    (hrest : ∀ c ∈ rest.head?, p c = false) : (ds ++ rest).dropWhile p = rest := by
  rw [List.dropWhile_append_of_pos h]
  cases rest with
  | nil => rfl
  | cons c rest => exact List.dropWhile_cons_of_neg (Bool.eq_false_iff.1 (hrest c rfl))

end Runs

/-! ### Digits -/

/-- Whether some characters are digits. -/
def AreDigits (ds : List Char) : Prop := ∀ c ∈ ds, c.isDigit = true

/-- Whether a text does not go on with a digit. -/
def EndsDigits (rest : List Char) : Prop := ∀ c ∈ rest.head?, c.isDigit = false

theorem areDigits_toDigits (n : Nat) : AreDigits (Nat.toDigits 10 n) := fun _ hc ↦
  Nat.isDigit_of_mem_toDigits (by decide) (by decide) hc

theorem AreDigits.tail {d : Char} (h : AreDigits (d :: ds)) : AreDigits ds :=
  fun c hc ↦ h c (List.mem_cons_of_mem d hc)

/-- A number has a first digit, and what follows it are digits. -/
theorem exists_toDigits (n : Nat) :
    ∃ c ds, Nat.toDigits 10 n = c :: ds ∧ c.isDigit = true ∧ AreDigits ds := by
  obtain ⟨c, ds, hds⟩ := List.exists_cons_of_ne_nil (Nat.toDigits_ne_nil (n := n) (b := 10))
  have hdigits := areDigits_toDigits n
  rw [hds] at hdigits
  exact ⟨c, ds, hds, hdigits c List.mem_cons_self, hdigits.tail⟩

theorem AreDigits.takeWhile (h : AreDigits ds) (hrest : EndsDigits rest) :
    (ds ++ rest).takeWhile Char.isDigit = ds := takeWhile_append_of_head h hrest

theorem AreDigits.dropWhile (h : AreDigits ds) (hrest : EndsDigits rest) :
    (ds ++ rest).dropWhile Char.isDigit = rest := dropWhile_append_of_head h hrest

/-- **A number does not start with a zero**, unless it is zero. -/
theorem head?_toDigits (h : 0 < n) : (Nat.toDigits 10 n).head? ≠ some '0' := by
  induction n using Nat.strongRecOn with
  | ind n ih =>
    rw [Nat.toDigits_eq_if (by decide)]
    split
    · next hlt =>
      have hdigit : ∀ d < 10, 0 < d → [Nat.digitChar d].head? ≠ some '0' := by decide
      exact hdigit n hlt h
    · next hge =>
      have hpos : 0 < n / 10 := Nat.div_pos (Nat.le_of_not_lt hge) (by decide)
      rw [List.head?_append_of_ne_nil _ Nat.toDigits_ne_nil]
      exact ih (n / 10) (Nat.div_lt_self h (by decide)) hpos

end TokenScan.Text
