import ConceptInventory.Json.Reader
import ConceptInventory.Json.Writer
import Mathlib.Data.List.TakeWhile

/-!
# Whole numbers read back

A whole number is written with a sign if it is negative and its decimal digits,
of which the first is a zero only for zero itself. In front of a character that
could not carry it on it is read as it was, up to the greatest number of digits
that reading allows.
-/
namespace ConceptInventory.Json

/-! ## Digits -/

theorem isDigit_of_mem_toDigits {n : Nat} {c : Char} (h : c ∈ Nat.toDigits 10 n) :
    isDigit c = true := by
  have hc : c.isDigit = true := Nat.isDigit_of_mem_toDigits (by decide) (by decide) h
  simpa [isDigit, Char.isDigit, Char.le_def] using hc

theorem ne_of_isDigit {d c : Char} (hd : isDigit d = true) (hc : isDigit c = false) : d ≠ c := by
  rintro rfl
  rw [hd] at hc
  cases hc

theorem exists_toDigits (n : Nat) :
    ∃ d ds, Nat.toDigits 10 n = d :: ds ∧ isDigit d = true := by
  obtain ⟨d, ds, hds⟩ := List.exists_cons_of_ne_nil (Nat.toDigits_ne_nil (n := n) (b := 10))
  exact ⟨d, ds, hds, isDigit_of_mem_toDigits (n := n) (by simp [hds])⟩

theorem head?_toDigits {n : Nat} (hn : 0 < n) : (Nat.toDigits 10 n).head? ≠ some '0' := by
  induction n using Nat.strongRecOn with
  | _ n ih =>
    rw [Nat.toDigits_eq_if (by decide)]
    split_ifs with hlt
    · have hdigit : ∀ d < 10, 0 < d → Nat.digitChar d ≠ '0' := by decide
      simpa using hdigit n hlt hn
    · have hhead := ih (n / 10) (by omega) (by omega)
      obtain ⟨d, ds, hds, _⟩ := exists_toDigits (n / 10)
      rw [hds] at hhead ⊢
      exact hhead

theorem natOfDigits_toDigits (n : Nat) : natOfDigits (Nat.toDigits 10 n) = n :=
  Nat.ofDigitChars_ten_toDigits

/-- No digit follows, nor a sign of a fraction or an exponent. -/
def EndsNumber (tail : List Char) : Prop :=
  ∀ c, tail.head? = some c → isDigit c = false ∧ c ≠ '.' ∧ c ≠ 'e' ∧ c ≠ 'E'

theorem endsNumber_nil : EndsNumber [] := by
  intro c hc
  cases hc

theorem endsNumber_cons {c : Char} (h : isDigit c = false ∧ c ≠ '.' ∧ c ≠ 'e' ∧ c ≠ 'E')
    (s : List Char) : EndsNumber (c :: s) := by
  intro d hd
  obtain rfl : c = d := by simpa using hd
  exact h

variable {tail : List Char}

theorem digitRun?_digits {ds : List Char} (hne : ds ≠ []) (hds : ∀ c ∈ ds, isDigit c = true)
    (h : EndsNumber tail) : digitRun? (ds ++ tail) = some (ds, tail) := by
  have hstop : tail.takeWhile isDigit = [] ∧ tail.dropWhile isDigit = tail := by
    cases tail with
    | nil => exact ⟨rfl, rfl⟩
    | cons c tail =>
      have hc := (h c rfl).1
      simp [hc]
  rw [digitRun?, List.takeWhile_append_of_pos hds, List.dropWhile_append_of_pos hds, hstop.1,
    hstop.2, List.append_nil]
  cases ds with
  | nil => exact absurd rfl hne
  | cons d ds => rfl

theorem wholeDigits?_toDigits (n : Nat) (h : EndsNumber tail) :
    wholeDigits? (Nat.toDigits 10 n ++ tail) = some (Nat.toDigits 10 n, tail) := by
  have hrun := digitRun?_digits (Nat.toDigits_ne_nil (n := n)) (fun c => isDigit_of_mem_toDigits) h
  rcases Nat.eq_zero_or_pos n with rfl | hn
  · rfl
  · have hhead := head?_toDigits hn
    obtain ⟨d, ds, hds, _⟩ := exists_toDigits n
    rw [hds] at hhead hrun ⊢
    rw [List.cons_append, wholeDigits?, ← List.cons_append, hrun]
    intro rest hrest
    obtain rfl : d = '0' := (List.cons.inj hrest).1
    exact hhead rfl

theorem fraction_of_endsNumber (h : EndsNumber tail) : fraction tail = (none, tail) := by
  cases tail with
  | nil => rfl
  | cons c tail =>
    obtain ⟨_, hpoint, _⟩ := h c rfl
    rw [fraction]
    intro rest hrest
    exact hpoint (List.cons.inj hrest).1

theorem exponent_of_endsNumber (h : EndsNumber tail) : exponent tail = (none, tail) := by
  cases tail with
  | nil => rfl
  | cons c tail =>
    obtain ⟨_, _, he, hE⟩ := h c rfl
    simp [exponent, he, hE]

/-! ## Numbers -/

/-- The sign of a number as it is written. -/
def signChars (negative : Bool) : List Char := if negative then ['-'] else []

theorem numeral?_toDigits (negative : Bool) (n : Nat) (h : EndsNumber tail) :
    numeral? (signChars negative ++ (Nat.toDigits 10 n ++ tail))
      = some (⟨negative, Nat.toDigits 10 n, none, none⟩, tail) := by
  have hwhole := wholeDigits?_toDigits n h
  cases negative with
  | true =>
    simp [signChars, numeral?, hwhole, fraction_of_endsNumber h, exponent_of_endsNumber h]
  | false =>
    have hsign : ∀ rest, Nat.toDigits 10 n ++ tail = '-' :: rest → False := by
      intro rest hrest
      obtain ⟨d, ds, hds, hd⟩ := exists_toDigits n
      rw [hds] at hrest
      obtain rfl : d = '-' := (List.cons.inj hrest).1
      cases hd
    simp [signChars, numeral?, hwhole, fraction_of_endsNumber h, exponent_of_endsNumber h]

theorem toList_toString (i : Int) :
    (toString i).toList = signChars (decide (i < 0)) ++ Nat.toDigits 10 i.natAbs := by
  cases i with
  | ofNat n => exact Nat.toList_repr
  | negSucc n =>
    have htext : toString (Int.negSucc n) = "-" ++ (n + 1).repr := rfl
    have hneg : decide (Int.negSucc n < 0) = true := decide_eq_true (Int.negSucc_lt_zero n)
    rw [htext, String.toList_append, Nat.toList_repr, hneg]
    rfl

/-- A number of at most 4300 digits. -/
def InRange (i : Int) : Prop := (Nat.toDigits 10 i.natAbs).length ≤ 4300

theorem length_toDigits_le {n k : Nat} (hk : 0 < k) (h : n < Nat.pow 10 k) :
    (Nat.toDigits 10 n).length ≤ k := (Nat.length_toDigits_le_iff (by decide) hk).mpr h

theorem inRange_of_lt {n : Nat} (h : n < Nat.pow 10 4300) : InRange n := by
  have hpos : 0 < 4300 := by decide
  rw [InRange, Int.natAbs_natCast]
  -- As a variable the number of digits keeps the power from being worked out.
  generalize 4300 = k at h hpos ⊢
  exact length_toDigits_le hpos h

theorem numeral_value {i : Int} (hi : InRange i) :
    (Numeral.mk (decide (i < 0)) (Nat.toDigits 10 i.natAbs) none none).value = .ok (.int i) := by
  simp only [Numeral.value, if_neg (Nat.not_lt.mpr hi), natOfDigits_toDigits]
  congr 2
  split_ifs with hneg
  · have hlt : i < 0 := of_decide_eq_true hneg
    omega
  · have hge : ¬i < 0 := by simpa using hneg
    omega

end ConceptInventory.Json
