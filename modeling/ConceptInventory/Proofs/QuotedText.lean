import ConceptInventory.Json.Quoted
import ConceptInventory.Json.Reader
import Mathlib.Tactic.SplitIfs

/-!
# Quoted text read back

A quoted text is read back as it was, in either style, whatever characters it
has. Each character is read as one unit, or as the two units of a surrogate pair
where it is escaped beyond the first plane. No character is half a pair, so the
pairs that are joined are those that one character was split into.
-/
namespace ConceptInventory

theorem isSurrogate_toNat (c : Char) : isSurrogate c.toNat = false := by
  have hvalid : c.toNat < 0xD800 ∨ 0xDFFF < c.toNat ∧ c.toNat < 0x110000 := c.valid
  have hout : ¬(0xD800 ≤ c.toNat ∧ c.toNat < 0xE000) := by omega
  simpa [isSurrogate] using hout

theorem charOfCode_toNat (c : Char) : charOfCode c.toNat = c := by
  rw [charOfCode, isSurrogate_toNat, Char.ofNat_toNat]
  rfl

theorem textOfCodes_chars (s : List Char) : textOfCodes (s.map Char.toNat) = String.ofList s := by
  have hchars : charOfCode ∘ Char.toNat = id := funext charOfCode_toNat
  rw [textOfCodes, List.map_map, hchars, List.map_id]

namespace Json

theorem ofCodes_chars (s : List Char) : ofCodes (s.map Char.toNat) = .str (String.ofList s) := by
  have hnone : (s.map Char.toNat).any isSurrogate = false := by
    simp [isSurrogate_toNat]
  rw [ofCodes, hnone, textOfCodes_chars]
  rfl

/-! ## Digits of an escape -/

theorem hexValue?_hexDigit : ∀ n < 16, hexValue? (hexDigit n) = some n := by decide

theorem units_unicodeEscape {n : Nat} (hn : n < 0x10000) (start : List Char)
    {tail : List Char} (htail : tail ≠ []) :
    units start (unicodeEscape n ++ tail) = prepend n (units start tail) := by
  have hvalue : fourHexValue? (hexDigit (n / 0x1000 % 16)) (hexDigit (n / 0x100 % 16))
      (hexDigit (n / 0x10 % 16)) (hexDigit (n % 16)) = some n := by
    have hdigit (k : Nat) : hexValue? (hexDigit (k % 16)) = some (k % 16) :=
      hexValue?_hexDigit _ (Nat.mod_lt _ (by decide))
    have hsum : ((n / 0x1000 % 16 * 16 + n / 0x100 % 16) * 16 + n / 0x10 % 16) * 16 + n % 16
        = n := by omega
    simp only [fourHexValue?, hdigit, hsum]
  cases tail with
  | nil => exact absurd rfl htail
  | cons c tail =>
    simp only [unicodeEscape, fourHexDigits, List.cons_append, List.nil_append, units, hvalue]

/-! ## Characters -/

/-- The two units of a character beyond the first plane. -/
def surrogatePair (c : Char) : List Nat :=
  [0xD800 + (c.toNat - 0x10000) / 0x400, 0xDC00 + (c.toNat - 0x10000) % 0x400]

/-- The units a written character is read as. -/
def unitsOf (asciiOnly : Bool) (c : Char) : List Nat :=
  if asciiOnly && 0x10000 ≤ c.toNat then surrogatePair c else [c.toNat]

/-- A character that needs no escape is read as itself. -/
theorem units_raw {c : Char} (hquote : c ≠ '"') (hslash : c ≠ '\\') (hcontrol : ¬c.toNat < 0x20)
    (start tail : List Char) : units start (c :: tail) = prepend c.toNat (units start tail) := by
  rw [units.eq_def]
  split
  · rename_i hnil
    cases hnil
  · rename_i hcons
    exact absurd (List.cons.inj hcons).1 hquote
  · rename_i hcons
    exact absurd (List.cons.inj hcons).1 hslash
  · rename_i hcons
    exact absurd (List.cons.inj hcons).1 hslash
  · rename_i hcons
    exact absurd (List.cons.inj hcons).1 hslash
  · rename_i hcons
    obtain ⟨rfl, rfl⟩ := List.cons.inj hcons
    rw [if_neg hcontrol]

/-- A backslash and a letter are read as what the letter stands for. -/
theorem units_short {c : Char} {n : Nat} (h : shortEscape? c = some n) (start tail : List Char) :
    units start ('\\' :: c :: tail) = prepend n (units start tail) := by
  rw [units, h]
  rintro rfl
  cases h

/-- Some units in front of what is read behind them. -/
def prependAll (ns : List Nat) (r : Except Failure (List Nat × List Char)) :
    Except Failure (List Nat × List Char) := ns.foldr prepend r

theorem prependAll_ok (ns ms : List Nat) (rest : List Char) :
    prependAll ns (.ok (ms, rest)) = .ok (ns ++ ms, rest) := by
  induction ns with
  | nil => rfl
  | cons n ns ih =>
    rw [prependAll, List.foldr_cons]
    change prepend n (prependAll ns _) = _
    rw [ih]
    rfl

/-- The forms in which a character is written: by a letter, by its code, as itself,
or by the codes of two units. -/
inductive Escaped (asciiOnly : Bool) (c : Char) : List Char → Prop
  | letter {d : Char} (hd : shortEscape? d = some c.toNat) (hn : c.toNat < 0x10000) :
      Escaped asciiOnly c ['\\', d]
  | code (hn : c.toNat < 0x10000) : Escaped asciiOnly c (unicodeEscape c.toNat)
  | raw (hquote : c ≠ '"') (hslash : c ≠ '\\') (hcontrol : ¬c.toNat < 0x20)
      (hplane : (asciiOnly && 0x10000 ≤ c.toNat) = false) : Escaped asciiOnly c [c]
  | pair (hascii : asciiOnly = true) (hplane : 0x10000 ≤ c.toNat) :
      Escaped asciiOnly c ((surrogatePair c).flatMap unicodeEscape)

theorem escaped_escape (asciiOnly : Bool) (c : Char) :
    Escaped asciiOnly c (escape asciiOnly c) := by
  unfold escape
  split_ifs with hquote hslash hfeed hreturn htab hback hform hcontrol hraw hplane
  · obtain rfl := beq_iff_eq.mp hquote
    exact .letter rfl (by decide)
  · obtain rfl := beq_iff_eq.mp hslash
    exact .letter rfl (by decide)
  · obtain rfl := beq_iff_eq.mp hfeed
    exact .letter rfl (by decide)
  · obtain rfl := beq_iff_eq.mp hreturn
    exact .letter rfl (by decide)
  · obtain rfl := beq_iff_eq.mp htab
    exact .letter rfl (by decide)
  · have hcode : c.toNat = 0x08 := beq_iff_eq.mp hback
    exact .letter (by rw [hcode]; rfl) (by omega)
  · have hcode : c.toNat = 0x0C := beq_iff_eq.mp hform
    exact .letter (by rw [hcode]; rfl) (by omega)
  · exact .code (by omega)
  · refine .raw (by simpa using hquote) (by simpa using hslash) hcontrol ?_
    cases asciiOnly with
    | false => rfl
    | true =>
      have hlt : c.toNat < 0x7F := by simpa using hraw
      simpa using (by omega : c.toNat < 0x10000)
  · exact .code hplane
  · have hascii : asciiOnly = true := by
      rw [Bool.or_eq_true, not_or] at hraw
      simpa using hraw.1
    have hpair := Escaped.pair (c := c) hascii (by omega)
    simpa [surrogatePair] using hpair

/-- A written character is read as its units. -/
theorem units_escape (asciiOnly : Bool) (c : Char) (start : List Char) {tail : List Char}
    (htail : tail ≠ []) : units start (escape asciiOnly c ++ tail)
      = prependAll (unitsOf asciiOnly c) (units start tail) := by
  have hplain (hn : c.toNat < 0x10000) : unitsOf asciiOnly c = [c.toNat] := by
    rw [unitsOf, decide_eq_false (by omega), Bool.and_false]
    rfl
  have hform := escaped_escape asciiOnly c
  generalize escape asciiOnly c = w at hform ⊢
  cases hform with
  | letter hd hn =>
    rw [hplain hn]
    exact units_short hd start tail
  | code hn =>
    rw [hplain hn]
    exact units_unicodeEscape hn start htail
  | raw hquote hslash hcontrol hplane =>
    rw [unitsOf, hplane]
    exact units_raw hquote hslash hcontrol start tail
  | pair hascii hplane =>
    have hvalid : c.toNat < 0xD800 ∨ 0xDFFF < c.toNat ∧ c.toNat < 0x110000 := c.valid
    have hunits : unitsOf asciiOnly c = surrogatePair c := by
      simp [unitsOf, hascii, hplane]
    have hmore : unicodeEscape (0xDC00 + (c.toNat - 0x10000) % 0x400) ++ tail ≠ [] := by
      simp [unicodeEscape]
    rw [hunits]
    simp only [surrogatePair, List.flatMap_cons, List.flatMap_nil, List.append_nil,
      List.append_assoc]
    rw [units_unicodeEscape (by omega) start hmore, units_unicodeEscape (by omega) start htail]
    rfl

/-! ## Texts -/

theorem units_quoted (asciiOnly : Bool) (s start rest : List Char) :
    units start (s.flatMap (escape asciiOnly) ++ '"' :: rest)
      = .ok (s.flatMap (unitsOf asciiOnly), rest) := by
  induction s with
  | nil => simp [units]
  | cons c s ih =>
    rw [List.flatMap_cons, List.append_assoc, units_escape asciiOnly c start (by simp), ih,
      prependAll_ok, List.flatMap_cons]

/-- A unit that is no first half stands for itself. -/
theorem joinUnits_cons {n : Nat} (h : ¬(0xD800 ≤ n ∧ n < 0xDC00)) (ns : List Nat) :
    joinUnits (n :: ns) = n :: joinUnits ns := by
  cases ns with
  | nil => rfl
  | cons m ns =>
    have hpair : (0xD800 ≤ n && n < 0xDC00 && 0xDC00 ≤ m && m < 0xE000) = false := by
      simpa using fun h₁ h₂ => absurd ⟨h₁, h₂⟩ h
    rw [joinUnits, hpair]
    rfl

theorem joinUnits_unitsOf (asciiOnly : Bool) (s : List Char) :
    joinUnits (s.flatMap (unitsOf asciiOnly)) = s.map Char.toNat := by
  induction s with
  | nil => rfl
  | cons c s ih =>
    have hvalid : c.toNat < 0xD800 ∨ 0xDFFF < c.toNat ∧ c.toNat < 0x110000 := c.valid
    rw [List.flatMap_cons, List.map_cons, unitsOf]
    split_ifs with hplane
    · have hbeyond : 0x10000 ≤ c.toNat := by
        rw [Bool.and_eq_true, decide_eq_true_eq] at hplane
        exact hplane.2
      have hpair : (0xD800 ≤ 0xD800 + (c.toNat - 0x10000) / 0x400
          && 0xD800 + (c.toNat - 0x10000) / 0x400 < 0xDC00
          && 0xDC00 ≤ 0xDC00 + (c.toNat - 0x10000) % 0x400
          && 0xDC00 + (c.toNat - 0x10000) % 0x400 < 0xE000) = true := by
        simp only [Bool.and_eq_true, decide_eq_true_eq]
        omega
      have hjoin : 0x10000 + (0xD800 + (c.toNat - 0x10000) / 0x400 - 0xD800) * 0x400
          + (0xDC00 + (c.toNat - 0x10000) % 0x400 - 0xDC00) = c.toNat := by omega
      rw [surrogatePair, List.cons_append, List.cons_append, List.nil_append, joinUnits, hpair,
        if_pos rfl, hjoin, ih]
    · rw [List.singleton_append, joinUnits_cons (by omega), ih]

/-- What stands between the quotes is read as the text. -/
theorem string_quoted (asciiOnly : Bool) (s start rest : List Char) :
    string start (s.flatMap (escape asciiOnly) ++ '"' :: rest)
      = .ok (s.map Char.toNat, rest) := by
  rw [string, units_quoted, ← joinUnits_unitsOf asciiOnly]
  rfl

end Json

end ConceptInventory
