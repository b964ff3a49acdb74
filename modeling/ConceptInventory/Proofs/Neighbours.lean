import ConceptInventory.Dialect

/-!
# Neighbours across a line break

No test on a neighbour tells a line break from a place that holds no token, and
the second token back is only asked about behind an identifier. So a token is
classified the same whether its line ends the token list or a line break follows,
and the tokens of two lines are classified line by line.
-/
namespace ConceptInventory

/-! ## Windows on a list -/

namespace Window

variable {κ : Type}

/-- The window at a place of a list. -/
def onList (tokens : List (Token κ)) (i : Nat) : Window κ := ⟨tokens.toArray, Int.ofNat i⟩

theorem each_eq_map (tokens : List (Token κ)) :
    each tokens = (List.range tokens.length).map (onList tokens) := rfl

theorem onList_current (tokens : List (Token κ)) (i : Nat) :
    (onList tokens i).current = tokens[i]? := by
  simp [onList, current, peek]

theorem onList_next (tokens : List (Token κ)) (i k : Nat) :
    (onList tokens i).next k = tokens[i + k]? := by
  have hplace : Int.ofNat i + (k : Int) = Int.ofNat (i + k) := rfl
  rw [next, peek, onList, hplace]
  exact List.getElem?_toArray

theorem onList_previous (tokens : List (Token κ)) {i k : Nat} (h : k ≤ i) :
    (onList tokens i).previous k = tokens[i - k]? := by
  have hplace : Int.ofNat i + -(k : Int) = Int.ofNat (i - k) := by
    rw [Int.ofNat_eq_natCast, Int.ofNat_eq_natCast]
    omega
  rw [previous, peek, onList, hplace]
  exact List.getElem?_toArray

/-- Nothing stands in front of the list. -/
theorem onList_previous_none (tokens : List (Token κ)) {i k : Nat} (h : i < k) :
    (onList tokens i).previous k = none := by
  have hplace : Int.ofNat i + -(k : Int) = Int.negSucc (k - i - 1) := by
    rw [Int.ofNat_eq_natCast, Int.negSucc_eq]
    omega
  rw [previous, peek, onList, hplace]

end Window

namespace Dialect

variable {κ : Type}

theorem classifyAll_eq_map (d : Dialect κ) (tokens : List (Token κ)) : d.classifyAll tokens
    = (List.range tokens.length).map fun i => d.classify (.onList tokens i) := by
  rw [classifyAll, Window.each_eq_map, List.map_map]
  rfl

theorem classifyAll_getElem? (d : Dialect κ) (tokens : List (Token κ)) (i : Nat) :
    (d.classifyAll tokens)[i]? = tokens[i]?.map fun _ => d.classify (.onList tokens i) := by
  rw [classifyAll_eq_map, List.getElem?_map]
  by_cases hi : i < tokens.length
  · rw [List.getElem?_range hi, List.getElem?_eq_getElem hi]
    rfl
  · rw [List.getElem?_eq_none (by simpa using hi), List.getElem?_eq_none (by simpa using hi)]
    rfl

theorem length_classifyAll (d : Dialect κ) (tokens : List (Token κ)) :
    (d.classifyAll tokens).length = tokens.length := by
  rw [classifyAll_eq_map, List.length_map, List.length_range]

/-- The readings that are classified are the sightings. -/
theorem filterMap_sighting_readings [TokenKind κ] (d : Dialect κ) (text : String) :
    (d.readings text).filterMap Reading.sighting = d.sightings text := by
  have hlength := d.length_classifyAll (d.grammar.tokenize text)
  calc (d.readings text).filterMap Reading.sighting
    _ = (((d.grammar.tokenize text).zip
        (d.classifyAll (d.grammar.tokenize text))).map Prod.snd).filterMap
          fun c => c.map sightingOf := by
      rw [readings, List.filterMap_map, List.filterMap_map]
      rfl
    _ = d.sightings text := by
      rw [List.map_snd_zip (Nat.le_of_eq hlength)]
      rfl

end Dialect

theorem Language.filterMap_sighting_readings (l : Language) (text : String) :
    (l.readings text).filterMap Reading.sighting = l.sightings text := by
  unfold readings sightings
  cases l.family with
  | cFamily => exact CFamily.dialect.filterMap_sighting_readings text
  | python => exact Python.dialect.filterMap_sighting_readings text

namespace CFamily

/-! ## What the tests see -/

/-- A neighbour as the tests see it, a line break being none. -/
def beside (t : Option (Token Kind)) : Option (Token Kind) :=
  t.filter fun t => t.kind != .lineBreak

theorem any_beside {test : Token Kind → Bool} (h : ∀ t, t.kind = .lineBreak → test t = false)
    (t : Option (Token Kind)) : (beside t).any test = t.any test := by
  cases t with
  | none => rfl
  | some t =>
    by_cases ht : t.kind = .lineBreak
    · simp [beside, ht, h t ht]
    · simp [beside, ht]

@[simp] theorem isOperand_beside (t : Option (Token Kind)) : isOperand (beside t) = isOperand t :=
  any_beside (by intro t ht; simp [ht, Kind.isOperand]) t

@[simp] theorem isType_beside (t : Option (Token Kind)) : isType (beside t) = isType t :=
  any_beside (by intro t ht; simp [ht, Kind.isType]) t

theorem isKind_beside {k : Kind} (hk : k ≠ .lineBreak) (t : Option (Token Kind)) :
    isKind k (beside t) = isKind k t :=
  any_beside (by intro t ht; simp [ht, hk.symm]) t

@[simp] theorem isStream_beside (streams : List String) (t : Option (Token Kind)) :
    isStream streams (beside t) = isStream streams t :=
  any_beside (by intro t ht; simp [ht]) t

/-- No test tells the two neighbours apart. -/
structure Alike (t u : Option (Token Kind)) : Prop where
  operand : isOperand t = isOperand u
  type : isType t = isType u
  identifier : isKind .identifier t = isKind .identifier u
  number : isKind .number t = isKind .number u
  stream (streams : List String) : isStream streams t = isStream streams u

namespace Alike

variable {t u v : Option (Token Kind)}

theorem refl (t : Option (Token Kind)) : Alike t t := ⟨rfl, rfl, rfl, rfl, fun _ => rfl⟩

theorem symm (h : Alike t u) : Alike u t where
  operand := h.operand.symm
  type := h.type.symm
  identifier := h.identifier.symm
  number := h.number.symm
  stream streams := (h.stream streams).symm

theorem trans (h : Alike t u) (h' : Alike u v) : Alike t v where
  operand := h.operand.trans h'.operand
  type := h.type.trans h'.type
  identifier := h.identifier.trans h'.identifier
  number := h.number.trans h'.number
  stream streams := (h.stream streams).trans (h'.stream streams)

end Alike

theorem alike_of_beside {t u : Option (Token Kind)} (h : beside t = beside u) : Alike t u where
  operand := by rw [← isOperand_beside, h, isOperand_beside]
  type := by rw [← isType_beside, h, isType_beside]
  identifier := by rw [← isKind_beside (by decide), h, isKind_beside (by decide)]
  number := by rw [← isKind_beside (by decide), h, isKind_beside (by decide)]
  stream streams := by rw [← isStream_beside, h, isStream_beside]

/-- An ambiguous token is resolved by what the tests see next to it and, behind an
identifier, by what they see two places back. -/
theorem resolve_congr {w v : Window Kind} (hprevious : Alike (w.previous 1) (v.previous 1))
    (hnext : Alike (w.next 1) (v.next 1))
    (hsecond : isKind .identifier (v.previous 1) = true → Alike (w.previous 2) (v.previous 2))
    (a : Ambiguity) (t : Token Kind) : a.resolve w t = a.resolve v t := by
  cases a with
  | asterisk => rw [Ambiguity.resolve, Ambiguity.resolve, hprevious.operand]
  | ampersand => rw [Ambiguity.resolve, Ambiguity.resolve, hprevious.operand]
  | leftAngles => rw [Ambiguity.resolve, Ambiguity.resolve, hprevious.stream]
  | rightAngles => rw [Ambiguity.resolve, Ambiguity.resolve, hprevious.stream]
  | increment => rw [Ambiguity.resolve, Ambiguity.resolve, hnext.operand]
  | decrement => rw [Ambiguity.resolve, Ambiguity.resolve, hnext.operand]
  | angle => rw [Ambiguity.resolve, Ambiguity.resolve, hnext.number, hprevious.identifier]
  | openParen =>
    rw [Ambiguity.resolve, Ambiguity.resolve, hprevious.type, hprevious.identifier]
    by_cases hid : isKind .identifier (v.previous 1) = true
    · rw [(hsecond hid).type]
    · simp [hid]
  | openBracket => rfl

/-- A token is classified by itself and by what the tests see around it. -/
theorem classify_congr {w v : Window Kind} (hcurrent : w.current = v.current)
    (hprevious : beside (w.previous 1) = beside (v.previous 1))
    (hnext : beside (w.next 1) = beside (v.next 1))
    (hsecond : isKind .identifier (v.previous 1) = true →
      beside (w.previous 2) = beside (v.previous 2)) : classify w = classify v := by
  have hresolve := resolve_congr (alike_of_beside hprevious) (alike_of_beside hnext)
    fun hid => alike_of_beside (hsecond hid)
  rw [classify, classify, hcurrent]
  simp only [hresolve]

/-! ## Two lines -/

variable {xs ys : List (Token Kind)} {sep : Token Kind}

theorem beside_eq_none (hsep : sep.kind = .lineBreak) : beside (some sep) = none := by
  simp [beside, hsep]

/-- Up to the line break the tests see the first line alone. -/
theorem beside_first (hsep : sep.kind = .lineBreak) {i : Nat} (hi : i ≤ xs.length) :
    beside (xs ++ sep :: ys)[i]? = beside xs[i]? := by
  by_cases hlt : i < xs.length
  · rw [List.getElem?_append_left hlt]
  · obtain rfl : i = xs.length := by omega
    rw [List.getElem?_append_right (Nat.le_refl _), List.getElem?_eq_none (Nat.le_refl _),
      Nat.sub_self, List.getElem?_cons_zero, beside_eq_none hsep]
    rfl

theorem getElem?_second (j : Nat) : (xs ++ sep :: ys)[xs.length + 1 + j]? = ys[j]? := by
  have hplace : xs.length + 1 + j - xs.length = j + 1 := by omega
  rw [List.getElem?_append_right (by omega), hplace, List.getElem?_cons_succ]

theorem classify_first (hsep : sep.kind = .lineBreak) {i : Nat} (hi : i < xs.length) :
    classify (.onList (xs ++ sep :: ys) i) = classify (.onList xs i) := by
  have hback (k : Nat) : beside ((Window.onList (xs ++ sep :: ys) i).previous k)
      = beside ((Window.onList xs i).previous k) := by
    by_cases hk : k ≤ i
    · rw [Window.onList_previous _ hk, Window.onList_previous _ hk,
        beside_first hsep (by omega)]
    · rw [Window.onList_previous_none _ (by omega), Window.onList_previous_none _ (by omega)]
  apply classify_congr
  · rw [Window.onList_current, Window.onList_current, List.getElem?_append_left hi]
  · exact hback 1
  · have hforth (tokens : List (Token Kind)) :
        (Window.onList tokens i).next 1 = tokens[i + 1]? := Window.onList_next tokens i 1
    rw [hforth, hforth, beside_first hsep (by omega)]
  · intro _
    exact hback 2

theorem classify_second (hsep : sep.kind = .lineBreak) (j : Nat) :
    classify (.onList (xs ++ sep :: ys) (xs.length + 1 + j)) = classify (.onList ys j) := by
  have hback {k : Nat} (hk : k ≤ j + 1) :
      beside ((Window.onList (xs ++ sep :: ys) (xs.length + 1 + j)).previous k)
        = beside ((Window.onList ys j).previous k) := by
    rw [Window.onList_previous _ (by omega)]
    by_cases hkj : k ≤ j
    · have hplace : xs.length + 1 + j - k = xs.length + 1 + (j - k) := by omega
      rw [hplace, getElem?_second, Window.onList_previous _ hkj]
    · have hplace : xs.length + 1 + j - k = xs.length := by omega
      rw [hplace, beside_first hsep (Nat.le_refl _), List.getElem?_eq_none (Nat.le_refl _),
        Window.onList_previous_none _ (by omega)]
  apply classify_congr
  · rw [Window.onList_current, Window.onList_current, getElem?_second]
  · exact hback (k := 1) (by omega)
  · have hforth (tokens : List (Token Kind)) (i : Nat) :
        (Window.onList tokens i).next 1 = tokens[i + 1]? := Window.onList_next tokens i 1
    rw [hforth, hforth, Nat.add_assoc _ j 1, getElem?_second]
  · intro hid
    cases j with
    | zero =>
      -- the first token of a line has no token in front of it, let alone an identifier
      have hnone : (Window.onList ys 0).previous 1 = none :=
        Window.onList_previous_none ys (k := 1) Nat.zero_lt_one
      rw [hnone] at hid
      cases hid
    | succ j => exact hback (k := 2) (by omega)

theorem classifyAll_eq_map (tokens : List (Token Kind)) : dialect.classifyAll tokens
    = (List.range tokens.length).map fun i => classify (.onList tokens i) :=
  dialect.classifyAll_eq_map tokens

/-- Two lines are classified line by line. -/
theorem classifyAll_lines (hsep : sep.kind = .lineBreak) (xs ys : List (Token Kind)) :
    dialect.classifyAll (xs ++ sep :: ys)
      = dialect.classifyAll xs ++ none :: dialect.classifyAll ys := by
  have hrange : List.range (xs ++ sep :: ys).length = List.range xs.length
      ++ xs.length :: (List.range ys.length).map fun j => xs.length + 1 + j := by
    rw [List.length_append, List.length_cons, Nat.add_comm ys.length 1, ← Nat.add_assoc,
      List.range_add, List.range_succ, List.append_assoc]
    rfl
  have hbreak : classify (.onList (xs ++ sep :: ys) xs.length) = none := by
    have hcurrent : (xs ++ sep :: ys)[xs.length]? = some sep := by
      rw [List.getElem?_append_right (Nat.le_refl _), Nat.sub_self, List.getElem?_cons_zero]
    rw [classify, Window.onList_current, hcurrent, Option.bind_some, hsep]
    rfl
  have hfirst : (List.range xs.length).map (fun i => classify (.onList (xs ++ sep :: ys) i))
      = (List.range xs.length).map fun i => classify (.onList xs i) := by
    apply List.map_congr_left
    intro i hi
    exact classify_first hsep (List.mem_range.mp hi)
  have hsecond : (List.range ys.length).map
      (fun j => classify (.onList (xs ++ sep :: ys) (xs.length + 1 + j)))
      = (List.range ys.length).map fun j => classify (.onList ys j) := by
    apply List.map_congr_left
    intro j _
    exact classify_second hsep j
  rw [classifyAll_eq_map, classifyAll_eq_map, classifyAll_eq_map, hrange, List.map_append,
    List.map_cons, List.map_map, hfirst, hbreak, ← hsecond]
  rfl

end CFamily

end ConceptInventory
