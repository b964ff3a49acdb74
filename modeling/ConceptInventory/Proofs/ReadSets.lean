import ConceptInventory.Proofs.Resolution
import Mathlib.Tactic.ByContra

/-!
# What a classification reads

An ambiguous token of the C family reads one neighbour in front of it or behind it,
an angle both, and a parenthesis behind an identifier also the token before that.
So where two token lists meet, only the tokens next to the seam can be classified
otherwise than in their own list, and only those that read across it. In Python
nothing is read but the token itself.
-/
namespace ConceptInventory

/-! ## Windows on two lists put together -/

namespace Window

variable {κ : Type} {xs ys : List (Token κ)}

theorem onList_append_previous {i : Nat} (hi : i < xs.length) (k : Nat) :
    (onList (xs ++ ys) i).previous k = (onList xs i).previous k := by
  by_cases hk : k ≤ i
  · rw [onList_previous _ hk, onList_previous _ hk, List.getElem?_append_left (by omega)]
  · rw [onList_previous_none _ (by omega), onList_previous_none _ (by omega)]

theorem onList_append_next {i k : Nat} (hi : i + k < xs.length) :
    (onList (xs ++ ys) i).next k = (onList xs i).next k := by
  rw [onList_next, onList_next, List.getElem?_append_left hi]

theorem getElem?_append_add (xs ys : List (Token κ)) (j : Nat) :
    (xs ++ ys)[xs.length + j]? = ys[j]? := by
  rw [List.getElem?_append_right (Nat.le_add_right _ _), Nat.add_sub_cancel_left]

theorem onList_append_add_previous {j k : Nat} (hk : k ≤ j) :
    (onList (xs ++ ys) (xs.length + j)).previous k = (onList ys j).previous k := by
  rw [onList_previous _ (by omega), onList_previous _ hk, Nat.add_sub_assoc hk,
    getElem?_append_add]

theorem onList_append_add_next (j k : Nat) :
    (onList (xs ++ ys) (xs.length + j)).next k = (onList ys j).next k := by
  rw [onList_next, onList_next, Nat.add_assoc, getElem?_append_add]

end Window

namespace CFamily

/-- The kinds that are decided by the token in front of them. -/
def looksBack : List Kind :=
  [.asterisk, .ampersand, .leftOperator, .rightOperator, .less, .greater, .openParen]

/-- The kinds that are decided by the token behind them. -/
def looksAhead : List Kind := [.increment, .decrement, .less, .greater]

/-! ## The read set of a kind -/

/-- Two windows in which a token of some kind reads the same. -/
structure ReadsSame (k : Kind) (w v : Window Kind) : Prop where
  back : k ∈ looksBack → w.previous 1 = v.previous 1
  ahead : k ∈ looksAhead → w.next 1 = v.next 1
  second : k = .openParen → isKind .identifier (v.previous 1) = true →
    w.previous 2 = v.previous 2

/-- The kinds that stand for an ambiguity. -/
def Ambiguity.kinds : Ambiguity → List Kind
  | .asterisk => [.asterisk]
  | .ampersand => [.ampersand]
  | .leftAngles => [.leftOperator]
  | .rightAngles => [.rightOperator]
  | .increment => [.increment]
  | .decrement => [.decrement]
  | .angle => [.less, .greater]
  | .openParen => [.openParen]
  | .openBracket => [.openBracket]

theorem mem_kinds_of_byContext {k : Kind} {a : Ambiguity} (h : treatment k = .byContext a) :
    k ∈ a.kinds := by
  cases k <;> first | cases h; decide | cases h

theorem resolve_of_readsSame {k : Kind} {a : Ambiguity} (hk : k ∈ a.kinds)
    {w v : Window Kind} (h : ReadsSame k w v) (t : Token Kind) :
    a.resolve w t = a.resolve v t := by
  cases a with
  | asterisk | ampersand | leftAngles | rightAngles =>
    obtain rfl := List.mem_singleton.mp hk
    rw [Ambiguity.resolve, Ambiguity.resolve, h.back (by decide)]
  | increment | decrement =>
    obtain rfl := List.mem_singleton.mp hk
    rw [Ambiguity.resolve, Ambiguity.resolve, h.ahead (by decide)]
  | angle =>
    have hback : ∀ k ∈ Ambiguity.angle.kinds, k ∈ looksBack := by decide
    have hahead : ∀ k ∈ Ambiguity.angle.kinds, k ∈ looksAhead := by decide
    rw [Ambiguity.resolve, Ambiguity.resolve, h.back (hback k hk), h.ahead (hahead k hk)]
  | openParen =>
    obtain rfl := List.mem_singleton.mp hk
    rw [Ambiguity.resolve, Ambiguity.resolve, h.back (by decide)]
    by_cases hid : isKind .identifier (v.previous 1) = true
    · rw [h.second rfl hid]
    · simp [hid]
  | openBracket => rfl

theorem classify_of_readsSame {t : Token Kind} {w v : Window Kind} (hw : w.current = some t)
    (hv : v.current = some t) (h : ReadsSame t.kind w v) : classify w = classify v := by
  rw [classify, classify, hw, hv, Option.bind_some, Option.bind_some]
  cases ht : treatment t.kind with
  | filed outer => rfl
  | skipped => rfl
  | byContext a => simp only [resolve_of_readsSame (mem_kinds_of_byContext ht) h]

/-! ## The seam -/

variable {xs ys : List (Token Kind)} {t : Token Kind}

/-- In front of the seam only the last token can differ, if it looks ahead. -/
theorem classifyAll_append {i : Nat} (hi : xs[i]? = some t)
    (hseam : i + 1 = xs.length → t.kind ∉ looksAhead) :
    (dialect.classifyAll (xs ++ ys))[i]? = (dialect.classifyAll xs)[i]? := by
  have hlt : i < xs.length := (List.getElem?_eq_some_iff.mp hi).choose
  have hwhole : (xs ++ ys)[i]? = some t := (List.getElem?_append_left hlt).trans hi
  have hreads : ReadsSame t.kind (.onList (xs ++ ys) i) (.onList xs i) := {
    back _ := Window.onList_append_previous hlt 1
    ahead hk := by
      have hinside : i + 1 < xs.length := Nat.lt_of_le_of_ne hlt fun hlast => hseam hlast hk
      exact Window.onList_append_next (k := 1) hinside
    second _ _ := Window.onList_append_previous hlt 2 }
  have hsame := classify_of_readsSame ((Window.onList_current _ i).trans hwhole)
    ((Window.onList_current _ i).trans hi) hreads
  rw [classifyAll_getElem?, classifyAll_getElem?, hwhole, hi, hsame]

/-- Behind the seam only the first token can differ, if it looks back, and the second
one, if it is a parenthesis that stands behind an identifier. -/
theorem classifyAll_append_add {j : Nat} (hj : ys[j]? = some t)
    (hfirst : j = 0 → t.kind ∉ looksBack)
    (hsecond : j = 1 → t.kind = .openParen → isKind .identifier ys[0]? = false) :
    (dialect.classifyAll (xs ++ ys))[xs.length + j]? = (dialect.classifyAll ys)[j]? := by
  have hwhole : (xs ++ ys)[xs.length + j]? = some t :=
    (Window.getElem?_append_add xs ys j).trans hj
  have hreads : ReadsSame t.kind (.onList (xs ++ ys) (xs.length + j)) (.onList ys j) := {
    back hk := by
      have hpos : 1 ≤ j := Nat.pos_of_ne_zero fun hzero => hfirst hzero hk
      exact Window.onList_append_add_previous hpos
    ahead _ := Window.onList_append_add_next j 1
    second hk hid := by
      match j with
      | 0 => exact absurd (hk ▸ by decide) (hfirst rfl)
      | 1 =>
        have hfront : (Window.onList ys 1).previous 1 = ys[0]? :=
          Window.onList_previous ys (k := 1) (Nat.le_refl 1)
        rw [hfront, hsecond rfl hk] at hid
        cases hid
      | j + 2 => exact Window.onList_append_add_previous (k := 2) (by omega) }
  have hsame := classify_of_readsSame ((Window.onList_current _ _).trans hwhole)
    ((Window.onList_current _ j).trans hj) hreads
  rw [classifyAll_getElem?, classifyAll_getElem?, hwhole, hj, hsame]

end CFamily

/-- Every token is classified as if it stood alone. -/
theorem Python.classifyAll_alone {tokens : List (Token Python.Kind)} {i : Nat}
    {t : Token Python.Kind} (h : tokens[i]? = some t) :
    (Python.dialect.classifyAll tokens)[i]? = (Python.dialect.classifyAll [t])[0]? := by
  have hcurrent : (Window.onList tokens i).current = (Window.onList [t] 0).current := by
    rw [Window.onList_current, Window.onList_current, h]
    rfl
  have hsame : Python.classify (.onList tokens i) = Python.classify (.onList [t] 0) := by
    rw [Python.classify, Python.classify, hcurrent]
  rw [Dialect.classifyAll_getElem?, Dialect.classifyAll_getElem?, h]
  exact congrArg some hsame

namespace CFamily

/-- A token is classified among the tokens of its own list, as far as it does not read
across the seam. In front of it this can be the last one only, if it looks ahead;
behind it the first one, if it looks back, and the second one, if it is a parenthesis
behind an identifier. Python classifies every token as if it stood alone. -/
theorem classifyAll_local :
    (∀ xs ys : List (Token Kind),
      let whole := dialect.classifyAll (xs ++ ys)
      (∀ i, i + 1 < xs.length → whole[i]? = (dialect.classifyAll xs)[i]?)
      ∧ (∀ j, 2 ≤ j → whole[xs.length + j]? = (dialect.classifyAll ys)[j]?)
      ∧ (∀ i t, i + 1 = xs.length → xs[i]? = some t →
        whole[i]? ≠ (dialect.classifyAll xs)[i]? → t.kind ∈ looksAhead)
      ∧ (∀ t, ys[0]? = some t →
        whole[xs.length]? ≠ (dialect.classifyAll ys)[0]? → t.kind ∈ looksBack)
      ∧ ∀ t u, ys[0]? = some t → ys[1]? = some u →
        whole[xs.length + 1]? ≠ (dialect.classifyAll ys)[1]? →
        u.kind = .openParen ∧ t.kind = .identifier)
    ∧ ∀ (tokens : List (Token Python.Kind)) (i : Nat) (t : Token Python.Kind),
      tokens[i]? = some t →
      (Python.dialect.classifyAll tokens)[i]? = (Python.dialect.classifyAll [t])[0]? := by
  refine ⟨?_, fun _ _ _ => Python.classifyAll_alone⟩
  intro xs ys whole
  refine ⟨?_, ?_, ?_, ?_, ?_⟩
  · intro i hi
    exact classifyAll_append (List.getElem?_eq_getElem (Nat.lt_of_succ_lt hi)) (by omega)
  · intro j hj
    cases hys : ys[j]? with
    | none =>
      rw [classifyAll_getElem?, classifyAll_getElem?, Window.getElem?_append_add, hys]
      rfl
    | some t => exact classifyAll_append_add hys (by omega) (by omega)
  · intro i t _ ht hne
    by_contra hkind
    exact hne (classifyAll_append ht fun _ => hkind)
  · intro t ht hne
    by_contra hkind
    exact hne (classifyAll_append_add ht (fun _ => hkind) (by omega))
  · intro t u ht hu hne
    by_contra hkinds
    refine hne (classifyAll_append_add hu (by omega) fun _ hparen => ?_)
    rw [ht]
    exact beq_false_of_ne fun hid => hkinds ⟨hparen, hid⟩

/-- Behind a type, two tokens past the seam, a call becomes a declarator. -/
example : let call : List (Token Kind) := [⟨.identifier, some "f"⟩, ⟨.openParen, none⟩]
    ((dialect.classifyAll call)[1]?.join.map (·.token.kind) = some .functionCall)
      ∧ (dialect.classifyAll ([⟨.kwInt, none⟩] ++ call))[2]?.join.map (·.token.kind)
        = some .functionDeclarator := by decide

end CFamily

end ConceptInventory
