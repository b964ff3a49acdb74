import ConceptInventory.Proofs.Neighbours

/-!
# Resolved tokens

An ambiguous token and what it is resolved to look the same to every test on a
neighbour: neither is an operand, a type or a stream. So replacing the tokens of
a list by what they are resolved to changes nothing for the tokens around them,
and a resolved kind is filed where the ambiguity was. Classifying the new list
gives the same answers, and resolving it again changes nothing.
-/
namespace ConceptInventory.CFamily

/-! ## What resolution replaces -/

/-- A token that is neither an operand nor a type is seen by no test. -/
theorem alike_none {t : Token Kind} (hoperand : t.kind.isOperand = false)
    (htype : t.kind.isType = false) : Alike (some t) none := by
  have hidentifier : (t.kind == .identifier) = false := by
    apply beq_false_of_ne
    intro hk
    rw [hk] at hoperand
    cases hoperand
  have hnumber : (t.kind == .number) = false := by
    apply beq_false_of_ne
    intro hk
    rw [hk] at hoperand
    cases hoperand
  exact ⟨hoperand, htype, hidentifier, hnumber, fun streams => by simp [isStream, hidentifier]⟩

theorem unseen_of_byContext {k : Kind} {a : Ambiguity} (h : treatment k = .byContext a) :
    k.isOperand = false ∧ k.isType = false := by
  cases k <;> first | exact ⟨rfl, rfl⟩ | cases h

/-- The kinds that stand for a resolved ambiguity under some categories. -/
def Resolved (k : Kind) (outer : List String) : Prop :=
  treatment k = .filed outer ∧ k.isOperand = false ∧ k.isType = false

/-- An angle is resolved to itself, any other ambiguity to a kind of its own that has
no text and is no directive. -/
theorem resolved_of_resolve {a : Ambiguity} {w : Window Kind} {t t' : Token Kind}
    {outer : List String} (h : a.resolve w t = some (t', outer)) :
    (a = .angle ∧ t' = t ∧ outer = Category.comparison) ∨
      (t' = .bare t'.kind ∧ t'.kind ≠ .directive ∧ Resolved t'.kind outer) := by
  cases a with
  | asterisk | ampersand | increment | decrement | leftAngles | rightAngles =>
    rw [Ambiguity.resolve] at h
    split at h <;> cases h <;> exact .inr ⟨rfl, by decide, rfl, rfl, rfl⟩
  | angle =>
    rw [Ambiguity.resolve] at h
    split at h <;> cases h
    exact .inl ⟨rfl, rfl, rfl⟩
  | openParen =>
    rw [Ambiguity.resolve] at h
    split at h
    · cases h
      exact .inr ⟨rfl, by decide, rfl, rfl, rfl⟩
    · split at h
      · cases h
      · split at h <;> cases h <;> exact .inr ⟨rfl, by decide, rfl, rfl, rfl⟩
  | openBracket =>
    cases h
    exact .inr ⟨rfl, by decide, rfl, rfl, rfl⟩

/-- How the token of a window is classified, by the treatment of its kind. -/
theorem classify_cases {w : Window Kind} {t : Token Kind} (h : w.current = some t) :
    (∃ outer, treatment t.kind = .filed outer ∧ classify w = some (.file t outer)) ∨
    (treatment t.kind = .skipped ∧ classify w = none) ∨
    ∃ a, treatment t.kind = .byContext a ∧
      classify w = (a.resolve w t).map fun r => .file r.1 r.2 := by
  rw [classify, h, Option.bind_some]
  cases ht : treatment t.kind with
  | filed outer => exact .inl ⟨outer, rfl, rfl⟩
  | skipped => exact .inr (.inl ⟨rfl, rfl⟩)
  | byContext a => exact .inr (.inr ⟨a, rfl, rfl⟩)

/-- What stands for the token of a window once it is resolved: a skipped token
stays. -/
def standing (w : Window Kind) (t : Token Kind) : Token Kind :=
  ((classify w).map Classification.token).getD t

/-- No test tells a token from what it is resolved to. -/
theorem alike_standing {w : Window Kind} {t : Token Kind} (h : w.current = some t) :
    Alike (some (standing w t)) (some t) := by
  rw [standing]
  rcases classify_cases h with ⟨outer, _, hc⟩ | ⟨_, hc⟩ | ⟨a, ha, hc⟩
  · rw [hc]
    exact .refl _
  · rw [hc]
    exact .refl _
  · rw [hc]
    cases hr : a.resolve w t with
    | none => exact .refl _
    | some r =>
      rcases resolved_of_resolve hr with ⟨_, ht, _⟩ | ⟨_, _, _, hoperand, htype⟩
      · rw [Option.map_some, Option.map_some, Option.getD_some, Classification.file, ht]
        exact .refl _
      · obtain ⟨hoperand', htype'⟩ := unseen_of_byContext ha
        exact (alike_none hoperand htype).trans (alike_none hoperand' htype').symm

/-! ## Lists -/

theorem classifyAll_getElem? (tokens : List (Token Kind)) (i : Nat) :
    (dialect.classifyAll tokens)[i]?
      = tokens[i]?.map fun _ => classify (.onList tokens i) :=
  dialect.classifyAll_getElem? tokens i

theorem resolveAll_getElem? (tokens : List (Token Kind)) (i : Nat) :
    (dialect.resolveAll tokens)[i]? = tokens[i]?.map (standing (.onList tokens i)) := by
  rw [Dialect.resolveAll, List.getElem?_map, List.zip_eq_zipWith, List.getElem?_zipWith,
    classifyAll_getElem?]
  cases tokens[i]? <;> rfl

/-- No test tells the neighbours in the two lists apart. -/
theorem alike_resolveAll (tokens : List (Token Kind)) (i : Nat) :
    Alike (dialect.resolveAll tokens)[i]? tokens[i]? := by
  rw [resolveAll_getElem?]
  cases h : tokens[i]? with
  | none => exact .refl _
  | some t => exact alike_standing ((Window.onList_current tokens i).trans h)

/-- An ambiguity is resolved in the new list as in the old one. -/
theorem resolve_resolveAll (tokens : List (Token Kind)) (i : Nat) (a : Ambiguity)
    (t : Token Kind) : a.resolve (.onList (dialect.resolveAll tokens) i) t
      = a.resolve (.onList tokens i) t := by
  have hback (k : Nat) : Alike ((Window.onList (dialect.resolveAll tokens) i).previous k)
      ((Window.onList tokens i).previous k) := by
    by_cases hk : k ≤ i
    · rw [Window.onList_previous _ hk, Window.onList_previous _ hk]
      exact alike_resolveAll tokens (i - k)
    · rw [Window.onList_previous_none _ (by omega), Window.onList_previous_none _ (by omega)]
      exact .refl none
  have hnext : Alike ((Window.onList (dialect.resolveAll tokens) i).next 1)
      ((Window.onList tokens i).next 1) := by
    have hforth (tokens : List (Token Kind)) :
        (Window.onList tokens i).next 1 = tokens[i + 1]? := Window.onList_next tokens i 1
    rw [hforth, hforth]
    exact alike_resolveAll tokens (i + 1)
  exact resolve_congr (hback 1) hnext (fun _ => hback 2) a t

/-- At every place of the new list the answer is the one of the old list. -/
theorem classify_resolveAll (tokens : List (Token Kind)) (i : Nat) :
    classify (.onList (dialect.resolveAll tokens) i) = classify (.onList tokens i) := by
  cases h : tokens[i]? with
  | none =>
    rw [classify, classify, Window.onList_current, Window.onList_current, resolveAll_getElem?, h]
    rfl
  | some t =>
    have hold : (Window.onList tokens i).current = some t :=
      (Window.onList_current tokens i).trans h
    have hnew : (Window.onList (dialect.resolveAll tokens) i).current
        = some (standing (.onList tokens i) t) := by
      rw [Window.onList_current, resolveAll_getElem?, h]
      rfl
    rcases classify_cases hold with ⟨outer, ht, hc⟩ | ⟨ht, hc⟩ | ⟨a, ha, hc⟩
    · have hstanding : standing (.onList tokens i) t = t := by
        rw [standing, hc]
        rfl
      rw [hstanding] at hnew
      rw [hc, classify, hnew, Option.bind_some, ht]
    · have hstanding : standing (.onList tokens i) t = t := by
        rw [standing, hc]
        rfl
      rw [hstanding] at hnew
      rw [hc, classify, hnew, Option.bind_some, ht]
    · -- a token that stays is resolved again, another one is filed at once
      have hagain (hstanding : standing (.onList tokens i) t = t) :
          classify (.onList (dialect.resolveAll tokens) i) = classify (.onList tokens i) := by
        rw [hstanding] at hnew
        rw [hc, classify, hnew, Option.bind_some, ha]
        simp only [resolve_resolveAll]
      cases hr : a.resolve (.onList tokens i) t with
      | none =>
        apply hagain
        rw [standing, hc, hr]
        rfl
      | some r =>
        have hstanding : standing (.onList tokens i) t = r.1 := by
          rw [standing, hc, hr]
          rfl
        rcases resolved_of_resolve hr with ⟨_, hsame, _⟩ | ⟨_, _, hfiled, _, _⟩
        · exact hagain (hstanding.trans hsame)
        · rw [hstanding] at hnew
          rw [hc, hr, classify, hnew, Option.bind_some, hfiled]
          rfl

/-- A list whose tokens are replaced by what they are resolved to is classified
like the list itself, place by place, and there is nothing more to resolve. -/
theorem classifyAll_resolveAll (tokens : List (Token Kind)) :
    dialect.classifyAll (dialect.resolveAll tokens) = dialect.classifyAll tokens ∧
      dialect.resolveAll (dialect.resolveAll tokens) = dialect.resolveAll tokens := by
  constructor
  · apply List.ext_getElem?
    intro i
    rw [classifyAll_getElem?, classifyAll_getElem?, classify_resolveAll, resolveAll_getElem?,
      Option.map_map]
    rfl
  · apply List.ext_getElem?
    intro i
    rw [resolveAll_getElem?, resolveAll_getElem?, Option.map_map]
    congr 1
    funext t
    rw [Function.comp_apply, standing, classify_resolveAll, standing]
    cases classify (.onList tokens i) <;> rfl

/-- The first star is a pointer and the second a product, and both stay so. -/
example :
    let tokens := grammar.tokenize "*p * q"
    dialect.resolveAll tokens
        = [.bare .pointer, ⟨.identifier, some "p"⟩, .bare .multiplication, ⟨.identifier, some "q"⟩]
      ∧ dialect.resolveAll tokens ≠ tokens
      ∧ dialect.classifyAll (dialect.resolveAll tokens) = dialect.classifyAll tokens := by
  decide +kernel

end ConceptInventory.CFamily
