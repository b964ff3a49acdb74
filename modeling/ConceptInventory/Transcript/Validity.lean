import ConceptInventory.Transcript
import Mathlib.Data.List.Pairwise
import Mathlib.Order.Basic

/-!
# Valid lines

When a line holds an entry, said of what it reads as: an object whose offset is
a whole number that is not negative, and whose text is a string. Lines that hold
entries in order are a transcript. Other lines break at one that is not blank and
either holds no entry or holds one that lies before the last of those above.
-/
namespace ConceptInventory.Transcript

/-- The line reads as an object with these two fields. -/
def HoldsEntry (line : String) (e : Entry) : Prop :=
  ∃ fields, Json.read line = .ok (.obj fields)
    ∧ Json.fieldOf? fields "t" = some (.int e.offset)
    ∧ (Json.fieldOf? fields "text").bind Json.text? = some e.text

/-- Lines of which each is blank or holds the next of some entries. -/
inductive Holds : List String → List Entry → Prop
  | nil : Holds [] []
  | blank {line : String} {lines : List String} {es : List Entry}
      (hb : isAllBlank line = true) (h : Holds lines es) : Holds (line :: lines) es
  | entry {line : String} {lines : List String} {e : Entry} {es : List Entry}
      (hb : isAllBlank line = false) (he : HoldsEntry line e) (h : Holds lines es) :
      Holds (line :: lines) (e :: es)

theorem ofLine_eq_ok_iff {line : String} {e : Entry} :
    Entry.ofLine line = .ok e ↔ HoldsEntry line e := by
  constructor
  · intro h
    rw [Entry.ofLine] at h
    cases hj : Json.read line with
    | error _ => simp [hj] at h
    | ok j =>
      rw [hj] at h
      cases j with
      | obj fields =>
        simp only [Entry.ofJson] at h
        cases ht : Json.fieldOf? fields "t" with
        | none => simp [ht] at h
        | some t =>
          cases hx : Json.fieldOf? fields "text" with
          | none => simp [ht, hx] at h
          | some x =>
            simp only [ht, hx, Entry.ofFields] at h
            split at h
            · cases hs : x.text? with
              | none => simp [hs] at h
              | some s =>
                rw [hs] at h
                cases h
                exact ⟨fields, hj, ht, by simp [hx, hs]⟩
            · cases h
      | _ => simp [Entry.ofJson] at h
  · rintro ⟨fields, hj, ht, hx⟩
    have ht : Json.fieldOf? fields "t" = some (.int (.ofNat e.offset)) := ht
    obtain ⟨x, hx, hs⟩ := Option.bind_eq_some_iff.1 hx
    simp [Entry.ofLine, hj, Entry.ofJson, ht, hx, hs, Entry.ofFields]

theorem HoldsEntry.unique {line : String} {d e : Entry} (hd : HoldsEntry line d)
    (he : HoldsEntry line e) : d = e :=
  Except.ok.inj ((ofLine_eq_ok_iff.mpr hd).symm.trans (ofLine_eq_ok_iff.mpr he))

/-! ## Reading lines that hold entries -/

theorem entriesFrom_blank {line : String} (hb : isAllBlank line = true) (number bound : Nat)
    (rest : List String) :
    entriesFrom number bound (line :: rest) = entriesFrom (number + 1) bound rest := by
  rw [entriesFrom, if_pos hb]

theorem entriesFrom_entry {line : String} {e : Entry} (hb : isAllBlank line = false)
    (he : HoldsEntry line e) {bound : Nat} (hle : bound ≤ e.offset) (number : Nat)
    (rest : List String) : entriesFrom number bound (line :: rest)
      = (entriesFrom (number + 1) e.offset rest).map (e :: ·) := by
  rw [entriesFrom, if_neg (by simp [hb]), ofLine_eq_ok_iff.mpr he]
  exact if_neg (Nat.not_lt.mpr hle)

/-- What lines hold that are in order comes in front of what the rest gives. -/
theorem entriesFrom_append {above : List String} {es : List Entry} (h : Holds above es)
    {bound : Nat} (hsorted : (bound :: es.map Entry.offset).Pairwise (· ≤ ·)) (number : Nat)
    (rest : List String) : entriesFrom number bound (above ++ rest)
      = (entriesFrom (number + above.length) ((es.map Entry.offset).getLastD bound) rest).map
        (es ++ ·) := by
  induction h generalizing bound number with
  | nil => exact (congrFun Except.map_id _).symm
  | @blank line above es hb _ ih =>
    rw [List.cons_append, entriesFrom_blank hb, ih hsorted, List.length_cons, Nat.add_right_comm,
      Nat.add_assoc]
  | @entry line above e es hb he _ ih =>
    obtain ⟨hle, hsorted⟩ := List.pairwise_cons_cons_iff_of_trans.mp hsorted
    rw [List.cons_append, entriesFrom_entry hb he hle, ih hsorted, List.length_cons,
      Nat.add_right_comm, Nat.add_assoc, List.map_cons, List.getLastD_cons]
    cases entriesFrom (number + (above.length + 1)) _ rest <;> rfl

theorem entriesFrom_of_holds {lines : List String} {es : List Entry} (h : Holds lines es)
    {bound : Nat} (hsorted : (bound :: es.map Entry.offset).Pairwise (· ≤ ·)) (number : Nat) :
    entriesFrom number bound lines = .ok es := by
  have happend := entriesFrom_append h hsorted number []
  rw [List.append_nil] at happend
  rw [happend, entriesFrom, Except.map, List.append_nil]

/-! ## Lines that break -/

/-- Lines that hold entries in order, none of them before the bound, and a line
that does not go on with them. -/
structure BreaksAt (bound : Nat) (above : List String) (line : String) (es : List Entry) :
    Prop where
  held : Holds above es
  inOrder : (bound :: es.map Entry.offset).Pairwise (· ≤ ·)
  notBlank : isAllBlank line = false
  early : ∀ e, HoldsEntry line e → e.offset < (es.map Entry.offset).getLastD bound

theorem BreaksAt.blank {bound : Nat} {above : List String} {line b : String} {es : List Entry}
    (hb : isAllBlank b = true) (h : BreaksAt bound above line es) :
    BreaksAt bound (b :: above) line es :=
  ⟨.blank hb h.held, h.inOrder, h.notBlank, h.early⟩

theorem BreaksAt.entry {bound : Nat} {above : List String} {line l : String} {e : Entry}
    {es : List Entry} (hb : isAllBlank l = false) (he : HoldsEntry l e) (hle : bound ≤ e.offset)
    (h : BreaksAt e.offset above line es) : BreaksAt bound (l :: above) line (e :: es) where
  held := .entry hb he h.held
  inOrder := List.pairwise_cons_cons_iff_of_trans.mpr ⟨hle, h.inOrder⟩
  notBlank := h.notBlank
  early := by
    simp only [List.map_cons, List.getLastD_cons]
    exact h.early

/-- Lines hold entries in order from the bound on, or break at one of them. -/
theorem holds_or_breaks (lines : List String) (bound : Nat) :
    (∃ es, Holds lines es ∧ (bound :: es.map Entry.offset).Pairwise (· ≤ ·))
      ∨ ∃ above line below es, lines = above ++ line :: below ∧ BreaksAt bound above line es := by
  induction lines generalizing bound with
  | nil => exact .inl ⟨[], .nil, List.pairwise_singleton _ _⟩
  | cons l lines ih =>
    cases hb : isAllBlank l with
    | true =>
      rcases ih bound with ⟨es, hes, hsorted⟩ | ⟨above, line, below, es, rfl, h⟩
      · exact .inl ⟨es, .blank hb hes, hsorted⟩
      · exact .inr ⟨l :: above, line, below, es, rfl, h.blank hb⟩
    | false =>
      by_cases hgoes : ∃ e, HoldsEntry l e ∧ bound ≤ e.offset
      · obtain ⟨e, he, hle⟩ := hgoes
        rcases ih e.offset with ⟨es, hes, hsorted⟩ | ⟨above, line, below, es, rfl, h⟩
        · exact .inl ⟨e :: es, .entry hb he hes,
            List.pairwise_cons_cons_iff_of_trans.mpr ⟨hle, hsorted⟩⟩
        · exact .inr ⟨l :: above, line, below, e :: es, rfl, h.entry hb he hle⟩
      · refine .inr ⟨[], l, lines, [], rfl, .nil, List.pairwise_singleton _ _, hb, ?_⟩
        intro e he
        exact Nat.lt_of_not_le fun hle => hgoes ⟨e, he, hle⟩

/-- Lines that break are refused at the break, whatever is below. -/
theorem entriesFrom_breaksAt {bound : Nat} {above : List String} {line : String}
    {es : List Entry} (h : BreaksAt bound above line es) (number : Nat) :
    ∃ err, (∀ below, entriesFrom number bound (above ++ line :: below) = .error err)
      ∧ ((∃ fault, Entry.ofLine line = .error fault
          ∧ err = .badEntry (number + above.length) fault)
        ∨ ∃ e, HoldsEntry line e ∧ err = .disorder (number + above.length) e.offset
          ((es.map Entry.offset).getLastD bound)) := by
  have hstep (below : List String) := entriesFrom_append h.held h.inOrder number (line :: below)
  cases hline : Entry.ofLine line with
  | error fault =>
    refine ⟨_, fun below => ?_, .inl ⟨fault, rfl, rfl⟩⟩
    rw [hstep, entriesFrom, if_neg (by simp [h.notBlank]), hline]
    rfl
  | ok e =>
    have he := ofLine_eq_ok_iff.mp hline
    refine ⟨_, fun below => ?_, .inr ⟨e, he, rfl⟩⟩
    rw [hstep, entriesFrom, if_neg (by simp [h.notBlank]), hline]
    simp only [if_pos (h.early e he)]
    rfl

/-- Lines are read to the end if and only if they hold entries in order. -/
theorem entriesFrom_eq_ok_iff {number bound : Nat} {lines : List String} {es : List Entry} :
    entriesFrom number bound lines = .ok es
      ↔ Holds lines es ∧ (bound :: es.map Entry.offset).Pairwise (· ≤ ·) := by
  constructor
  · intro hok
    rcases holds_or_breaks lines bound with ⟨ds, hds, hsorted⟩ | ⟨above, line, below, ds, rfl, h⟩
    · rw [entriesFrom_of_holds hds hsorted] at hok
      obtain rfl : ds = es := Except.ok.inj hok
      exact ⟨hds, hsorted⟩
    · obtain ⟨err, herr, _⟩ := entriesFrom_breaksAt h number
      rw [herr] at hok
      cases hok
  · rintro ⟨hes, hsorted⟩
    exact entriesFrom_of_holds hes hsorted number

end ConceptInventory.Transcript
