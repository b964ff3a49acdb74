import ConceptInventory.Transcript.Refusal
import ConceptInventory.Transcript.Validity
import Mathlib.Data.List.TakeWhile

/-!
# The first line at fault

A list of lines is read as the entries it is a transcript of. If it is none, it
is refused at the first line at fault, with the message of that fault, and what
stands below has no part in that.
-/
namespace ConceptInventory.Transcript

/-! ## Lines as trimmed, fields as written -/

theorem isAllBlank_iff {line : String} : isAllBlank line = true ↔ IsBlankLine line := by
  have hblank : isAllBlank line = true ↔ ∀ c ∈ line.toList, isBlank c := List.all_eq_true
  rw [hblank, IsBlankLine, trimBlanks, trim, String.ofList_eq_empty_iff, List.reverse_eq_nil_iff,
    List.dropWhile_eq_nil_iff]
  simp only [List.mem_reverse]
  constructor
  · intro hall c hc
    exact hall c ((List.dropWhile_sublist isBlank).mem hc)
  · -- what is dropped in front is blank by itself
    intro hrest c hc
    rw [← List.takeWhile_append_dropWhile (p := isBlank) (l := line.toList)] at hc
    rcases List.mem_append.mp hc with hc | hc
    · exact List.all_eq_true.mp List.all_takeWhile c hc
    · exact hrest c hc

theorem isAllBlank_eq_false_iff {line : String} :
    isAllBlank line = false ↔ ¬IsBlankLine line := by
  rw [← isAllBlank_iff, Bool.not_eq_true]

theorem isEntry_iff {line : String} {e : Entry} : IsEntry line e ↔ HoldsEntry line e := by
  constructor
  · rintro ⟨written, ⟨hread, _⟩, ht, hx⟩
    have hfield := Json.fieldOf?_ofFields (rfl : Json.ofFields written = _)
    exact ⟨_, hread, (hfield "t").trans ht, by rw [hfield]; exact hx⟩
  · rintro ⟨fields, hread, ht, hx⟩
    obtain ⟨written, hobject, hfields⟩ := Json.exists_written hread
    have hfield := Json.fieldOf?_ofFields hfields
    exact ⟨written, hobject, (hfield "t").symm.trans ht, by rw [← hfield]; exact hx⟩

theorem holds_iff {lines : List String} {es : List Entry} :
    Holds lines es ↔ List.Forall₂ IsEntry (lines.filter fun line => ¬IsBlankLine line) es := by
  constructor
  · intro h
    induction h with
    | nil => exact .nil
    | blank hb _ ih =>
      rw [List.filter_cons_of_neg (by simpa using isAllBlank_iff.mp hb)]
      exact ih
    | entry hb he _ ih =>
      rw [List.filter_cons_of_pos (by simpa using isAllBlank_eq_false_iff.mp hb)]
      exact .cons (isEntry_iff.mpr he) ih
  · intro h
    induction lines generalizing es with
    | nil =>
      cases h
      exact .nil
    | cons line lines ih =>
      by_cases hb : IsBlankLine line
      · rw [List.filter_cons_of_neg (by simpa using hb)] at h
        exact .blank (isAllBlank_iff.mpr hb) (ih h)
      · rw [List.filter_cons_of_pos (by simpa using hb)] at h
        cases h with
        | cons he hes =>
          exact .entry (isAllBlank_eq_false_iff.mpr hb) (isEntry_iff.mp he) (ih hes)

theorem entries_eq_ok_iff {lines : List String} {es : List Entry} :
    entries lines = .ok es ↔ IsTranscript lines es := by
  have hsorted : (0 :: es.map Entry.offset).Pairwise (· ≤ ·)
      ↔ (es.map Entry.offset).Pairwise (· ≤ ·) := by simp
  rw [entries, entriesFrom_eq_ok_iff, holds_iff, hsorted]
  exact ⟨fun h => ⟨h.1, h.2⟩, fun h => ⟨h.1, h.2⟩⟩

/-! ## The last entry above -/

theorem Holds.of_append {above below : List String} {es : List Entry}
    (h : Holds (above ++ below) es) :
    ∃ es₁ es₂, es = es₁ ++ es₂ ∧ Holds above es₁ ∧ Holds below es₂ := by
  induction above generalizing es with
  | nil => exact ⟨[], es, rfl, .nil, h⟩
  | cons line above ih =>
    cases h with
    | blank hb h =>
      obtain ⟨es₁, es₂, rfl, h₁, h₂⟩ := ih h
      exact ⟨es₁, es₂, rfl, .blank hb h₁, h₂⟩
    | @entry _ _ e _ hb he h =>
      obtain ⟨es₁, es₂, rfl, h₁, h₂⟩ := ih h
      exact ⟨e :: es₁, es₂, rfl, .entry hb he h₁, h₂⟩

theorem Holds.of_entry {line : String} {below : List String} {e : Entry} {es : List Entry}
    (hb : ¬IsBlankLine line) (he : IsEntry line e) (h : Holds (line :: below) es) :
    ∃ rest, es = e :: rest ∧ Holds below rest := by
  cases h with
  | blank hblank _ => exact absurd (isAllBlank_iff.mp hblank) hb
  | entry _ hd h => exact ⟨_, by rw [(isEntry_iff.mp he).unique hd], h⟩

/-- Lines hold nothing if and only if they are blank. -/
theorem Holds.eq_nil_iff {lines : List String} {es : List Entry} (h : Holds lines es) :
    es = [] ↔ ∀ b ∈ lines, IsBlankLine b := by
  induction h with
  | nil => simp
  | blank hb _ ih => simp [ih, isAllBlank_iff.mp hb]
  | entry hb _ _ _ => simp [isAllBlank_eq_false_iff.mp hb]

theorem IsLastEntry.cons {above : List String} {e : Entry} (line : String)
    (h : IsLastEntry above e) : IsLastEntry (line :: above) e := by
  obtain ⟨front, last, between, rfl, hlast⟩ := h
  exact ⟨line :: front, last, between, rfl, hlast⟩

theorem isLastEntry_iff {above : List String} {es : List Entry} (h : Holds above es)
    {e : Entry} : IsLastEntry above e ↔ es.getLast? = some e := by
  constructor
  · rintro ⟨front, line, between, rfl, hb, he, hbetween⟩
    obtain ⟨es₁, es₂, rfl, _, h₂⟩ := h.of_append
    obtain ⟨rest, rfl, hrest⟩ := h₂.of_entry hb he
    obtain rfl : rest = [] := hrest.eq_nil_iff.mpr hbetween
    exact List.getLast?_concat
  · intro hlast
    induction h with
    | nil => cases hlast
    | blank _ _ ih => exact (ih hlast).cons _
    | @entry line lines d es hb hd h ih =>
      cases es with
      | nil =>
        obtain rfl : d = e := Option.some.inj hlast
        exact ⟨[], line, lines, rfl, isAllBlank_eq_false_iff.mp hb, isEntry_iff.mpr hd,
          h.eq_nil_iff.mp rfl⟩
      | cons d' es => exact (ih (by simpa using hlast)).cons _

/-! ## Faults -/

/-- A line that goes on with those above is not at fault. -/
theorem not_atFault {above below : List String} {line : String} {es : List Entry}
    (h : Holds (above ++ line :: below) es)
    (hsorted : (es.map Entry.offset).Pairwise (· ≤ ·)) (message : String) :
    ¬AtFault above line message := by
  obtain ⟨es₁, es₂, rfl, h₁, h₂⟩ := h.of_append
  intro hfault
  cases hfault with
  | noEntry hb hno _ =>
    cases h₂ with
    | blank hblank _ => exact hb (isAllBlank_iff.mp hblank)
    | entry _ he _ => exact hno _ (isEntry_iff.mpr he)
  | @disorder e before hb he hbefore hlt =>
    obtain ⟨rest, rfl, _⟩ := h₂.of_entry hb he
    have hmem : before ∈ es₁ := List.mem_of_getLast? ((isLastEntry_iff h₁).mp hbefore)
    rw [List.map_append, List.pairwise_append] at hsorted
    have hle := hsorted.2.2 before.offset (List.mem_map_of_mem hmem) e.offset (by simp)
    exact Nat.not_lt.mpr hle hlt

/-- The line where lines break is at fault, and is what they are refused for. -/
theorem exists_atFault {above : List String} {line : String} {es : List Entry}
    (h : BreaksAt 0 above line es) :
    ∃ err, (∀ below, entries (above ++ line :: below) = .error err)
      ∧ AtFault above line err.message := by
  have hb := isAllBlank_eq_false_iff.mp h.notBlank
  obtain ⟨err, hrefused, ⟨fault, hfault, rfl⟩ | ⟨e, he, rfl⟩⟩ := entriesFrom_breaksAt h 1
  · refine ⟨_, hrefused, ?_⟩
    have hno (e : Entry) (he : IsEntry line e) : False := by
      rw [ofLine_eq_ok_iff.mpr (isEntry_iff.mp he)] at hfault
      cases hfault
    rw [Nat.add_comm]
    exact .noEntry hb hno hfault
  · refine ⟨_, hrefused, ?_⟩
    have hlt := h.early e he
    rw [List.getLastD_eq_getLast?, List.getLast?_map] at hlt ⊢
    cases hlast : es.getLast? with
    | none =>
      rw [hlast] at hlt
      exact absurd hlt (Nat.not_lt_zero _)
    | some before =>
      rw [hlast] at hlt
      rw [Nat.add_comm]
      exact .disorder hb (isEntry_iff.mpr he) ((isLastEntry_iff h.held).mpr hlast) hlt

/-- Lines are accepted if and only if they are a transcript, as its entries. All
others are refused for the first line at fault, whatever is below that line. -/
theorem entries_judged (lines : List String) :
    (∀ es, entries lines = .ok es ↔ IsTranscript lines es) ∧
    ((∀ es, ¬IsTranscript lines es) → ∃ above line below err,
      lines = above ++ line :: below ∧
      entries lines = .error err ∧
      AtFault above line err.message ∧
      (∀ above' line' below', lines = above' ++ line' :: below' →
        above'.length < above.length → ∀ message, ¬AtFault above' line' message) ∧
      ∀ below', entries (above ++ line :: below') = .error err) := by
  refine ⟨fun es => entries_eq_ok_iff, fun hnone => ?_⟩
  rcases holds_or_breaks lines 0 with ⟨es, hes⟩ | ⟨above, line, below, es, rfl, h⟩
  · exact absurd (entries_eq_ok_iff.mp (entriesFrom_eq_ok_iff.mpr hes)) (hnone es)
  obtain ⟨err, hrefused, hfault⟩ := exists_atFault h
  refine ⟨above, line, below, err, rfl, hrefused below, hfault, ?_, hrefused⟩
  intro above' line' below' hlines hlt
  -- a line further up is one of those that hold entries in order
  obtain ⟨more, hmore⟩ : ∃ more, above = above' ++ line' :: more := by
    rcases List.append_eq_append_iff.mp hlines with ⟨xs, rfl, _⟩ | ⟨xs, rfl, hxs⟩
    · rw [List.length_append] at hlt
      omega
    · cases xs with
      | nil =>
        rw [List.append_nil] at hlt
        omega
      | cons x xs =>
        obtain ⟨rfl, _⟩ := List.cons.inj hxs
        exact ⟨xs, rfl⟩
  have hheld := h.held
  rw [hmore] at hheld
  exact not_atFault hheld h.inOrder.of_cons

/-- Of two offsets on one line the last counts; the line behind a blank one is to blame,
not the last one, which is no entry. -/
example : (match entries ["\x7b\"t\": 9, \"text\": \"a\", \"t\": 5\x7d", "\u2003",
      "\x7b\"t\": 2, \"text\": \"\"\x7d", "["] with
    | .ok _ => ""
    | .error e => e.message) = "line 3: offset 2 is before 5" := by decide +kernel

end ConceptInventory.Transcript
