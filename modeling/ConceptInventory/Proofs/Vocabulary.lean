import ConceptInventory.Proofs.DroppedText
import ConceptInventory.Proofs.FragmentOrder
import ConceptInventory.Vocabulary
import Mathlib.Data.List.Perm.Subperm

/-!
# The vocabulary is closed

Whatever is read, only what a language admits is recorded. Scanning leaves a text to
few kinds, and of those only the directive is ever recorded; so what is recorded of
another kind is its name, and the text of a directive is one of those its rule spells
out. As an inventory has each token once, it has no more concepts than there are
literals on the list.
-/
namespace ConceptInventory

variable {κ : Type}

/-! ## Tokens and their rules -/

/-- A token of a text stands for a character no rule matches, or for the match of a rule. -/
theorem Grammar.cases_of_mem_tokenize {g : Grammar κ} {text : String} {t : Token κ}
    (h : t ∈ g.tokenize text) :
    t.kind = g.unrecognized ∨ ∃ r m rest, g.Matches r m rest ∧ r.kind = some t.kind
      ∧ t.text = if r.keepsText then some (String.ofList m) else none := by
  obtain ⟨span, hspan, ht⟩ := List.mem_filterMap.mp h
  rw [tokenOf?] at ht
  cases hr : span.rule with
  | none =>
    rw [hr] at ht
    cases ht
    exact .inl rfl
  | some r =>
    rw [hr] at ht
    obtain ⟨k, hk, rfl⟩ := Option.map_eq_some_iff.mp ht
    obtain ⟨rest, hmatches⟩ := (g.cut_spans text.toList).matches_of_mem hspan hr
    exact .inr ⟨r, span.text, rest, hmatches, hk, rfl⟩

theorem Window.current_mem {tokens : List (Token κ)} {w : Window κ} (hw : w ∈ each tokens)
    {t : Token κ} (h : w.current = some t) : t ∈ tokens := by
  rw [each_eq_map] at hw
  obtain ⟨i, _, rfl⟩ := List.mem_map.mp hw
  rw [onList_current] at h
  exact List.mem_of_getElem? h

/-! ## Paths -/

variable [TokenKind κ]

theorem Classification.leadsTo_file {t : Token κ} {outer : List String}
    (h : ∃ root ∈ Category.roots, outer.head? = some root) :
    (file t outer).path.LeadsTo t.literal := by
  obtain ⟨root, hroot, hhead⟩ := h
  cases outer with
  | nil => cases hhead
  | cons first rest =>
    obtain rfl : first = root := Option.some.inj hhead
    have hnames : (file t (first :: rest)).path.names = first :: rest ++ [t.literal] :=
      CategoryPath.names_build t.literal (first :: rest)
    refine ⟨hroot, ?_, ?_⟩
    · simp only [CategoryPath.innermost, hnames, List.getLast_append_singleton]
    · simp [CategoryPath.length, hnames]

/-- Where all kinds are filed below a root, every classification leads from one. -/
theorem Dialect.FilesUnder.leadsTo {d : Dialect κ} {home : κ → Option (List String)}
    (h : d.FilesUnder home)
    (hroots : ∀ k outer, home k = some outer → ∃ root ∈ Category.roots, outer.head? = some root)
    {w : Window κ} {c : Classification κ} (hc : d.classify w = some c) :
    c.path.LeadsTo c.token.literal := by
  obtain ⟨outer, hhome, hfile⟩ := h w c hc
  rw [congrArg Classification.path hfile]
  exact Classification.leadsTo_file (hroots c.token.kind outer hhome)

/-! ## The C family -/

namespace CFamily

open Pattern

/-- Only the rule for directives leaves a text to a kind that is recorded. -/
theorem eq_directiveRule_or_plain {r : LexRule Kind} (hr : r ∈ grammar.rules) {k : Kind}
    (hk : r.kind = some k) (hrecorded : k ∉ unrecorded) :
    r = directiveRule ∨ (k ≠ .directive ∧ r.keepsText = false) := by
  have hrules : grammar.rules = (fixedRules ++ familyRules) ++ directiveRule
      :: [identifierRule, numberRule, stringRule, .dropped lineComment, .dropped blockComment,
        Grammar.gapRule isGap, lineEndRule] := by simp [rules_eq, frontRules]
  have hothers : ((fixedRules ++ familyRules ++ [identifierRule, numberRule, stringRule,
      .dropped lineComment, .dropped blockComment, Grammar.gapRule isGap, lineEndRule]).all
        fun r => r.kind.all fun k =>
          unrecorded.contains k || (k != .directive && !r.keepsText)) = true := by
    decide +kernel
  have hplain (hr : r ∈ fixedRules ++ familyRules ++ [identifierRule, numberRule, stringRule,
      .dropped lineComment, .dropped blockComment, Grammar.gapRule isGap, lineEndRule]) :
      k ≠ .directive ∧ r.keepsText = false := by
    have hr := List.all_eq_true.mp hothers r hr
    rw [hk] at hr
    simpa [hrecorded] using hr
  rw [hrules, List.mem_append, List.mem_cons] at hr
  rcases hr with hr | rfl | hr
  · exact .inr (hplain (List.mem_append_left _ hr))
  · exact .inl rfl
  · exact .inr (hplain (List.mem_append_right _ hr))

theorem text_of_covers_directive {m : List Char} (h : directive.Covers m) :
    ∃ d ∈ directives, String.ofList m = "#" ++ d := by
  obtain ⟨d, hd, rfl⟩ := exists_of_covers_directive h
  exact ⟨d, hd, by rw [String.ofList_cons, String.ofList_toList]; rfl⟩

/-- A token that is recorded as it stands has no text, or is one of the directives. -/
theorem bare_or_directive {text : String} {t : Token Kind} (h : t ∈ grammar.tokenize text)
    (hrecorded : t.kind ∉ unrecorded) :
    (t.kind ≠ .directive ∧ t = .bare t.kind)
      ∨ ∃ d ∈ directives, t = ⟨.directive, some ("#" ++ d)⟩ := by
  obtain ⟨k, text⟩ := t
  rcases Grammar.cases_of_mem_tokenize h with hk | ⟨r, m, rest, hmatches, hk, htext⟩
  · exact absurd (hk ▸ by decide) hrecorded
  · rcases eq_directiveRule_or_plain hmatches.mem hk hrecorded with rfl | ⟨hne, hkeeps⟩
    · obtain rfl : Kind.directive = k := Option.some.inj hk
      obtain ⟨d, hd, hm⟩ := text_of_covers_directive hmatches.covers
      obtain rfl : text = some (String.ofList m) := htext
      exact .inr ⟨d, hd, by rw [hm]⟩
    · rw [hkeeps] at htext
      obtain rfl : text = none := htext
      exact .inl ⟨hne, rfl⟩

theorem not_mem_unrecorded {k : Kind} {outer : List String} (h : home k = some outer) :
    k ∉ unrecorded := by
  have hall : ∀ k ∈ unrecorded, home k = none := by decide +kernel
  intro hk
  rw [hall k hk] at h
  cases h

theorem eq_of_angle {k : Kind} (h : treatment k = .byContext .angle) :
    k = .greater ∨ k = .less := by
  cases k <;> first | exact .inl rfl | exact .inr rfl | cases h

theorem literal_directive {d : String} (h : d ∈ directives) :
    Token.literal (⟨.directive, some ("#" ++ d)⟩ : Token Kind) = directiveLiteral d := by
  have hall : ∀ d ∈ directives, Token.literal (⟨.directive, some ("#" ++ d)⟩ : Token Kind)
      = directiveLiteral d := by decide +kernel
  exact hall d h

/-- The scanned token or what it is resolved to is recorded. -/
theorem records_of_classify {text : String} {w : Window Kind}
    (hw : w ∈ Window.each (grammar.tokenize text)) {c : Classification Kind}
    (hc : classify w = some c) : Records c.token.literal c.token.display := by
  obtain ⟨t, ht, hcases⟩ := classify_eq_some hc
  have hmem := Window.current_mem hw ht
  rcases hcases with ⟨outer, hfiled, rfl⟩ | ⟨hangle, rfl⟩ | ⟨k, outer, hfiled, hne, rfl⟩
  · rw [Classification.file]
    rcases bare_or_directive hmem (not_mem_unrecorded (home_of_filed hfiled))
      with ⟨hne, hbare⟩ | ⟨d, hd, rfl⟩
    · rw [hbare]
      exact .filed hne hfiled
    · rw [literal_directive hd]
      exact .directive hd
  · rw [Classification.file]
    rcases bare_or_directive hmem (not_mem_unrecorded (home_of_angle hangle))
      with ⟨_, hbare⟩ | ⟨d, _, rfl⟩
    · rw [hbare]
      exact .angle (eq_of_angle hangle)
    · cases hangle
  · exact .filed hne hfiled

theorem Records.listed {token value : String} (h : Records token value) :
    token ∈ vocabulary := by
  cases h with
  | @filed k outer hk h =>
    have hnamed : isNamed k = true := by
      rw [isNamed, h]
      exact bne_iff_ne.mpr hk
    exact List.mem_append_left _
      (List.mem_map_of_mem (List.mem_filter.mpr ⟨Kind.mem_all k, hnamed⟩))
  | angle h => rcases h with rfl | rfl <;> decide +kernel
  | directive h => exact List.mem_append_right _ (List.mem_map_of_mem h)

/-- What is recorded is the literal of a token that is not passed over. -/
theorem Records.exists_token {token value : String} (h : Records token value) :
    ∃ t : Token Kind, t.kind ∉ unrecorded ∧ t.literal = token := by
  cases h with
  | @filed k _ _ h => exact ⟨.bare k, not_mem_unrecorded (home_of_filed h), rfl⟩
  | @angle k h => exact ⟨.bare k, by rcases h with rfl | rfl <;> decide, rfl⟩
  | directive h =>
    have hdirective : Kind.directive ∉ unrecorded := by decide
    exact ⟨⟨.directive, _⟩, hdirective, literal_directive h⟩

theorem home_below_root (k : Kind) (outer : List String) (h : home k = some outer) :
    ∃ root ∈ Category.roots, outer.head? = some root := by
  have hall : ∀ k ∈ Kind.all, ∀ outer ∈ home k, ∃ root ∈ Category.roots,
      outer.head? = some root := by decide +kernel
  exact hall k (Kind.mem_all k) outer h

end CFamily

/-! ## Python -/

namespace Python

theorem home_of_carriesText {k : Kind} (h : grammar.CarriesText k) : home k = none := by
  have hkept : (grammar.rules.all fun r => !r.keepsText || r.kind == some .identifier) = true := by
    decide +kernel
  rcases h with rfl | ⟨r, hr, hk, hkeeps⟩
  · rfl
  · have hr := List.all_eq_true.mp hkept r hr
    rw [hkeeps, hk] at hr
    obtain rfl : k = .identifier := by simpa using hr
    rfl

theorem bare_of_mem_tokenize {text : String} {t : Token Kind} (h : t ∈ grammar.tokenize text)
    (hcarries : ¬grammar.CarriesText t.kind) : t = .bare t.kind := by
  obtain ⟨k, text⟩ := t
  rcases Grammar.cases_of_mem_tokenize h with hk | ⟨r, m, rest, hmatches, hk, htext⟩
  · exact absurd (.inl hk) hcarries
  · have hkeeps : r.keepsText = false := by
      rw [Bool.eq_false_iff]
      intro hkeeps
      exact hcarries (.inr ⟨r, hmatches.mem, hk, hkeeps⟩)
    rw [hkeeps] at htext
    obtain rfl : text = none := htext
    rfl

theorem not_carriesText {k : Kind} {outer : List String} (h : treatment k = .filed outer) :
    ¬grammar.CarriesText k := by
  intro hcarries
  have hhome := home_of_carriesText hcarries
  rw [home, h] at hhome
  cases hhome

theorem records_of_classify {text : String} {w : Window Kind}
    (hw : w ∈ Window.each (grammar.tokenize text)) {c : Classification Kind}
    (hc : classify w = some c) : Records c.token.literal c.token.display := by
  obtain ⟨t, outer, ht, hfiled, rfl⟩ := classify_eq_some hc
  have hbare := bare_of_mem_tokenize (Window.current_mem hw ht) (not_carriesText hfiled)
  rw [Classification.file, hbare]
  exact .filed hfiled

theorem Records.listed {token value : String} (h : Records token value) :
    token ∈ vocabulary := by
  cases h with
  | @filed k outer h =>
    have hnamed : isNamed k = true := by rw [isNamed, h]
    exact List.mem_map_of_mem (List.mem_filter.mpr ⟨Kind.mem_all k, hnamed⟩)

/-- What is recorded is the literal of a token that is not passed over. -/
theorem Records.exists_token {token value : String} (h : Records token value) :
    ∃ t : Token Kind, ¬grammar.CarriesText t.kind ∧ t.literal = token := by
  cases h with
  | @filed k _ h => exact ⟨.bare k, not_carriesText h, rfl⟩

theorem home_below_root (k : Kind) (outer : List String) (h : home k = some outer) :
    ∃ root ∈ Category.roots, outer.head? = some root := by
  have hall : ∀ k ∈ Kind.all, ∀ outer ∈ home k, ∃ root ∈ Category.roots,
      outer.head? = some root := by decide +kernel
  exact hall k (Kind.mem_all k) outer h

end Python

/-! ## Languages -/

namespace Language

variable {l : Language}

theorem Records.listed {token value : String} (h : l.Records token value) :
    token ∈ l.vocabulary := by
  unfold Language.Records at h
  unfold vocabulary
  cases hfamily : l.family with
  | cFamily =>
    rw [hfamily] at h
    exact CFamily.Records.listed h
  | python =>
    rw [hfamily] at h
    exact Python.Records.listed h

/-- A literal tells its token, so what is recorded is none of what is passed over. -/
theorem Records.not_passesOver {token value : String} (h : l.Records token value) :
    ¬l.PassesOver token := by
  unfold Language.Records at h
  unfold PassesOver
  cases hfamily : l.family with
  | cFamily =>
    rw [hfamily] at h
    obtain ⟨t, ht, hliteral⟩ := CFamily.Records.exists_token h
    rintro ⟨t', ht', rfl⟩
    exact ht (Token.literal_injective CFamily.namesDistinct hliteral ▸ ht')
  | python =>
    rw [hfamily] at h
    obtain ⟨t, ht, hliteral⟩ := Python.Records.exists_token h
    rintro ⟨t', ht', rfl⟩
    exact ht (Token.literal_injective Python.namesDistinct hliteral ▸ ht')

theorem records_of_mem_sightings {text : String} {s : Sighting} (h : s ∈ l.sightings text) :
    l.Records s.token s.value ∧ s.path.LeadsTo s.token := by
  unfold sightings at h
  unfold Language.Records
  cases hfamily : l.family with
  | cFamily =>
    rw [hfamily] at h
    obtain ⟨w, hw, c, hc, rfl⟩ := Dialect.exists_window_of_mem_sightings h
    exact ⟨CFamily.records_of_classify hw hc,
      CFamily.filesUnder_home.leadsTo CFamily.home_below_root hc⟩
  | python =>
    rw [hfamily] at h
    obtain ⟨w, hw, c, hc, rfl⟩ := Dialect.exists_window_of_mem_sightings h
    exact ⟨Python.records_of_classify hw hc,
      Python.filesUnder_home.leadsTo Python.home_below_root hc⟩

theorem admits_of_mem_sightings {text : String} {s : Sighting} (h : s ∈ l.sightings text) :
    l.Admits s := by
  obtain ⟨hrecords, hpath⟩ := records_of_mem_sightings h
  exact ⟨hrecords, hrecords.listed, hrecords.not_passesOver, hpath⟩

end Language

/-! ## Runs -/

namespace Extractor

/-- Whatever fragments are read, all that is recorded is admitted by the language, and
there is no more of it than literals on the list. -/
theorem readAll_admitted (source : String) (l : Language) (fs : List (String × Int)) :
    let i := ((start source l).readAll fs).inventory
    (∀ c ∈ i.concepts, l.Admits c.sighting) ∧ i.size ≤ l.vocabulary.length := by
  intro i
  have hi : i.concepts = firstOccurrences (shownAll source l fs) :=
    readAll_start_concepts source l fs
  have hadmits : ∀ c ∈ i.concepts, l.Admits c.sighting := by
    intro c hc
    rw [hi] at hc
    obtain ⟨f, _, hf⟩ :=
      (mem_recorded_iff source l fs c.sighting).mp (List.mem_map_of_mem hc)
    exact Language.admits_of_mem_sightings hf
  refine ⟨hadmits, ?_⟩
  have hlisted : i.tokens ⊆ l.vocabulary := by
    intro token htoken
    obtain ⟨c, hc, rfl⟩ := List.mem_map.mp htoken
    exact (hadmits c hc).listed
  have hsize := (List.subperm_of_subset i.distinct hlisted).length_le
  rwa [List.length_map] at hsize

/-- A directive is recorded with its text. -/
theorem readAll_admitted_of_directive :
    let i := ((start "u" .c).readAll [("#if (x)\nint *y;", 4)]).inventory
    let s : Sighting :=
      ⟨"Preprocessor(\"#if\")", "#if", ⟨"Preprocessor", ["Preprocessor(\"#if\")"]⟩⟩
    s ∈ i.concepts.map Concept.sighting ∧ Language.Admits .c s ∧ i.size ≤ 135 := by
  intro i s
  obtain ⟨hadmits, hsize⟩ := readAll_admitted "u" .c [("#if (x)\nint *y;", 4)]
  have hsighting : s ∈ Language.sightings .c "#if (x)\nint *y;" := by decide +kernel
  have hs : s ∈ i.concepts.map Concept.sighting := by
    change s ∈ ((start "u" .c).readAll [("#if (x)\nint *y;", 4)]).inventory.concepts.map _
    rw [readAll_start_concepts]
    exact (mem_recorded_iff "u" .c _ s).mpr ⟨_, List.mem_singleton_self _, hsighting⟩
  have hlength : (Language.vocabulary .c).length = 135 := by decide +kernel
  obtain ⟨c, hc, hcs⟩ := List.mem_map.mp hs
  exact ⟨hs, hcs ▸ hadmits c hc, hlength ▸ hsize⟩

-- C, C++ and Java share one list.
example : Language.all.map (fun l => l.vocabulary.length) = [135, 135, 135, 82] := by
  decide +kernel

end Extractor

end ConceptInventory
