import ConceptInventory.Analysis
import ConceptInventory.Proofs.SessionOutcome
import ConceptInventory.Transcript.Validity

/-!
# Earliest stamps of a replayed transcript

The entries of a transcript never go back in time, and nothing between the
transcript and the inventory changes their order. So the first concept with a
token, which is the one that is kept, was shown at the smallest offset of all
entries that show the token. The induction is on the entries that are read: the
first of them is the earliest for all it shows, and behind it the tokens it
shows are left out.
-/
namespace ConceptInventory

/-- An entry as a session hears it. -/
def Entry.fragment (e : Entry) : String × Int := (e.text, (e.offset : Int))

/-- Classifying the text of the entry yields the token. -/
def Entry.shows (l : Language) (token : String) (e : Entry) : Bool :=
  ((l.sightings e.text).map Sighting.token).contains token

namespace Transcript

/-- Entries in an order that does not go back. -/
def InOrder (es : List Entry) : Prop := (es.map Entry.offset).Pairwise (· ≤ ·)

/-- The smallest offset of the entries that show a token, 0 if none does. -/
def earliest (l : Language) (es : List Entry) (token : String) : Nat :=
  (((es.filter (Entry.shows l token)).map Entry.offset).min?).getD 0

/-- The entries a session reads: all of them where the hint names a language,
else those from the one that reaches the threshold on. -/
def entriesRead (video : Video) (threshold : Int) (es : List Entry) : List Entry :=
  match languageOfHint video.hint with
  | some _ => es
  | none => ((crossing? threshold (es.map Entry.fragment)).map es.drop).getD []

/-! ## Order -/

theorem entries_inOrder {lines : List String} {es : List Entry} (h : entries lines = .ok es) :
    InOrder es := (entriesFrom_eq_ok_iff.mp h).2.of_cons

theorem entriesRead_inOrder {es : List Entry} (h : InOrder es) (video : Video)
    (threshold : Int) : InOrder (entriesRead video threshold es) := by
  unfold entriesRead
  split
  · exact h
  · cases crossing? threshold (es.map Entry.fragment) with
    | none => exact .nil
    | some k => exact h.sublist ((List.drop_sublist k es).map Entry.offset)

theorem earliest_eq_head {es : List Entry} (h : InOrder es) (l : Language) (token : String) :
    earliest l es token = (((es.filter (Entry.shows l token)).map Entry.offset).head?).getD 0 := by
  have hsub : ((es.filter (Entry.shows l token)).map Entry.offset).Pairwise (· ≤ ·) :=
    h.sublist ((List.filter_sublist (l := es)).map Entry.offset)
  rw [earliest, List.min?_eq_head? (hsub.imp fun hab => Nat.min_eq_left hab)]

theorem earliest_of_shows {e : Entry} {es : List Entry} (h : InOrder (e :: es)) {l : Language}
    {token : String} (hs : e.shows l token = true) : earliest l (e :: es) token = e.offset := by
  rw [earliest_eq_head h, List.filter_cons_of_pos hs]
  rfl

theorem earliest_of_not_shows (es : List Entry) {e : Entry} {l : Language} {token : String}
    (hs : e.shows l token = false) : earliest l (e :: es) token = earliest l es token := by
  rw [earliest, List.filter_cons_of_neg (by simp [hs]), earliest]

/-- No entry that shows the token lies before its earliest offset. -/
theorem le_earliest {bound : Nat} {l : Language} {es : List Entry} {token : String}
    (hbound : ∀ e ∈ es, bound ≤ e.offset) (hs : ∃ e ∈ es, e.shows l token = true) :
    bound ≤ earliest l es token := by
  obtain ⟨e, he, hshows⟩ := hs
  cases hmin : ((es.filter (Entry.shows l token)).map Entry.offset).min? with
  | none =>
    have hnil : es.filter (Entry.shows l token) = [] := by simpa using hmin
    have hmem : e ∈ es.filter (Entry.shows l token) := List.mem_filter.mpr ⟨he, hshows⟩
    simp [hnil] at hmem
  | some m =>
    obtain ⟨d, hd, rfl⟩ := List.mem_map.mp (List.min?_mem hmin)
    rw [earliest, hmin]
    exact hbound d (List.mem_filter.mp hd).1

/-! ## What is kept -/

section
variable (source : String) (l : Language)

/-- All that entries show, in order, with its stamps. -/
def history (es : List Entry) : List Concept :=
  (es.map Entry.fragment).flatMap fun f => (Extractor.start source l).shown f.1 f.2

theorem tokens_shown (e : Entry) :
    ((Extractor.start source l).shown e.text e.offset).map Concept.token
      = (l.sightings e.text).map Sighting.token := by
  rw [Extractor.shown, List.map_map]
  rfl

theorem mem_tokens_history (es : List Entry) (token : String) :
    token ∈ (history source l es).map Concept.token ↔ ∃ e ∈ es, e.shows l token = true := by
  induction es with
  | nil => simp [history]
  | cons e es ih =>
    have hcons : history source l (e :: es)
        = (Extractor.start source l).shown e.text e.offset ++ history source l es := rfl
    rw [hcons, List.map_append, List.mem_append, tokens_shown, ih]
    simp [Entry.shows]

/-- Of a history, the first entry keeps all it shows and the rest keeps what is new. -/
theorem firstOccurrences_history_cons (e : Entry) (es : List Entry) :
    firstOccurrences (history source l (e :: es))
      = firstOccurrences ((Extractor.start source l).shown e.text e.offset)
        ++ (firstOccurrences (history source l es)).filter fun c => !e.shows l c.token := by
  have hcons : history source l (e :: es)
      = (Extractor.start source l).shown e.text e.offset ++ history source l es := rfl
  rw [hcons, firstOccurrences_append, tokens_shown]
  rfl

/-- What one entry keeps is shown by it and bears its offset. -/
theorem shows_of_mem_shown {e : Entry} {c : Concept}
    (h : c ∈ firstOccurrences ((Extractor.start source l).shown e.text e.offset)) :
    e.shows l c.token = true ∧ c.stamp = stampAt source e.offset := by
  obtain ⟨sighting, hs, rfl⟩ := List.mem_map.mp (mem_of_mem_firstOccurrences h)
  have hmem : sighting.token ∈ (l.sightings e.text).map Sighting.token := List.mem_map_of_mem hs
  exact ⟨List.contains_iff_mem.mpr hmem, rfl⟩

theorem stamp_eq_earliest {es : List Entry} (h : InOrder es) :
    ∀ c ∈ firstOccurrences (history source l es),
      c.stamp = stampAt source (earliest l es c.token) := by
  induction es with
  | nil => simp [history, firstOccurrences]
  | cons e es ih =>
    intro c hc
    rw [firstOccurrences_history_cons] at hc
    rcases List.mem_append.mp hc with hc | hc
    · obtain ⟨hs, hstamp⟩ := shows_of_mem_shown source l hc
      rw [earliest_of_shows h hs, hstamp]
    · obtain ⟨hc, hnew⟩ := List.mem_filter.mp hc
      have hs : e.shows l c.token = false := by simpa using hnew
      rw [earliest_of_not_shows es hs]
      exact ih h.of_cons c hc

/-- What is kept stands in the order of the earliest offsets. -/
theorem pairwise_earliest {es : List Entry} (h : InOrder es) :
    (firstOccurrences (history source l es)).Pairwise fun c d =>
      earliest l es c.token ≤ earliest l es d.token := by
  induction es with
  | nil => exact .nil
  | cons e es ih =>
    have hlater : ∀ d ∈ es, e.offset ≤ d.offset := by
      intro d hd
      exact (List.pairwise_cons.mp h).1 d.offset (List.mem_map_of_mem hd)
    rw [firstOccurrences_history_cons, List.pairwise_append]
    refine ⟨?_, ?_, ?_⟩
    · -- all that one entry keeps has its offset
      refine List.Pairwise.imp_of_mem ?_ (List.pairwise_of_forall fun _ _ => trivial)
      intro c d hc hd _
      have hsame : earliest l (e :: es) c.token = earliest l (e :: es) d.token := by
        rw [earliest_of_shows h (shows_of_mem_shown source l hc).1,
          earliest_of_shows h (shows_of_mem_shown source l hd).1]
      exact Nat.le_of_eq hsame
    · have hrest := (ih h.of_cons).sublist
        (List.filter_sublist (p := fun c : Concept => !e.shows l c.token))
      refine List.Pairwise.imp_of_mem ?_ hrest
      intro c d hc hd hle
      have hsc : e.shows l c.token = false := by simpa using (List.mem_filter.mp hc).2
      have hsd : e.shows l d.token = false := by simpa using (List.mem_filter.mp hd).2
      rw [earliest_of_not_shows es hsc, earliest_of_not_shows es hsd]
      exact hle
    · intro c hc d hd
      obtain ⟨hd, hnew⟩ := List.mem_filter.mp hd
      have hsd : e.shows l d.token = false := by simpa using hnew
      rw [earliest_of_shows h (shows_of_mem_shown source l hc).1, earliest_of_not_shows es hsd]
      have hshown := (mem_tokens_history source l es d.token).mp
        (mem_tokens_firstOccurrences.mp (List.mem_map_of_mem hd))
      exact le_earliest hlater hshown

end

/-! ## The analysis of a replay -/

theorem queue_ofTranscript (es : List Entry) :
    (Script.ofTranscript es).queue
      = (es.map Entry.fragment).map Item.ofFragment ++ .finish (lastOffset es) :: [] := by
  have hsent : (Script.ofTranscript es).sent
      = (es.map Entry.fragment).map Item.ofFragment ++ [.finish (lastOffset es)] := by
    simp [Script.ofTranscript, replay, Function.comp_def, Item.ofFragment, Entry.fragment]
  have hclosing : (Script.ofTranscript es).closing = [] := by
    simp [Script.closing, Script.ofTranscript, replay, Item.isFinish]
  rw [Script.queue, hsent, hclosing, List.append_nil]

/-- A session over entries reads, in some language or none, those that count as read. -/
theorem closed_eq_outcomeOf (video : Video) (model : Model) (threshold : Int) (es : List Entry) :
    ∃ language, (Session.closed video model threshold (es.map Entry.fragment)).1
      = Session.outcomeOf video.url language
        ((entriesRead video threshold es).map Entry.fragment) := by
  unfold Session.closed entriesRead
  cases languageOfHint video.hint with
  | some l => exact ⟨some l, rfl⟩
  | none =>
    cases crossing? threshold (es.map Entry.fragment) with
    | none => exact ⟨none, rfl⟩
    | some k =>
      simp only [Option.map_some, Option.getD_some, ← List.map_drop]
      cases es.drop k with
      | nil => exact ⟨none, rfl⟩
      | cons e rest => exact ⟨(model e.text).language, rfl⟩

/-- A replay is analysed to the end. -/
theorem analyze_replay (video : Video) (model : Model) (settings : Settings) (es : List Entry) :
    ∃ language, (analyze video model settings (Script.ofTranscript es)).result = .ok ⟨video,
      (Session.outcomeOf video.url language
        ((entriesRead video settings.threshold es).map Entry.fragment)).language,
      (Session.outcomeOf video.url language
        ((entriesRead video settings.threshold es).map Entry.fragment)).inventory⟩ := by
  have hfound := Session.hearAll_start video model settings.threshold (es.map Entry.fragment)
  obtain ⟨language, hclosed⟩ := closed_eq_outcomeOf video model settings.threshold es
  have houtcome : ((Session.start video model settings.threshold).hearAll
      (es.map Entry.fragment)).outcome = _ := (congrArg Prod.fst hfound).trans hclosed
  refine ⟨language, ?_⟩
  rw [analyze_split video model settings (queue_ofTranscript es) rfl, ← houtcome]
  rfl

/-- The analysis of a transcript that was accepted returns. Where a language is
found, the inventory has the tokens that the entries read show, each once, with
the smallest offset that shows it in its stamp, and in the order of these. -/
theorem analyze_replay_earliest {lines : List String} {es : List Entry}
    (h : entries lines = .ok es) (video : Video) (model : Model) (settings : Settings) :
    ∃ found : Findings,
      (analyze video model settings (Script.ofTranscript es)).result = .ok found ∧
      found.video = video ∧
      (found.language = none → found.inventory.concepts = []) ∧
      ∀ l, found.language = some l →
        (∀ token, token ∈ found.inventory.tokens ↔
          ∃ e ∈ entriesRead video settings.threshold es, e.shows l token = true) ∧
        (∀ token ∈ found.inventory.tokens, found.inventory.tokens.count token = 1) ∧
        (∀ c ∈ found.inventory.concepts, c.stamp = stampAt video.url
          (earliest l (entriesRead video settings.threshold es) c.token)) ∧
        found.inventory.concepts.Pairwise fun c d =>
          earliest l (entriesRead video settings.threshold es) c.token
            ≤ earliest l (entriesRead video settings.threshold es) d.token := by
  have horder := entriesRead_inOrder (entries_inOrder h) video settings.threshold
  obtain ⟨language, hresult⟩ := analyze_replay video model settings es
  cases language with
  | none =>
    refine ⟨_, hresult, rfl, fun _ => rfl, ?_⟩
    intro l hl
    cases hl
  | some l =>
    refine ⟨_, hresult, rfl, (fun hnone => by cases hnone), ?_⟩
    intro k hk
    obtain rfl : l = k := Option.some.inj hk
    have hconcepts := Extractor.readAll_start_concepts video.url l
      ((entriesRead video settings.threshold es).map Entry.fragment)
    have hdistinct := ((Extractor.start video.url l).readAll
      ((entriesRead video settings.threshold es).map Entry.fragment)).inventory.distinct
    simp only [Session.outcomeOf, Inventory.tokens, hconcepts] at hdistinct ⊢
    refine ⟨?_, ?_, stamp_eq_earliest video.url l horder, pairwise_earliest video.url l horder⟩
    · intro token
      rw [mem_tokens_firstOccurrences]
      exact mem_tokens_history video.url l _ token
    · intro token htoken
      rw [hdistinct.count, if_pos htoken]

/-- A blank line between two entries that both show the first token. -/
theorem analyze_replay_earliest_of_two :
    entries ["\x7b\"t\": 3, \"text\": \"for\"\x7d", "  ",
      "\x7b\"t\": 7, \"text\": \"for int\"\x7d"] = .ok [⟨3, "for"⟩, ⟨7, "for int"⟩] ∧
    ∃ found : Findings,
      (analyze ⟨"u", some "java"⟩ (fun _ => .silent) ⟨8, ⟨5, 1⟩⟩
        (Script.ofTranscript [⟨3, "for"⟩, ⟨7, "for int"⟩])).result = .ok found ∧
      "For" ∈ found.inventory.tokens ∧ "Int" ∈ found.inventory.tokens ∧
      ∀ c ∈ found.inventory.concepts,
        (c.token = "For" → c.stamp = "u&t=3") ∧ (c.token = "Int" → c.stamp = "u&t=7") := by
  have haccepted : (entries ["\x7b\"t\": 3, \"text\": \"for\"\x7d", "  ",
      "\x7b\"t\": 7, \"text\": \"for int\"\x7d"]).toOption
        = some [⟨3, "for"⟩, ⟨7, "for int"⟩] := by decide +kernel
  have h : entries ["\x7b\"t\": 3, \"text\": \"for\"\x7d", "  ",
      "\x7b\"t\": 7, \"text\": \"for int\"\x7d"] = .ok [⟨3, "for"⟩, ⟨7, "for int"⟩] := by
    unfold Except.toOption at haccepted
    split at haccepted
    · rename_i es hes
      rw [hes, Option.some.inj haccepted]
    · cases haccepted
  obtain ⟨found, hresult, _, _, hfound⟩ :=
    analyze_replay_earliest h ⟨"u", some "java"⟩ (fun _ => .silent) ⟨8, ⟨5, 1⟩⟩
  have hhint : languageOfHint (Video.hint ⟨"u", some "java"⟩) = some .java := by decide +kernel
  have hread : entriesRead ⟨"u", some "java"⟩ 8 [⟨3, "for"⟩, ⟨7, "for int"⟩]
      = [⟨3, "for"⟩, ⟨7, "for int"⟩] := by rw [entriesRead, hhint]
  have hlanguage : found.language = some .java := by
    have hanalysis : ((analyze ⟨"u", some "java"⟩ (fun _ => .silent) ⟨8, ⟨5, 1⟩⟩
        (Script.ofTranscript [⟨3, "for"⟩, ⟨7, "for int"⟩])).result.toOption.map
          Findings.language) = some (some .java) := by decide +kernel
    rw [hresult] at hanalysis
    exact Option.some.inj hanalysis
  obtain ⟨htokens, _, hstamps, _⟩ := hfound .java hlanguage
  rw [hread] at htokens hstamps
  have hfor : earliest .java [⟨3, "for"⟩, ⟨7, "for int"⟩] "For" = 3 := by decide +kernel
  have hint : earliest .java [⟨3, "for"⟩, ⟨7, "for int"⟩] "Int" = 7 := by decide +kernel
  refine ⟨h, found, hresult, (htokens "For").mpr (by decide +kernel),
    (htokens "Int").mpr (by decide +kernel), ?_⟩
  intro c hc
  constructor
  · intro htoken
    rw [hstamps c hc, htoken, hfor]
    decide +kernel
  · intro htoken
    rw [hstamps c hc, htoken, hint]
    decide +kernel

end Transcript

end ConceptInventory
