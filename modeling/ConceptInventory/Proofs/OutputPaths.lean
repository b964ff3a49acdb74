import ConceptInventory.CommandLine.Program
import ConceptInventory.Proofs.ConsoleMarkup
import ConceptInventory.Proofs.EarliestStamps
import ConceptInventory.Proofs.RootTally
import ConceptInventory.Proofs.Vocabulary
import ConceptInventory.Proofs.WholeNumbers
import ConceptInventory.Proofs.WrittenFile

/-!
# Findings printed and findings written

Asking for a file changes nothing about the findings: the file holds what would have been
printed. What can go wrong behind it is the printing of the summary, since the printer reads
tags in the title. The words around the title hold no brackets, so of a printer that reads
tags only the title and the name of the file need be known.
-/
namespace ConceptInventory

/-! ## Printing texts in turn -/

namespace Printer

variable (p : Printer)

theorem printAll_cons (s : String) (texts : List String) :
    p.printAll (s :: texts) = (Printout.ofResult (p.text s)).andThen (p.printAll texts) := rfl

/-- No complaint is left once every text is printed. -/
theorem complaint_printAll (texts : List String) :
    (p.printAll texts).complaint = none ↔ ∀ s ∈ texts, ∃ t, p.text s = .ok t := by
  induction texts with
  | nil => simp [printAll]
  | cons s texts ih =>
    rw [printAll_cons, List.forall_mem_cons, ← ih]
    cases p.text s <;> simp [Printout.ofResult, Printout.andThen]

/-- Nothing is printed from a complaint on. -/
theorem printAll_of_error {s complaint : String} (h : p.text s = .error complaint)
    (texts : List String) : p.printAll (s :: texts) = ⟨"", some complaint⟩ := by
  rw [printAll_cons, h]
  rfl

end Printer

theorem CommandLine.Result.ofPrintout_ended {p : Printout} :
    (Result.ofPrintout 0 p).exit = 0 ∧ (Result.ofPrintout 0 p).failure = none
      ↔ p.complaint = none := by
  rw [ofPrintout]
  cases p.complaint <;> simp

/-! ## The summary -/

theorem mem_intercalate {sep : String} {ws : List String} {c : Char}
    (h : c ∈ (sep.intercalate ws).toList) : c ∈ sep.toList ∨ ∃ w ∈ ws, c ∈ w.toList := by
  induction ws with
  | nil => simp at h
  | cons w ws ih =>
    cases ws with
    | nil =>
      rw [String.intercalate_singleton] at h
      exact .inr ⟨w, List.mem_cons_self, h⟩
    | cons v ws =>
      rw [String.intercalate_cons_cons, String.toList_append, String.toList_append,
        List.mem_append, List.mem_append] at h
      rcases h with (h | h) | h
      · exact .inr ⟨w, List.mem_cons_self, h⟩
      · exact .inl h
      · rcases ih h with h | ⟨u, hu, h⟩
        · exact .inl h
        · exact .inr ⟨u, List.mem_cons_of_mem w hu, h⟩

/-- Whatever is read, the paths start at one of the roots. -/
theorem Extractor.root_of_mem_readAll {source : String} {l : Language}
    {fs : List (String × Int)} {c : Concept}
    (h : c ∈ ((start source l).readAll fs).inventory.concepts) : c.path.root ∈ Category.roots := by
  rw [readAll_start_concepts] at h
  obtain ⟨f, _, hf⟩ := (mem_recorded_iff source l fs c.sighting).mp (List.mem_map_of_mem h)
  exact (Language.records_of_mem_sightings hf).2.root

namespace Findings

variable {f : Findings}

/-- No path starts with a name with an opening bracket in it. -/
def PlainRoots (f : Findings) : Prop := ∀ c ∈ f.inventory.concepts, '[' ∉ c.path.root.toList

theorem plainRoots_outcomeOf (video : Video) (source : String) (language : Option Language)
    (fs : List (String × Int)) :
    PlainRoots ⟨video, (Session.outcomeOf source language fs).language,
      (Session.outcomeOf source language fs).inventory⟩ := by
  have hroots : ∀ root ∈ Category.roots, '[' ∉ root.toList := by decide
  intro c hc
  cases language with
  | none => cases hc
  | some l => exact hroots _ (Extractor.root_of_mem_readAll hc)

theorem not_mem_toString (n : Nat) : '[' ∉ (toString n).toList := by
  intro h
  rw [Nat.toString_eq_repr, Nat.toList_repr] at h
  cases Json.isDigit_of_mem_toDigits h

theorem not_mem_of_mem_summaryLines (h : f.PlainRoots) {line : String}
    (hline : line ∈ f.summaryLines.drop 1) : '[' ∉ line.toList := by
  have hlanguage : '[' ∉ ((f.language.map Language.name).getD "unresolved").toList := by
    rcases f.language with _ | l
    · decide
    · cases l <;> decide
  rw [summaryLines] at hline
  simp only [List.cons_append, List.nil_append, List.drop_succ_cons, List.drop_zero,
    List.mem_cons, List.mem_map] at hline
  rcases hline with rfl | rfl | ⟨r, hr, rfl⟩
  · simpa using hlanguage
  · simpa using not_mem_toString f.inventory.size
  · obtain ⟨c, hc, hroot⟩ := ((sharedOut_roots f).listed r.1).mp (List.mem_map_of_mem hr)
    have hname : '[' ∉ r.1.toList := hroot ▸ h c hc
    simpa [hname] using not_mem_toString r.2

/-- What the summary says behind the title. -/
def afterHint (f : Findings) : String := "'\n" ++ "\n".intercalate (f.summaryLines.drop 1)

theorem summary_eq (f : Findings) : f.summary = "Video '" ++ f.video.hint ++ f.afterHint := by
  have hlines : f.summary = "Video '" ++ f.video.hint ++ "'" ++ "\n"
      ++ "\n".intercalate (f.summaryLines.drop 1) := String.intercalate_cons_cons
  have hbreak : "'\n" = "'" ++ "\n" := rfl
  rw [hlines, afterHint, hbreak]
  simp only [String.append_assoc]

theorem not_mem_afterHint (h : f.PlainRoots) : '[' ∉ f.afterHint.toList := by
  rw [afterHint, String.toList_append, List.mem_append]
  rintro (hc | hc)
  · exact absurd hc (by decide)
  · rcases mem_intercalate hc with hc | ⟨line, hline, hc⟩
    · exact absurd hc (by decide)
    · exact not_mem_of_mem_summaryLines h hline hc

/-- The title is all that can bring a bracket into the summary. -/
theorem not_mem_summary (h : f.PlainRoots) (hhint : '[' ∉ f.video.hint.toList) :
    '[' ∉ f.summary.toList := by
  have hfront : '[' ∉ "Video '".toList := by decide
  rw [summary_eq, String.toList_append, String.toList_append, List.mem_append, List.mem_append]
  exact not_or.mpr ⟨not_or.mpr ⟨hfront, hhint⟩, not_mem_afterHint h⟩

end Findings

namespace CommandLine

open Printer (ReadsMarkup)

/-- A printer that reads tags refuses the summary if the first bracket in the title opens a
closing tag. -/
theorem summary_refused {p : Printer} (hp : p.ReadsMarkup) (f : Findings)
    {before name after : String} (hhint : f.video.hint = before ++ "[/" ++ name ++ "]" ++ after)
    (hopen : '[' ∉ before.toList) (hslash : '\\' ∉ before.toList) (hname : '[' ∉ name.toList)
    (hclose : ']' ∉ name.toList) : ∃ complaint, p.text f.summary = .error complaint := by
  have hsummary : f.summary
      = ("Video '" ++ before) ++ "[/" ++ name ++ "]" ++ (after ++ f.afterHint) := by
    rw [f.summary_eq, hhint]
    simp only [String.append_assoc]
  have hfront : '[' ∉ "Video '".toList ∧ '\\' ∉ "Video '".toList := by decide
  rw [hsummary]
  refine hp.unopened _ _ _ ?_ ?_ hname hclose
  · rw [String.toList_append, List.mem_append]
    exact not_or.mpr ⟨hfront.1, hopen⟩
  · rw [String.toList_append, List.mem_append]
    exact not_or.mpr ⟨hfront.2, hslash⟩

theorem savedLine_printed {p : Printer} (hp : p.ReadsMarkup) {file : PathName}
    (h : '[' ∉ file.shown.toList) : ∃ t, p.text (savedLine file) = .ok t := by
  have hopening : "[green]✓ Saved to " = "[" ++ "green" ++ "]" ++ "✓ Saved to " := rfl
  have hline : savedLine file = "[" ++ "green" ++ "]" ++ ("✓ Saved to " ++ file.shown) ++ "[/]" :=
    (congrArg (· ++ file.shown ++ "[/]") hopening).trans
      (congrArg (· ++ "[/]") (String.append_assoc ..))
  have hletters : ∀ c ∈ "green".toList, 'a' ≤ c ∧ c ≤ 'z' := by simp
  have hwords : '[' ∉ "✓ Saved to ".toList := by decide
  rw [hline]
  refine hp.styled "green" _ (by decide) hletters ?_
  rw [String.toList_append, List.mem_append]
  exact not_or.mpr ⟨hwords, h⟩

/-! ## What the file holds and how the program ends -/

theorem deliver_some {s : Surroundings} {file : PathName} (h : s.obstacle? file = none)
    (f : Findings) : deliver s (some file) f
      = { Result.ofPrintout 0 (s.printer.printAll [f.summary, savedLine file]) with
          written := some (file, f.render Findings.defaultIndent) } := by
  simp only [deliver, h]

theorem runAnalyze_eq_deliver {s : Surroundings} {o : AnalyzeOptions} {content : String}
    {es : List Entry} {f : Findings} (hlook : s.look o.transcript = .text content)
    (hentries : Transcript.ofText content = .ok es) (hpause : o.pause = .endless → es = [])
    (hresult : (analyze o.video (s.model (o.classifier.getD s.classifier))
      { threshold := o.threshold } (.ofTranscript es)).result = .ok f) :
    runAnalyze s o = deliver s o.output f := by
  have hbearable : ¬(decide (o.pause = .endless) && !es.isEmpty) = true := by
    intro h
    obtain ⟨hendless, hsome⟩ := Bool.and_eq_true_iff.mp h
    rw [hpause (of_decide_eq_true hendless)] at hsome
    cases hsome
  simp only [runAnalyze, hlook, hentries, hresult]
  exact if_neg hbearable

/-- Asking for a file changes nothing about the findings: what would be printed is in the file
afterwards, however the program ends. It ends well if the summary and the line that names the
file can be printed, so always where neither the title, or the address shown for it, nor the
name of the file has an opening bracket. It fails if the first bracket of the title opens a
closing tag. -/
theorem analyze_writes_what_it_prints {s : Surroundings} {fs : FileSystem} {d : fs.State}
    {o : AnalyzeOptions} {content : String} {es : List Entry} {file : PathName}
    (hprinter : s.printer.ReadsMarkup) (hfiles : fs.Keeps) (hnone : o.output = none)
    (hlook : fs.look d o.transcript = .text content)
    (hentries : Transcript.ofText content = .ok es) (hpause : o.pause = .endless → es = [])
    (hfile : fs.obstacle? d file = none) :
    ∃ f : Findings,
      (analyze o.video (s.model (o.classifier.getD s.classifier))
        { threshold := o.threshold } (.ofTranscript es)).result = .ok f
      ∧ perform (s.on fs d) (.analyze o) = .success (f.render Findings.defaultIndent ++ "\n")
      ∧ let r := perform (s.on fs d) (.analyze { o with output := some file })
        fs.look (fs.after d r) file = .text (f.render Findings.defaultIndent)
        ∧ (r.exit = 0 ∧ r.failure = none
          ↔ (∃ t, s.printer.text f.summary = .ok t) ∧ ∃ t, s.printer.text (savedLine file) = .ok t)
        ∧ ('[' ∉ o.video.hint.toList → '[' ∉ file.shown.toList → r.exit = 0 ∧ r.failure = none)
        ∧ ∀ before name after, o.video.hint = before ++ "[/" ++ name ++ "]" ++ after →
          '[' ∉ before.toList → '\\' ∉ before.toList → '[' ∉ name.toList → ']' ∉ name.toList →
          r.exit = 1 ∧ r.printed = "" ∧ ∃ complaint, r.failure = some (.badMarkup complaint) := by
  obtain ⟨language, hresult⟩ := Transcript.analyze_replay o.video
    (s.model (o.classifier.getD s.classifier)) { threshold := o.threshold } es
  have hroots := Findings.plainRoots_outcomeOf o.video o.video.url language
    ((Transcript.entriesRead o.video o.threshold es).map Entry.fragment)
  generalize hf : Findings.mk o.video _ _ = f at hresult hroots
  have hvideo : f.video = o.video := by rw [← hf]
  have hrun (output : Option PathName) :
      perform (s.on fs d) (.analyze { o with output }) = deliver (s.on fs d) output f :=
    runAnalyze_eq_deliver (s := s.on fs d) (o := { o with output })
      hlook hentries hpause hresult
  have hplain : { o with output := none } = o := by rw [← hnone]
  have hended : (perform (s.on fs d) (.analyze { o with output := some file })).exit = 0
      ∧ (perform (s.on fs d) (.analyze { o with output := some file })).failure = none
      ↔ (∃ t, s.printer.text f.summary = .ok t)
        ∧ ∃ t, s.printer.text (savedLine file) = .ok t := by
    rw [hrun, deliver_some (s := s.on fs d) hfile f]
    have hprinted := (Result.ofPrintout_ended).trans
      (s.printer.complaint_printAll [f.summary, savedLine file])
    simpa [Surroundings.on] using hprinted
  refine ⟨f, hresult, ?_, ?_, hended, ?_, ?_⟩
  · have hsuccess := hrun none
    rw [hplain] at hsuccess
    exact hsuccess
  · rw [hrun, deliver_some (s := s.on fs d) hfile f]
    exact hfiles.look_write d file _ hfile
  · intro hhint hname
    exact hended.mpr ⟨hprinter.plain _ (f.not_mem_summary hroots (hvideo ▸ hhint)),
      savedLine_printed hprinter hname⟩
  · intro before name after hhint hopen hslash hname hclose
    obtain ⟨complaint, hcomplaint⟩ :=
      summary_refused hprinter f (hvideo ▸ hhint) hopen hslash hname hclose
    rw [hrun, deliver_some (s := s.on fs d) hfile f]
    have hall := s.printer.printAll_of_error hcomplaint [savedLine file]
    simp only [Surroundings.on, hall]
    exact ⟨rfl, rfl, complaint, rfl⟩

/-- Surroundings with the console and without files and a classifier. -/
def quiet : Surroundings where
  printer := Console.printer .named
  look := fun _ => .closed .missing
  obstacle? := fun _ => some .missing
  classifier := .ofText "classifier"
  classifierState := fun _ => .missing
  packages := []
  model := fun _ _ => .silent

def oneEntry : String := "\x7b\"t\": 3, \"text\": \"int *p;\"\x7d\n"

def oneTranscript : FileTree := .ofList ["home", "kcx"] [("t.jsonl", oneEntry)]

/-- A title with brackets, of which each that closes has one to close, and paths that leave
the directory. -/
theorem analyze_writes_what_it_prints_of_bold_title :
    let o : AnalyzeOptions :=
      ⟨.ofText "../kcx/t.jsonl", ⟨"u", some "[bold]C++[/bold] [x"⟩, none, none, 8, .bearable⟩
    let file := PathName.ofText "/home/out.json"
    quiet.printer.ReadsMarkup ∧ FileTree.system.Keeps ∧ o.output = none
      ∧ oneTranscript.look o.transcript = .text oneEntry
      ∧ Transcript.ofText oneEntry = .ok [⟨3, "int *p;"⟩]
      ∧ (o.pause = .endless → ([⟨3, "int *p;"⟩] : List Entry) = [])
      ∧ oneTranscript.obstacle? file = none
      ∧ ∃ f : Findings,
        perform (quiet.on FileTree.system oneTranscript) (.analyze o)
          = .success (f.render Findings.defaultIndent ++ "\n")
        ∧ let r := perform (quiet.on FileTree.system oneTranscript)
            (.analyze { o with output := some file })
          FileTree.system.look (FileTree.system.after oneTranscript r) file
            = .text (f.render Findings.defaultIndent)
          ∧ r.exit = 0 ∧ r.failure = none := by
  intro o file
  have hprinter : quiet.printer.ReadsMarkup := Console.readsMarkup_printer .named
  have hlook : oneTranscript.look o.transcript = .text oneEntry := by decide +kernel
  have hentries : Transcript.ofText oneEntry = .ok [⟨3, "int *p;"⟩] := by
    have hsome : (Transcript.ofText oneEntry).toOption = some [⟨3, "int *p;"⟩] := by
      decide +kernel
    cases h : Transcript.ofText oneEntry with
    | error e =>
      rw [h] at hsome
      cases hsome
    | ok es =>
      rw [h] at hsome
      rw [Option.some.inj hsome]
  have hpause : o.pause = .endless → ([⟨3, "int *p;"⟩] : List Entry) = [] := nofun
  have hfile : oneTranscript.obstacle? file = none := by decide +kernel
  obtain ⟨f, hresult, hprinted, hheld, hended, _⟩ :=
    analyze_writes_what_it_prints hprinter FileTree.keeps_system rfl hlook hentries hpause hfile
  have hsummary : ∃ t, quiet.printer.text f.summary = .ok t := by
    have hok : (analyze o.video (quiet.model (o.classifier.getD quiet.classifier))
        { threshold := o.threshold } (.ofTranscript [⟨3, "int *p;"⟩])).result.toOption.map
          (fun f => (quiet.printer.text f.summary).isOk) = some true := by
      decide +kernel
    rw [hresult] at hok
    cases htext : quiet.printer.text f.summary with
    | error e => simp [Except.toOption, htext, Except.isOk, Except.toBool] at hok
    | ok t => exact ⟨t, rfl⟩
  have hsaved : ∃ t, quiet.printer.text (savedLine file) = .ok t :=
    savedLine_printed hprinter (by decide +kernel)
  exact ⟨hprinter, FileTree.keeps_system, rfl, hlook, hentries, hpause, hfile, f, hprinted, hheld,
    hended.mpr ⟨hsummary, hsaved⟩⟩

/-- A title that closes what is not open: without a file the program ends well, with one it
does not, and the file is there. -/
theorem analyze_fails_at_closing_title :
    let o : AnalyzeOptions :=
      ⟨.ofText "t.jsonl", ⟨"u", some "[/x]"⟩, none, none, 8, .bearable⟩
    let file := PathName.ofText "out.json"
    let plain := perform (quiet.on FileTree.system oneTranscript) (.analyze o)
    let filed := perform (quiet.on FileTree.system oneTranscript)
      (.analyze { o with output := some file })
    oneTranscript.obstacle? file = none
      ∧ plain.exit = 0
      ∧ filed.exit = 1
      ∧ filed.failure.map Failure.message
        = some "closing tag '[/x]' at position 7 doesn't match any open tag"
      ∧ ∃ text, plain.printed = text ++ "\n"
        ∧ FileTree.system.look (FileTree.system.after oneTranscript filed) file = .text text := by
  refine ⟨by decide +kernel, by decide +kernel, by decide +kernel, by decide +kernel,
    (Findings.mk ⟨"u", some "[/x]"⟩ none .empty).render Findings.defaultIndent, ?_, ?_⟩
  · decide +kernel
  · decide +kernel

end CommandLine

end ConceptInventory
