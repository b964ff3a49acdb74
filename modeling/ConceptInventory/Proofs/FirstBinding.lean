import ConceptInventory.Extractor.Dispatching
import ConceptInventory.Proofs.Extraction

/-!
# The first binding decides

After any requests a dispatcher is what the first binding among them and the
fragments read behind it make of it: an extractor of that source and language that
has read those fragments, or nothing as long as no binding was asked for. Refused
requests, and all that was asked in front of the first binding, leave no trace.
-/
namespace ConceptInventory.Dispatcher

open DispatchRequest

theorem serveAll_append (d : Dispatcher) (rs qs : List DispatchRequest) :
    d.serveAll (rs ++ qs) = (d.serveAll rs).serveAll qs := List.foldl_append

theorem answers_append (d : Dispatcher) (rs qs : List DispatchRequest) :
    d.answers (rs ++ qs) = d.answers rs ++ (d.serveAll rs).answers qs := by
  induction rs generalizing d with
  | nil => rfl
  | cons r rs ih =>
    rw [List.cons_append, answers, answers, ih, List.cons_append]
    rfl

theorem answer_bound_bind (e : Extractor) (source : String) (l : Language) :
    (bound e).answer (.bind source l) = .refused (.alreadyBound e.language) := rfl

theorem serve_of_refused {d : Dispatcher} {r : DispatchRequest} {e : DispatchError}
    (h : d.answer r = .refused e) : (d.serve r).2 = d := by
  cases r with
  | bind source l =>
    cases d with
    | unbound => cases h
    | bound e => rfl
  | read fragment offset => cases h
  | snapshot => cases d <;> rfl

/-- Behind a refused request all goes on as if it had not been made. -/
theorem answers_of_refused {d : Dispatcher} {r : DispatchRequest} {e : DispatchError}
    (h : d.answer r = .refused e) (later : List DispatchRequest) :
    d.answers (r :: later) = .refused e :: d.answers later
      ∧ d.serveAll (r :: later) = d.serveAll later := by
  have hstep : d.serveAll (r :: later) = (d.serve r).2.serveAll later := rfl
  rw [answers, h, hstep, serve_of_refused h]
  exact ⟨rfl, rfl⟩

/-- Once bound, a dispatcher goes on as its extractor: it reads all fragments, and no
other request does anything to it. -/
theorem serveAll_bound (e : Extractor) (rs : List DispatchRequest) :
    (bound e).serveAll rs = .bound (e.readAll (rs.filterMap fragment?)) := by
  induction rs generalizing e with
  | nil => rfl
  | cons r rs ih =>
    cases r with
    | bind source l => exact ih e
    | read fragment offset => exact ih (e.read fragment offset)
    | snapshot => exact ih e

theorem serveAll_of_no_binding {rs : List DispatchRequest} (h : firstBinding? rs = none) :
    unbound.serveAll rs = .unbound := by
  induction rs with
  | nil => rfl
  | cons r rs ih =>
    cases r with
    | bind source l => cases h
    | read fragment offset => exact ih h
    | snapshot => exact ih h

theorem serveAll_of_binding {rs : List DispatchRequest} {source : String} {l : Language}
    (h : firstBinding? rs = some (source, l)) : unbound.serveAll rs
      = .bound ((Extractor.start source l).readAll (fragmentsBound rs)) := by
  induction rs with
  | nil => cases h
  | cons r rs ih =>
    cases r with
    | bind source' l' =>
      cases h
      exact serveAll_bound (.start source l) rs
    | read fragment offset => exact ih h
    | snapshot => exact ih h

/-- The life of a dispatcher, whatever it is asked. It is bound exactly from the first
binding on, and to the language of that binding. Up to there snapshots are refused and
all else is forgotten; from there on bindings are refused, and a snapshot is the
inventory of an extractor of its own that has read the fragments since. A refused
request changes nothing that is answered or held later. -/
theorem serveAll_life_cycle (rs : List DispatchRequest) :
    let d := unbound.serveAll rs
    d.isBound = (firstBinding? rs).isSome
      ∧ d.language = (firstBinding? rs).map Prod.snd
      ∧ (firstBinding? rs = none →
        d.answer .snapshot = .refused .unbound
        ∧ (∀ source l, d.answer (.bind source l) = .done)
        ∧ ∀ later, unbound.answers (rs ++ later) = unbound.answers rs ++ unbound.answers later
          ∧ unbound.serveAll (rs ++ later) = unbound.serveAll later)
      ∧ (∀ source l, firstBinding? rs = some (source, l) →
        (∀ source' l', d.answer (.bind source' l') = .refused (.alreadyBound l))
        ∧ d.answer .snapshot
          = .snapshot ((Extractor.start source l).readAll (fragmentsBound rs)).inventory)
      ∧ ∀ r e, d.answer r = .refused e → ∀ later,
        d.answers (r :: later) = .refused e :: d.answers later
        ∧ d.serveAll (r :: later) = d.serveAll later := by
  intro d
  have hrefused : ∀ r e, d.answer r = .refused e → ∀ later,
      d.answers (r :: later) = .refused e :: d.answers later
      ∧ d.serveAll (r :: later) = d.serveAll later := fun r e h => answers_of_refused h
  cases hfirst : firstBinding? rs with
  | none =>
    have hd : d = .unbound := serveAll_of_no_binding hfirst
    refine ⟨?_, ?_, fun _ => ⟨?_, ?_, ?_⟩, nofun, hrefused⟩
    · rw [hd]
      rfl
    · rw [hd]
      rfl
    · rw [hd]
      rfl
    · intro source l
      rw [hd]
      rfl
    · intro later
      rw [answers_append, serveAll_append, serveAll_of_no_binding hfirst]
      exact ⟨rfl, rfl⟩
  | some binding =>
    obtain ⟨source, l⟩ := binding
    have hd : d = .bound ((Extractor.start source l).readAll (fragmentsBound rs)) :=
      serveAll_of_binding hfirst
    refine ⟨?_, ?_, nofun, ?_, hrefused⟩
    · rw [hd]
      rfl
    · rw [hd, language, Extractor.readAll_language]
      rfl
    · intro source' l' h
      cases h
      constructor
      · intro source' l'
        rw [hd, answer_bound_bind, Extractor.readAll_language]
        rfl
      · rw [hd]
        rfl

example : unbound.answers [.read "for" 1, .snapshot, .bind "u" .java, .bind "v" .c]
    = [.done, .refused .unbound, .done, .refused (.alreadyBound .java)] := rfl

/-- What is read before the binding is lost, and the language decides what is kept: only one
of the two grammars has a word of its own for the second condition. -/
example :
    let tokens (l : Language) := match (unbound.serveAll
        [.read "while" 1, .bind "u" l, .read "if x elif" 4]).inventory with
      | .ok i => i.concepts.map fun c => (c.token, c.stamp)
      | .error _ => []
    tokens .python = [("If", "u&t=4"), ("Elif", "u&t=4")] ∧ tokens .c = [("If", "u&t=4")] := by
  decide +kernel

end ConceptInventory.Dispatcher
