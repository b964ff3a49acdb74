import ConceptInventory.Analysis.Schedule
import ConceptInventory.Proofs.SessionOutcome

/-!
# All schedules agree

Producer and session meet only in the channel, so a schedule decides when an
item is received and not which one. What carries the proof is the fate of a
state: what its session would come to if everything queued and everything yet
to be sent were received in order. No step changes it. At the start it is the
run of the whole queue; at a state without a step it is what the session holds.
Every step uses up work of one side, so no schedule goes on for ever.
-/
namespace ConceptInventory

namespace Channel

theorem receive_eq_some {c d : Channel} {i : Item} (h : c.receive = some (i, d)) :
    c.items = i :: d.items ∧ d.ended = c.ended := by
  unfold receive at h
  split at h
  · simp at h
  · rename_i j rest hc
    simp only [Option.some.injEq, Prod.mk.injEq] at h
    obtain ⟨rfl, rfl⟩ := h
    exact ⟨hc, rfl⟩

theorem receive_eq_none {c : Channel} (h : c.receive = none) : c.items = [] := by
  unfold receive at h
  split at h
  · assumption
  · simp at h

end Channel

/-- Whatever a script sends, its queue holds an end. -/
theorem Script.exists_end (script : Script) : ∃ i ∈ script.queue, i.endsSession = true := by
  obtain ⟨sent, ending⟩ := script
  cases ending with
  | failed message => exact ⟨.abort (failureReason message), by simp [queue, closing], rfl⟩
  | returned =>
    by_cases h : sent.any Item.isFinish = true
    · obtain ⟨i, hi, hf⟩ := List.any_eq_true.mp h
      refine ⟨i, by simp [queue, hi], ?_⟩
      cases i <;> simp_all [Item.isFinish, Item.endsSession]
    · exact ⟨.abort unfinishedReason, by simp [queue, closing, h], rfl⟩

namespace Schedule

/-- What the producer will still send, its closing abort included. -/
def State.unsent (a : State) : List Item :=
  match a.producer with
  | .sending unsent (.failed message) => unsent ++ [.abort (Script.failureReason message)]
  | .sending unsent .returned =>
    unsent ++ if a.channel.ended || unsent.any Item.isFinish then []
      else [.abort Script.unfinishedReason]
  | .closed => []

/-- All that the session can still receive, in order. -/
def State.coming (a : State) : List Item := a.channel.items ++ a.unsent

/-- What the session comes to when it receives all that is coming. -/
def State.fate (a : State) : Session × Session.Verdict :=
  match a.verdict with
  | .waiting => ((a.session.run a.coming).session, (a.session.run a.coming).verdict)
  | .finished => (a.session, .finished)
  | .aborted reason => (a.session, .aborted reason)

/-- The steps that are left: an item yet to be sent is sent and received, and
closing may send one more. -/
def State.work (a : State) : Nat :=
  (match a.producer with
    | .sending unsent _ => 2 * unsent.length + 2
    | .closed => 0) + a.channel.items.length

theorem fate_start (s : Session) (script : Script) :
    (State.start s script).fate = ((s.run script.queue).session, (s.run script.queue).verdict) := by
  have hcoming : (State.start s script).coming = script.queue := by
    obtain ⟨sent, ending⟩ := script
    cases ending <;>
      simp [State.start, State.coming, State.unsent, Channel.empty, Script.queue, Script.closing]
  change ((s.run (State.start s script).coming).session, _) = _
  rw [hcoming]
  rfl

theorem fate_of_ended {a : State} (h : a.verdict ≠ .waiting) : a.fate = (a.session, a.verdict) := by
  unfold State.fate
  split <;> simp_all

/-- Sending moves the next item from the producer to the end of the channel. -/
theorem coming_send (i : Item) (unsent : List Item) (ending : Ending) (c : Channel) (s : Session)
    (v : Session.Verdict) :
    State.coming ⟨.sending unsent ending, c.send i, s, v⟩
      = State.coming ⟨.sending (i :: unsent) ending, c, s, v⟩ := by
  cases ending <;> simp [State.coming, State.unsent, Channel.send, Bool.or_assoc]

/-- Receiving takes the next item off what is coming. -/
theorem coming_receive {p : Producer} {c d : Channel} {s : Session} {v : Session.Verdict}
    {i : Item} (h : c.receive = some (i, d)) :
    State.coming ⟨p, c, s, v⟩ = i :: State.coming ⟨p, d, s, v⟩ := by
  obtain ⟨hitems, hended⟩ := Channel.receive_eq_some h
  simp [State.coming, State.unsent, hitems, hended]

/-- The fate of a state depends on the producer through what is coming only. -/
theorem fate_congr {p q : Producer} {c d : Channel} {s : Session} {v : Session.Verdict}
    (h : State.coming ⟨p, c, s, v⟩ = State.coming ⟨q, d, s, v⟩) :
    State.fate ⟨p, c, s, v⟩ = State.fate ⟨q, d, s, v⟩ := by
  cases v with
  | waiting => simp only [State.fate, h]
  | finished => rfl
  | aborted reason => rfl

theorem Step.fate_eq {a b : State} (h : Step a b) : b.fate = a.fate := by
  cases h with
  | send => exact fate_congr (coming_send ..)
  | fail => exact fate_congr (by simp [State.coming, State.unsent, Channel.send])
  | close hc => exact fate_congr (by simp [State.coming, State.unsent, hc])
  | giveUp hc => exact fate_congr (by simp [State.coming, State.unsent, Channel.send, hc])
  | hear hr =>
    simp only [State.fate, coming_receive hr, Session.run]
    rfl
  | finish hr => simp only [State.fate, coming_receive hr, Session.run]
  | abort hr => simp only [State.fate, coming_receive hr, Session.run]

theorem Steps.fate_eq {a b : State} (h : Steps a b) : b.fate = a.fate := by
  induction h with
  | refl => rfl
  | step _ hs ih => exact hs.fate_eq.trans ih

theorem Step.work_lt {a b : State} (h : Step a b) : b.work < a.work := by
  have hreceive {c d : Channel} {i : Item} (hr : c.receive = some (i, d)) :
      c.items.length = d.items.length + 1 := by
    rw [(Channel.receive_eq_some hr).1, List.length_cons]
  cases h with
  | send =>
    simp only [State.work, Channel.send, List.length_append, List.length_cons, List.length_nil]
    omega
  | fail =>
    simp only [State.work, Channel.send, List.length_append, List.length_cons, List.length_nil]
    omega
  | close => simp [State.work]
  | giveUp =>
    simp only [State.work, Channel.send, List.length_append, List.length_cons, List.length_nil]
    omega
  | hear hr => simp only [State.work, hreceive hr]; omega
  | finish hr => simp only [State.work, hreceive hr]; omega
  | abort hr => simp only [State.work, hreceive hr]; omega

/-- A schedule takes no more steps than there was work at its start. -/
theorem exists_no_step (run : Nat → State) : ∃ n ≤ (run 0).work, ¬Step (run n) (run (n + 1)) := by
  by_cases h : ∃ n ≤ (run 0).work, ¬Step (run n) (run (n + 1))
  · exact h
  · have hstep : ∀ n ≤ (run 0).work, Step (run n) (run (n + 1)) := by
      intro n hn
      by_cases hs : Step (run n) (run (n + 1))
      · exact hs
      · exact absurd ⟨n, hn, hs⟩ h
    have hdown : ∀ n ≤ (run 0).work + 1, (run n).work + n ≤ (run 0).work := by
      intro n hn
      induction n with
      | zero => simp
      | succ n ih =>
        have hlt := (hstep n (by omega)).work_lt
        have hle := ih (by omega)
        omega
    have hend := hdown _ (Nat.le_refl _)
    omega

/-- A producer that is not closed has a step. -/
theorem producer_eq_closed {a : State} (h : a.isFinal) : a.producer = .closed := by
  obtain ⟨p, c, s, v⟩ := a
  cases p with
  | closed => rfl
  | sending unsent ending =>
    cases unsent with
    | cons i unsent => exact absurd .send (h _)
    | nil =>
      cases ending with
      | failed message => exact absurd .fail (h _)
      | returned =>
        cases hc : c.ended with
        | true => exact absurd (.close hc) (h _)
        | false => exact absurd (.giveUp hc) (h _)

/-- A session that waits has a step while the channel holds an item. -/
theorem receive_eq_none_of_isFinal {a : State} (h : a.isFinal) (hv : a.verdict = .waiting) :
    a.channel.receive = none := by
  obtain ⟨p, c, s, v⟩ := a
  cases hv
  cases hr : c.receive with
  | none => rfl
  | some r =>
    obtain ⟨i, d⟩ := r
    cases i with
    | fragment text offset => exact absurd (.hear hr) (h _)
    | finish offset => exact absurd (.finish hr) (h _)
    | abort reason => exact absurd (.abort hr) (h _)

/-- Behind a closed producer, a session that has stopped has no step. -/
theorem isFinal_of_closed {c : Channel} {s : Session} {v : Session.Verdict} (hv : v ≠ .waiting) :
    State.isFinal ⟨.closed, c, s, v⟩ := by
  intro b hb
  cases hb <;> exact hv rfl

/-- The run of a whole queue does not end waiting. -/
theorem verdict_run_queue_ne_waiting (s : Session) (script : Script) :
    (s.run script.queue).verdict ≠ .waiting := by
  obtain ⟨fs, e, rest, hqueue, he⟩ := exists_split_at_end script.exists_end
  rw [Session.run_eq, hqueue, verdictOf_split]
  cases e <;> simp_all [verdictOf, Item.endsSession]

/-- A reachable session that waits behind a closed producer has something to receive. -/
theorem receive_ne_none {s : Session} {script : Script} {a : State}
    (h : Steps (State.start s script) a) (hp : a.producer = .closed) (hv : a.verdict = .waiting) :
    a.channel.receive ≠ none := by
  intro hr
  have hcoming : a.coming = [] := by
    simp [State.coming, State.unsent, hp, Channel.receive_eq_none hr]
  have hfate := h.fate_eq.trans (fate_start s script)
  have hverdict : .waiting = (s.run script.queue).verdict := by
    simpa [State.fate, hv, hcoming, Session.run] using congrArg Prod.snd hfate
  exact verdict_run_queue_ne_waiting s script hverdict.symm

/-- A reachable state without a step holds the run of the whole queue. -/
theorem final_eq_run {s : Session} {script : Script} {a : State}
    (h : Steps (State.start s script) a) (hf : a.isFinal) :
    a.verdict ≠ .waiting ∧ a.session = (s.run script.queue).session
      ∧ a.verdict = (s.run script.queue).verdict := by
  have hv : a.verdict ≠ .waiting := fun hv =>
    receive_ne_none h (producer_eq_closed hf) hv (receive_eq_none_of_isFinal hf hv)
  have hfate := h.fate_eq.trans (fate_start s script)
  rw [fate_of_ended hv] at hfate
  exact ⟨hv, congrArg Prod.fst hfate, congrArg Prod.snd hfate⟩

/-- No schedule goes on for ever or stops with the session waiting, and all of
them come to what is found when everything is queued first: the failure of the
producer, else the first abort in front of every final item, else the closed
form of the fragments in front of the first final item. -/
theorem schedules_agree (video : Video) (model : Model) (settings : Settings) (script : Script) :
    (∀ run : Nat → State,
      run 0 = State.start (Session.start video model settings.threshold) script →
        ∃ n ≤ 2 * script.sent.length + 2, ¬Step (run n) (run (n + 1))) ∧
    (∀ a, Steps (State.start (Session.start video model settings.threshold) script) a →
      (a.producer = .closed → a.verdict = .waiting → a.channel.receive ≠ none) ∧
      (a.isFinal → a.producer = .closed ∧ a.verdict ≠ .waiting ∧
        conclude video script.ending a.verdict a.session = analyze video model settings script)) ∧
    ∃ (fs : List (String × Int)) (e : Item) (rest : List Item),
      script.queue = fs.map Item.ofFragment ++ e :: rest ∧ e.endsSession = true ∧
      (analyze video model settings script).asked
        = (Session.closed video model settings.threshold fs).2 ∧
      match script.ending with
      | .failed message =>
        (analyze video model settings script).result = .error (.producerFailed message)
      | .returned =>
        match e with
        | .fragment _ _ => False
        | .abort reason =>
          (analyze video model settings script).result = .error (.channelClosed reason)
        | .finish _ =>
          (analyze video model settings script).result
            = .ok ⟨video, (Session.closed video model settings.threshold fs).1.language,
                (Session.closed video model settings.threshold fs).1.inventory⟩ := by
  refine ⟨?_, ?_, ?_⟩
  · intro run hstart
    obtain ⟨n, hn, hstuck⟩ := exists_no_step run
    have hwork : (run 0).work = 2 * script.sent.length + 2 := by
      rw [hstart]
      simp [State.start, State.work, Channel.empty]
    exact ⟨n, hwork ▸ hn, hstuck⟩
  · intro a ha
    refine ⟨receive_ne_none ha, fun hf => ?_⟩
    obtain ⟨hv, hsession, hverdict⟩ := final_eq_run ha hf
    exact ⟨producer_eq_closed hf, hv, by rw [hsession, hverdict]; rfl⟩
  · obtain ⟨fs, e, rest, hqueue, he⟩ := exists_split_at_end script.exists_end
    have hfound := Session.hearAll_start video model settings.threshold fs
    have hanalysis := analyze_split video model settings hqueue he
    refine ⟨fs, e, rest, hqueue, he, by rw [hanalysis, ← hfound]; rfl, ?_⟩
    rw [hanalysis, ← hfound]
    cases script.ending with
    | failed message => rfl
    | returned =>
      cases e with
      | fragment text offset => simp [Item.endsSession] at he
      | abort reason => rfl
      | finish offset => rfl

/-- The session hears a fragment before the rest is sent, and an abort is left. -/
theorem schedules_agree_interleaved :
    ∃ a, Steps (State.start (Session.start ⟨"u", some "java"⟩ (fun _ => .silent) 8)
        ⟨[.fragment "for" 1, .finish 2, .abort "late"], .returned⟩) a ∧ a.isFinal ∧
      conclude ⟨"u", some "java"⟩ .returned a.verdict a.session
        = analyze ⟨"u", some "java"⟩ (fun _ => .silent) ⟨8, ⟨5, 1⟩⟩
          ⟨[.fragment "for" 1, .finish 2, .abort "late"], .returned⟩ := by
  let s := Session.start ⟨"u", some "java"⟩ (fun _ => .silent) 8
  let script : Script := ⟨[.fragment "for" 1, .finish 2, .abort "late"], .returned⟩
  let last : State := ⟨.closed, ⟨[.abort "late"], true⟩, s.hear "for" 1, .finished⟩
  have sent : Steps (State.start s script)
      ⟨.sending [.finish 2, .abort "late"] .returned, ⟨[.fragment "for" 1], false⟩, s, .waiting⟩ :=
    .step .refl .send
  have heard : Steps (State.start s script)
      ⟨.sending [.finish 2, .abort "late"] .returned, ⟨[], false⟩, s.hear "for" 1, .waiting⟩ :=
    .step sent (.hear rfl)
  have queued : Steps (State.start s script)
      ⟨.sending [] .returned, ⟨[.finish 2, .abort "late"], true⟩, s.hear "for" 1, .waiting⟩ :=
    .step (.step heard .send) .send
  have reached : Steps (State.start s script) last :=
    .step (.step queued (.finish rfl)) (.close rfl)
  have final : last.isFinal := isFinal_of_closed (by decide)
  have agree := schedules_agree ⟨"u", some "java"⟩ (fun _ => .silent) ⟨8, ⟨5, 1⟩⟩ script
  exact ⟨last, reached, final, ((agree.2.1 last reached).2 final).2.2⟩

end Schedule

end ConceptInventory
