import ConceptInventory.Session

/-!
# What a session comes to

The end of a session said from its queue alone. Only the fragments before the
first final item or abort count. Where the hint names a language all of them are
read in it. Where it does not, the fragment with which the total length reaches
the threshold is shown to the model, and it and those behind it are read in the
language the model names. Nothing is counted on the way.
-/
namespace ConceptInventory

/-- The fragments in front of the first final item or abort. -/
def leadingFragments : List Item → List (String × Int)
  | .fragment text offset :: rest => (text, offset) :: leadingFragments rest
  | .finish _ :: _ => []
  | .abort _ :: _ => []
  | [] => []

/-- How a queue ends a session. -/
def verdictOf : List Item → Session.Verdict
  | .fragment _ _ :: rest => verdictOf rest
  | .finish _ :: _ => .finished
  | .abort reason :: _ => .aborted reason
  | [] => .waiting

/-- What stands behind the first final item or abort. -/
def behindEnd : List Item → List Item
  | .fragment _ _ :: rest => behindEnd rest
  | .finish _ :: rest => rest
  | .abort _ :: rest => rest
  | [] => []

/-- The length of all fragments together. -/
def totalLength (fs : List (String × Int)) : Nat := fs.foldr (fun f n => f.1.length + n) 0

/-- The index of the fragment with which the total length reaches a threshold. -/
def crossing? (threshold : Int) (fs : List (String × Int)) : Option Nat :=
  (List.range fs.length).find? fun k => threshold ≤ (totalLength (fs.take (k + 1)) : Int)

namespace Session

/-- What a language and fragments to read in it come to. -/
def outcomeOf (source : String) (language : Option Language) (fs : List (String × Int)) : Outcome :=
  match language with
  | some l => ⟨some l, ((Extractor.start source l).readAll fs).inventory⟩
  | none => ⟨none, .empty⟩

/-- What the fragments of a session come to, and what the model is asked. -/
def closed (video : Video) (model : Model) (threshold : Int) (fs : List (String × Int)) :
    Outcome × List String :=
  match languageOfHint video.hint with
  | some l => (outcomeOf video.url (some l) fs, [])
  | none =>
    match (crossing? threshold fs).map fs.drop with
    | some ((text, offset) :: rest) =>
      (outcomeOf video.url (model text).language ((text, offset) :: rest), [text])
    | some [] => (outcomeOf video.url none [], [])
    | none => (outcomeOf video.url none [], [])

/-- A session after the leading fragments of a queue. -/
def hearAll (s : Session) (fs : List (String × Int)) : Session :=
  fs.foldl (fun s f => s.hear f.1 f.2) s

/-- Running a queue hears its leading fragments and stops at its end. -/
theorem run_eq (s : Session) (items : List Item) :
    s.run items = ⟨s.hearAll (leadingFragments items), verdictOf items, behindEnd items⟩ := by
  induction items generalizing s with
  | nil => rfl
  | cons i items ih =>
    cases i with
    | fragment text offset => simp [run, ih, leadingFragments, verdictOf, behindEnd, hearAll]
    | finish _ => rfl
    | abort _ => rfl

theorem hearAll_cons (s : Session) (f : String × Int) (fs : List (String × Int)) :
    s.hearAll (f :: fs) = (s.hear f.1 f.2).hearAll fs := rfl

theorem hear_of_known {s : Session} {e : Extractor} (h : s.phase = .known e) (text : String)
    (offset : Int) : s.hear text offset = { s with phase := .known (e.read text offset) } := by
  simp [hear, h]

theorem hearAll_of_known {s : Session} {e : Extractor} (h : s.phase = .known e)
    (fs : List (String × Int)) : s.hearAll fs = { s with phase := .known (e.readAll fs) } := by
  induction fs generalizing s e with
  | nil =>
    cases s
    cases h
    rfl
  | cons f fs ih => rw [hearAll_cons, hear_of_known h, ih rfl]; rfl

theorem hearAll_of_unresolved {s : Session} (h : s.phase = .unresolved)
    (fs : List (String × Int)) : s.hearAll fs = s := by
  induction fs with
  | nil => rfl
  | cons f fs ih =>
    have hs : s.hear f.1 f.2 = s := by simp [hear, h]
    rw [hearAll_cons, hs, ih]

end Session

end ConceptInventory
