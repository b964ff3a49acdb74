import ConceptInventory.Extractor.Requests
import ConceptInventory.Proofs.Extraction
import ConceptInventory.Proofs.Neighbours
import Mathlib.Algebra.Ring.Nat

/-!
# The history of an extractor

Whatever an extractor is asked, its inventory holds the first occurrences of all
that was shown to it. The invariant of a journal is kept by one request: reading
puts what is new behind what is held, so earlier snapshots stay prefixes, and a
snapshot holds what the inventory holds. Snapshots are never touched again.
-/
namespace ConceptInventory

namespace Extractor

theorem snapshot_eq (e : Extractor) : e.snapshot = e.inventory := e.inventory.ofList_concepts

theorem concepts_prefix_read (e : Extractor) (fragment : String) (offset : Int) :
    e.inventory.concepts <+: (e.read fragment offset).inventory.concepts := by
  rw [read, Inventory.concepts_insertAll]
  exact List.prefix_append _ _

end Extractor

/-- Inserting more behind a history gives the first occurrences of both. -/
theorem Inventory.concepts_insertAll_of_history {i : Inventory} {cs : List Concept}
    (h : i.concepts = firstOccurrences cs) (ds : List Concept) :
    (i.insertAll ds).concepts = firstOccurrences (cs ++ ds) := by
  have hsame : i = ofList cs := ext (h.trans (concepts_ofList cs).symm)
  rw [hsame, ofList, ← insertAll_append]
  exact concepts_ofList _

namespace Request

/-- The tokens that are classified are the sightings, and the link to the source is their
stamp. -/
theorem shown_read (source : String) (l : Language) (fragment : String) (offset : Int) :
    shown source l (.read fragment offset)
      = (l.sightings fragment).map fun s => s.at (stampAt source offset) := by
  rw [← l.filterMap_sighting_readings, List.map_filterMap]
  rfl

theorem history_append (source : String) (l : Language) (rs qs : List Request) :
    history source l (rs ++ qs) = history source l rs ++ history source l qs :=
  List.flatMap_append

theorem history_snapshot (source : String) (l : Language) (rs : List Request) :
    history source l (rs ++ [.snapshot]) = history source l rs := by
  rw [history_append]
  exact List.append_nil _

end Request

namespace Journal

theorem serveAll_append (j : Journal) (rs qs : List Request) :
    j.serveAll (rs ++ qs) = (j.serveAll rs).serveAll qs := List.foldl_append

/-- A snapshot is the inventory of the time, and changes nothing. -/
theorem serve_snapshot (j : Journal) :
    j.serve .snapshot = { j with snapshots := j.snapshots ++ [j.extractor.inventory] } := by
  rw [serve, Extractor.snapshot_eq]

/-- What holds of a journal once it has served some requests. -/
structure Follows (source : String) (l : Language) (rs : List Request) (j : Journal) : Prop where
  source_eq : j.extractor.source = source
  language_eq : j.extractor.language = l
  concepts : j.extractor.inventory.concepts = firstOccurrences (Request.history source l rs)
  counts : j.counts.sum = j.extractor.inventory.size
  held : ∀ i ∈ j.snapshots, i.concepts <+: j.extractor.inventory.concepts
  ordered : j.snapshots.Pairwise fun i k => i.concepts <+: k.concepts

variable {source : String} {l : Language}

theorem follows_start : Follows source l [] (.start source l) where
  source_eq := rfl
  language_eq := rfl
  concepts := rfl
  counts := rfl
  held _ h := absurd h List.not_mem_nil
  ordered := .nil

theorem Follows.shown {rs : List Request} {j : Journal} (h : Follows source l rs j)
    (fragment : String) (offset : Int) :
    j.extractor.shown fragment offset = Request.shown source l (.read fragment offset) := by
  rw [Extractor.shown, h.source_eq, h.language_eq, Request.shown_read]

theorem Follows.serve {rs : List Request} {j : Journal} (h : Follows source l rs j)
    (r : Request) : Follows source l (rs ++ [r]) (j.serve r) := by
  cases r with
  | read fragment offset =>
    exact {
      source_eq := h.source_eq
      language_eq := h.language_eq
      concepts := by
        have hshown : Request.history source l [.read fragment offset]
            = j.extractor.shown fragment offset := by
          rw [h.shown]
          exact List.append_nil _
        rw [Request.history_append, hshown]
        exact Inventory.concepts_insertAll_of_history h.concepts _
      counts := by
        change (j.counts ++ [_]).sum = (j.extractor.read fragment offset).inventory.size
        rw [List.sum_append, h.counts, Extractor.size_read, List.sum_singleton]
      held i hi := (h.held i hi).trans (j.extractor.concepts_prefix_read fragment offset)
      ordered := h.ordered }
  | snapshot =>
    rw [serve_snapshot]
    exact {
      source_eq := h.source_eq
      language_eq := h.language_eq
      concepts := by rw [Request.history_snapshot, h.concepts]
      counts := h.counts
      held i hi := by
        rcases List.mem_append.mp hi with hi | hi
        · exact h.held i hi
        · obtain rfl := List.mem_singleton.mp hi
          exact List.prefix_rfl
      ordered := by
        rw [List.pairwise_append]
        refine ⟨h.ordered, List.pairwise_singleton _ _, ?_⟩
        intro i hi k hk
        rw [List.mem_singleton.mp hk]
        exact h.held i hi }

theorem follows_serveAll {rs : List Request} {j : Journal} (h : Follows source l rs j)
    (qs : List Request) : Follows source l (rs ++ qs) (j.serveAll qs) := by
  induction qs generalizing rs j with
  | nil => rwa [List.append_nil]
  | cons q qs ih =>
    have hrest := ih (h.serve q)
    rwa [List.append_assoc, List.singleton_append] at hrest

theorem snapshots_prefix_serveAll (j : Journal) (rs : List Request) :
    j.snapshots <+: (j.serveAll rs).snapshots := by
  induction rs generalizing j with
  | nil => exact List.prefix_rfl
  | cons r rs ih =>
    refine List.IsPrefix.trans ?_ (ih (j.serve r))
    cases r with
    | read _ _ => exact List.prefix_rfl
    | snapshot => exact List.prefix_append _ _

/-- After any requests the inventory holds the first occurrences of their history,
and the counts add up to its size. One more reading answers by how much the
inventory grows; a snapshot is the inventory itself. Whatever is asked later, the
snapshots taken so far stay as they are, and each is a prefix of those taken
after it and of what is held then. -/
theorem serveAll_history (source : String) (l : Language) (before after : List Request) :
    let early := (Journal.start source l).serveAll before
    let late := (Journal.start source l).serveAll (before ++ after)
    early.extractor.inventory.concepts = firstOccurrences (Request.history source l before)
      ∧ early.counts.sum = early.extractor.inventory.size
      ∧ (∀ fragment offset, ∃ n,
        (early.serve (.read fragment offset)).counts = early.counts ++ [n]
        ∧ (early.serve (.read fragment offset)).extractor.inventory.size
          = early.extractor.inventory.size + n)
      ∧ early.serve .snapshot
        = { early with snapshots := early.snapshots ++ [early.extractor.inventory] }
      ∧ early.snapshots <+: late.snapshots
      ∧ (late.snapshots.Pairwise fun i k => i.concepts <+: k.concepts)
      ∧ ∀ i ∈ late.snapshots, i.concepts <+: late.extractor.inventory.concepts := by
  intro early late
  have hearly : Follows source l before early := follows_serveAll follows_start before
  have hlate : Follows source l (before ++ after) late := follows_serveAll follows_start _
  refine ⟨hearly.concepts, hearly.counts, ?_, early.serve_snapshot, ?_, hlate.ordered,
    hlate.held⟩
  · intro fragment offset
    exact ⟨_, rfl, early.extractor.size_read fragment offset⟩
  · have hsplit : late = early.serveAll after := serveAll_append _ before after
    rw [hsplit]
    exact early.snapshots_prefix_serveAll after

/-- A token seen again keeps its first stamp. -/
example :
    let j := (Journal.start "u" .python).serveAll
      [.read "for x in y:" 3, .snapshot, .read "if for" 7]
    j.extractor.inventory.concepts.map (fun c => (c.token, c.stamp, c.path.names))
        = [("For", "u&t=3", ["Statement", "Iteration", "For"]),
          ("In", "u&t=3", ["Expression", "Membership Operator", "In"]),
          ("If", "u&t=7", ["Statement", "Condition", "If"])]
      ∧ j.counts = [2, 1] ∧ j.snapshots.map Inventory.tokens = [["For", "In"]] := by
  decide +kernel

end Journal

end ConceptInventory
