import ConceptInventory.Findings.Basic
import Mathlib.Algebra.Ring.Nat
import Mathlib.Data.List.Basic
import Mathlib.Data.List.Induction

/-!
# The summary accounts for every concept

Counting names one after another leaves each name once, where it came first, with the
number of times it came. So the lines of a summary below the number of concepts share
that number out among the roots.
-/
namespace ConceptInventory

/-! ## Counting one more name -/

theorem countName_of_not_mem {tally : List (String × Nat)} {name : String}
    (h : name ∉ tally.map Prod.fst) : countName tally name = tally ++ [(name, 1)] := by
  induction tally with
  | nil => rfl
  | cons e tally ih =>
    simp only [List.map_cons, List.mem_cons, not_or] at h
    obtain ⟨hne, hrest⟩ := h
    have hother : (e.1 == name) = false := beq_eq_false_iff_ne.mpr (Ne.symm hne)
    simp only [countName, hother, Bool.false_eq_true, if_false, ih hrest, List.cons_append]

/-- Of a name that is there only the count goes up. -/
theorem countName_map (count : String → Nat) {names : List String} (hnodup : names.Nodup)
    {name : String} (h : name ∈ names) :
    countName (names.map fun n => (n, count n)) name
      = names.map fun n => (n, count n + if name = n then 1 else 0) := by
  induction names with
  | nil => cases h
  | cons n names ih =>
    obtain ⟨hnew, hnodup⟩ := List.nodup_cons.mp hnodup
    by_cases hn : n = name
    · have hothers : ∀ m ∈ names, (m, count m) = (m, count m + if name = m then 1 else 0) := by
        intro m hm
        have hne : name ≠ m := fun he => hnew (hn.trans he ▸ hm)
        simp [hne]
      simp only [List.map_cons, countName, hn, beq_self_eq_true, if_true,
        List.map_congr_left hothers]
    · have hrest : name ∈ names := (List.mem_cons.mp h).resolve_left (Ne.symm hn)
      simp [countName, hn, Ne.symm hn, ih hnodup hrest]

theorem sum_countName (tally : List (String × Nat)) (name : String) :
    ((countName tally name).map Prod.snd).sum = (tally.map Prod.snd).sum + 1 := by
  induction tally with
  | nil => rfl
  | cons e tally ih =>
    by_cases he : e.1 = name
    · simp only [countName, he, beq_self_eq_true, if_true, List.map_cons, List.sum_cons]
      omega
    · simp only [countName, beq_eq_false_iff_ne.mpr he, Bool.false_eq_true, if_false,
        List.map_cons, List.sum_cons, ih]
      omega

/-! ## Counting all names -/

theorem tallyNames_concat (names : List String) (name : String) :
    tallyNames (names ++ [name]) = countName (tallyNames names) name := by
  simp only [tallyNames, List.foldl_append, List.foldl_cons, List.foldl_nil]

/-- A name is new where it comes first, and is left out after that. -/
theorem eraseDups_concat (names : List String) (name : String) :
    (names ++ [name]).eraseDups
      = if name ∈ names then names.eraseDups else names.eraseDups ++ [name] := by
  rw [List.eraseDups_append]
  by_cases h : name ∈ names <;> simp [List.removeAll, List.eraseDups_cons, h]

/-- Each name has its place where it comes first. -/
theorem pairwise_eraseDups (names : List String) :
    names.eraseDups.Pairwise fun m n => names.idxOf m < names.idxOf n := by
  induction names using List.reverseRecOn with
  | nil => exact .nil
  | append_singleton names name ih =>
    have hkept : names.eraseDups.Pairwise
        fun m n => (names ++ [name]).idxOf m < (names ++ [name]).idxOf n := by
      refine ih.imp_of_mem ?_
      intro m n hm hn hlt
      rwa [List.idxOf_append_of_mem (List.mem_eraseDups.mp hm),
        List.idxOf_append_of_mem (List.mem_eraseDups.mp hn)]
    rw [eraseDups_concat]
    by_cases h : name ∈ names
    · rwa [if_pos h]
    · rw [if_neg h, List.pairwise_append]
      refine ⟨hkept, List.pairwise_singleton _ _, ?_⟩
      intro m hm n hn
      obtain rfl := List.mem_singleton.mp hn
      have hm := List.mem_eraseDups.mp hm
      have hlt : names.idxOf m < names.length := List.idxOf_lt_length_of_mem hm
      rw [List.idxOf_append_of_mem hm, List.idxOf_append_of_notMem h]
      omega

theorem nodup_eraseDups (names : List String) : names.eraseDups.Nodup := by
  refine (pairwise_eraseDups names).imp ?_
  intro m n hlt hsame
  rw [hsame] at hlt
  exact Nat.lt_irrefl _ hlt

/-- A tally has each name with its count. The induction is on the names from the last. -/
theorem tallyNames_eq (names : List String) :
    tallyNames names = names.eraseDups.map fun n => (n, names.count n) := by
  induction names using List.reverseRecOn with
  | nil => rfl
  | append_singleton names name ih =>
    have hcount (n : String) :
        (names ++ [name]).count n = names.count n + if name = n then 1 else 0 := by
      simp [List.count_append, List.count_singleton]
    rw [tallyNames_concat, ih, eraseDups_concat]
    simp only [hcount]
    by_cases h : name ∈ names
    · rw [if_pos h, countName_map _ (nodup_eraseDups names) (List.mem_eraseDups.mpr h)]
    · have hkept : ∀ n ∈ names.eraseDups,
          (n, names.count n) = (n, names.count n + if name = n then 1 else 0) := by
        intro n hn
        have hne : name ≠ n := fun he => h (he ▸ List.mem_eraseDups.mp hn)
        simp [hne]
      have hnew : name ∉ (names.eraseDups.map fun n => (n, names.count n)).map Prod.fst := by
        simpa [Function.comp_def] using h
      rw [if_neg h, countName_of_not_mem hnew, List.map_append, List.map_singleton,
        if_pos rfl, List.count_eq_zero.mpr h, List.map_congr_left hkept]

theorem sum_tallyNames (names : List String) :
    ((tallyNames names).map Prod.snd).sum = names.length := by
  induction names using List.reverseRecOn with
  | nil => rfl
  | append_singleton names name ih =>
    rw [tallyNames_concat, sum_countName, ih, List.length_append, List.length_singleton]

/-! ## Roots -/

/-- The tally has each root of a concept once, in order of the first concept below it, with
the number of concepts below it. -/
structure Inventory.SharedOut (i : Inventory) (tally : List (String × Nat)) : Prop where
  listed : ∀ root, root ∈ tally.map Prod.fst ↔ ∃ c ∈ i.concepts, c.path.root = root
  once : (tally.map Prod.fst).Nodup
  inOrder : (tally.map Prod.fst).Pairwise fun root root' =>
    i.concepts.findIdx (fun c => c.path.root == root)
      < i.concepts.findIdx fun c => c.path.root == root'
  counted : ∀ e ∈ tally, e.2 = i.concepts.countP fun c => c.path.root == e.1
  positive : ∀ e ∈ tally, 0 < e.2
  total : (tally.map Prod.snd).sum = i.size

namespace Findings

def rootLine (e : String × Nat) : String := "    " ++ e.1 ++ ": " ++ toString e.2

theorem sharedOut_roots (f : Findings) : f.inventory.SharedOut f.roots := by
  have hroots : f.roots.map Prod.fst
      = (f.inventory.concepts.map fun c => c.path.root).eraseDups := by
    rw [roots, tallyNames_eq, List.map_map]
    exact List.map_id _
  have hplace (root : String) : (f.inventory.concepts.map fun c => c.path.root).idxOf root
      = f.inventory.concepts.findIdx fun c => c.path.root == root := by
    rw [List.idxOf, List.findIdx_map]
    rfl
  have hcounted : ∀ e ∈ f.roots, e.2 = f.inventory.concepts.countP fun c => c.path.root == e.1 := by
    intro e he
    rw [roots, tallyNames_eq] at he
    obtain ⟨root, _, rfl⟩ := List.mem_map.mp he
    rw [List.count, List.countP_map]
    rfl
  have hlisted (root : String) :
      root ∈ f.roots.map Prod.fst ↔ ∃ c ∈ f.inventory.concepts, c.path.root = root := by
    rw [hroots, List.mem_eraseDups, List.mem_map]
  exact {
    listed := hlisted
    once := hroots ▸ nodup_eraseDups _
    inOrder := by
      rw [hroots]
      simpa only [hplace] using pairwise_eraseDups (f.inventory.concepts.map fun c => c.path.root)
    counted := hcounted
    positive := by
      intro e he
      obtain ⟨c, hc, hroot⟩ := (hlisted e.1).mp (List.mem_map_of_mem he)
      rw [hcounted e he]
      exact List.countP_pos_iff.mpr ⟨c, hc, by simp [hroot]⟩
    total := by
      rw [roots, sum_tallyNames, List.length_map]
      rfl }

/-- Below the number of concepts a summary has one line for each root, and what the lines
count adds up to that number. -/
theorem summary_shares_out (f : Findings) :
    ∃ tally, f.inventory.SharedOut tally
      ∧ f.summary = "\n".intercalate
        (["Video '" ++ f.video.hint ++ "'",
          "  Language: " ++ (f.language.map Language.name).getD "unresolved",
          "  Knowledge components: " ++ toString f.inventory.size] ++ tally.map rootLine) :=
  ⟨f.roots, sharedOut_roots f, rfl⟩

end Findings

-- A root keeps the place it had first.
example : tallyNames ["b", "a", "b", "c", "a"] = [("b", 2), ("a", 2), ("c", 1)] := by decide

end ConceptInventory
