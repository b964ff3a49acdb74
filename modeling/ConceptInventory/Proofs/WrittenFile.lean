import ConceptInventory.CommandLine.FileTree

/-!
# The file a run leaves

Writing a file moves no place on the way to it: the directories in front of it are none of
the files, before and after. So what is written at a path is read at it.
-/
namespace ConceptInventory.CommandLine

/-- Where a file is or may be written. -/
def Place.spot? : Place → Option (List String)
  | .file spot _ => some spot
  | .free spot => some spot
  | .closed _ => none

namespace FileTree

variable {t : FileTree}

theorem exists_spot_of_no_obstacle {p : PathName} (h : t.obstacle? p = none) :
    ∃ spot, (t.place p).spot? = some spot ∧
      ∀ content, t.write p content = { t with files := (spot, content) :: t.files } := by
  rw [obstacle?] at h
  cases hplace : t.place p with
  | file spot content => exact ⟨spot, rfl, fun content => by rw [write, hplace]⟩
  | free spot => exact ⟨spot, rfl, fun content => by rw [write, hplace]⟩
  | closed o => simp [hplace] at h

/-- A walk ends at a file, or where no directory is. -/
theorem of_spot_walk {directory parts spot : List String}
    (h : (t.walk directory parts).spot? = some spot) :
    (t.fileAt? spot).isSome = true ∨ t.hasDirectory spot = false := by
  fun_induction walk t directory parts with
  | case1 => cases h
  | case2 directory _ _ _ ih => exact ih h
  | case3 => cases h
  | case4 directory c _ _ _ here content hfile _ =>
    obtain rfl : here = spot := Option.some.inj h
    exact .inl (by rw [hfile]; rfl)
  | case5 => cases h
  | case6 directory c _ _ _ here _ _ ih => exact ih h
  | case7 directory c _ _ _ here _ hdirectory _ =>
    obtain rfl : here = spot := Option.some.inj h
    exact .inr (Bool.eq_false_iff.mpr hdirectory)
  | case8 => cases h

/-- The walk to a file does not pass it, so a new text in it is found at its end. -/
theorem walk_write {directory parts spot : List String}
    (h : (t.walk directory parts).spot? = some spot) (content : String) :
    ({ t with files := (spot, content) :: t.files } : FileTree).walk directory parts
      = .file spot content := by
  have hend := of_spot_walk h
  generalize hafter : ({ t with files := (spot, content) :: t.files } : FileTree) = after
  have hthere : after.fileAt? spot = some content := by
    simp [← hafter, fileAt?]
  have hothers : ∀ here, here ≠ spot → after.fileAt? here = t.fileAt? here := by
    intro here hne
    have hfront : (here == spot) = false := beq_eq_false_iff_ne.mpr hne
    simp only [← hafter, fileAt?, List.lookup_cons, hfront]
  have hdirectories : ∀ here, t.hasDirectory here = true → after.hasDirectory here = true := by
    intro here hdirectory
    simp only [← hafter, hasDirectory, List.any_cons, Bool.or_eq_true] at hdirectory ⊢
    exact hdirectory.imp_right .inr
  fun_induction walk t directory parts with
  | case1 => cases h
  | case2 directory c rest hup ih =>
    simp only [walk, if_pos hup]
    exact ih h
  | case3 => cases h
  | case4 directory c rest hup hname here old hfile hlast =>
    obtain rfl : here = spot := Option.some.inj h
    have hhere : directory ++ [c] = here := rfl
    simp only [walk, if_neg hup, if_neg hname, hhere, hthere, if_pos hlast]
  | case5 => cases h
  | case6 directory c rest hup hname here hfile hdirectory ih =>
    have hne : here ≠ spot := by
      rintro rfl
      rw [hfile, hdirectory] at hend
      simp at hend
    have hhere : directory ++ [c] = here := rfl
    simp only [walk, if_neg hup, if_neg hname, hhere, hothers here hne, hfile,
      if_pos (hdirectories here hdirectory)]
    exact ih h
  | case7 directory c rest hup hname here hfile hdirectory hlast =>
    obtain rfl : here = spot := Option.some.inj h
    have hhere : directory ++ [c] = here := rfl
    simp only [walk, if_neg hup, if_neg hname, hhere, hthere, if_pos hlast]
  | case8 => cases h

/-- The path to a file leads to the new text in it. -/
theorem place_write {p : PathName} {spot : List String} (h : (t.place p).spot? = some spot)
    (content : String) :
    ({ t with files := (spot, content) :: t.files } : FileTree).place p = .file spot content := by
  rw [place] at h ⊢
  by_cases hzero : p.shown.toList.contains '\x00' = true
  · rw [if_pos hzero] at h
    cases h
  · by_cases hlong : 4096 ≤ p.shown.utf8ByteSize
    · rw [if_neg hzero, if_pos hlong] at h
      cases h
    · rw [if_neg hzero, if_neg hlong] at h ⊢
      exact walk_write h content

/-- Trees keep what is written. -/
theorem keeps_system : system.Keeps where
  look_write t p content h := by
    obtain ⟨spot, hspot, hwrite⟩ := exists_spot_of_no_obstacle (t := t) h
    change (t.write p content).look p = .text content
    rw [hwrite, look, place_write hspot]

end FileTree

end ConceptInventory.CommandLine
