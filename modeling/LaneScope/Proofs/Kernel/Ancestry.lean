import LaneScope.Kernel.Basic

/-!
The forest of launches.  A kernel is launched from the host, or from the device by a kernel that is registered at the
time, so each launch has at most one parent among the launches before it.  The launches above one do not change with
later launches.
-/

namespace LaneScope

namespace Launch

def IsParent (parent launch : Launch) : Prop :=
  parent.dev = launch.dev ∧ launch.parent = some parent.grid

instance (parent launch : Launch) : Decidable (parent.IsParent launch) :=
  inferInstanceAs (Decidable (_ ∧ _))

/-- The launches above a launch, the nearest first, among given launches, the latest first. -/
def ancestors (launch : Launch) : List Launch → List Launch
  | [] => []
  | latest :: earlier =>
    if latest.IsParent launch then latest :: latest.ancestors earlier else launch.ancestors earlier

inductive IsAncestor (made : List Launch) : Launch → Launch → Prop
  | parent {parent launch : Launch} : parent ∈ made → parent.IsParent launch → IsAncestor made parent launch
  | above {ancestor parent launch : Launch} : IsAncestor made ancestor parent → parent ∈ made →
      parent.IsParent launch → IsAncestor made ancestor launch

inductive Forest : List Launch → Prop
  | nil : Forest []
  | cons {launch : Launch} {earlier : List Launch} (forest : Forest earlier)
      (fresh : ∀ other ∈ earlier, other.dev = launch.dev → other.grid ≠ launch.grid)
      (rooted : launch.parent = none ∨ ∃ parent ∈ earlier, parent.IsParent launch) : Forest (launch :: earlier)

variable {launch parent other latest : Launch} {made earlier later : List Launch}

theorem ancestors_of_not_isParent (apart : ¬ latest.IsParent launch) :
    launch.ancestors (latest :: earlier) = launch.ancestors earlier :=
  if_neg apart

theorem ancestors_eq_nil (root : launch.parent = none) : launch.ancestors made = [] := by
  induction made with
  | nil => rfl
  | cons latest earlier ih => rw [ancestors_of_not_isParent (by simp [IsParent, root]), ih]

theorem ancestors_sublist (launch : Launch) (made : List Launch) : (launch.ancestors made).Sublist made := by
  induction made generalizing launch with
  | nil => exact .slnil
  | cons latest earlier ih =>
      rw [ancestors]
      split
      · exact (ih latest).cons_cons latest
      · exact (ih launch).cons latest

namespace IsAncestor

theorem mono (ancestor : IsAncestor earlier other launch) (within : earlier ⊆ made) :
    IsAncestor made other launch := by
  induction ancestor with
  | parent member isParent => exact .parent (within member) isParent
  | above _ member isParent ih => exact .above ih (within member) isParent

theorem trans {ancestor : Launch} (upper : IsAncestor made ancestor other) (lower : IsAncestor made other launch) :
    IsAncestor made ancestor launch := by
  induction lower with
  | parent member isParent => exact .above upper member isParent
  | above _ member isParent ih => exact .above ih member isParent

theorem of_mem_ancestors (member : other ∈ launch.ancestors made) : IsAncestor made other launch := by
  induction made generalizing launch with
  | nil => simp [ancestors] at member
  | cons latest earlier ih =>
      rw [ancestors] at member
      split at member
      · rename_i isParent
        rcases List.mem_cons.mp member with rfl | above
        · exact .parent List.mem_cons_self isParent
        · exact .above ((ih above).mono (List.subset_cons_self latest earlier)) List.mem_cons_self isParent
      · exact (ih member).mono (List.subset_cons_self latest earlier)

end IsAncestor

namespace Forest

theorem of_cons (forest : Forest (latest :: earlier)) : Forest earlier := by
  cases forest with
  | cons forest fresh rooted => exact forest

theorem of_append (forest : Forest (later ++ earlier)) : Forest earlier := by
  induction later with
  | nil => exact forest
  | cons latest later ih => exact ih forest.of_cons

theorem eq_of_grid_eq (forest : Forest made) (member : launch ∈ made) (otherMember : other ∈ made)
    (dev : launch.dev = other.dev) (grid : launch.grid = other.grid) : launch = other := by
  induction forest with
  | nil => simp at member
  | cons forest fresh rooted ih =>
      rcases List.mem_cons.mp member with rfl | before
      · rcases List.mem_cons.mp otherMember with rfl | otherBefore
        · rfl
        · exact (fresh other otherBefore dev.symm grid.symm).elim
      · rcases List.mem_cons.mp otherMember with rfl | otherBefore
        · exact (fresh launch before dev grid).elim
        · exact ih before otherBefore

theorem nodup (forest : Forest made) : made.Nodup := by
  induction forest with
  | nil => exact .nil
  | cons forest fresh rooted ih =>
      refine List.nodup_cons.mpr ⟨?_, ih⟩
      intro member
      exact fresh _ member rfl rfl

theorem exists_parent (forest : Forest made) (member : launch ∈ made) {grid : GridId}
    (child : launch.parent = some grid) : ∃ parent ∈ made, parent.IsParent launch := by
  induction forest with
  | nil => simp at member
  | cons forest fresh rooted ih =>
      rcases List.mem_cons.mp member with rfl | before
      · rcases rooted with root | ⟨parent, parentMember, isParent⟩
        · simp [root] at child
        · exact ⟨parent, List.mem_cons_of_mem _ parentMember, isParent⟩
      · obtain ⟨parent, parentMember, isParent⟩ := ih before
        exact ⟨parent, List.mem_cons_of_mem _ parentMember, isParent⟩

/-- A new launch is no parent of the launches before it, nor of itself. -/
theorem not_isParent (forest : Forest (latest :: earlier)) (member : launch ∈ latest :: earlier) :
    ¬ latest.IsParent launch := by
  cases forest with
  | cons forest fresh rooted =>
      intro isParent
      have parented : ∃ parent ∈ earlier, parent.IsParent launch := by
        rcases List.mem_cons.mp member with rfl | before
        · rcases rooted with root | parented
          · simp [IsParent, root] at isParent
          · exact parented
        · exact forest.exists_parent before isParent.2
      obtain ⟨parent, parentMember, dev, grid⟩ := parented
      apply fresh parent parentMember (dev.trans isParent.1.symm)
      exact Option.some.inj (grid.symm.trans isParent.2)

theorem ancestors_of_parent (forest : Forest made) (member : parent ∈ made) (isParent : parent.IsParent launch) :
    launch.ancestors made = parent :: parent.ancestors made := by
  induction made with
  | nil => simp at member
  | cons latest earlier ih =>
      rw [ancestors_of_not_isParent (forest.not_isParent member)]
      rcases List.mem_cons.mp member with rfl | before
      · exact if_pos isParent
      · cases forest with
        | cons forest fresh rooted =>
            rw [ancestors_of_not_isParent, ih forest before]
            intro also
            apply fresh parent before (isParent.1.trans also.1.symm)
            exact Option.some.inj (isParent.2.symm.trans also.2)

theorem mem_ancestors (forest : Forest made) : other ∈ launch.ancestors made ↔ IsAncestor made other launch := by
  constructor
  · exact IsAncestor.of_mem_ancestors
  · intro ancestor
    induction ancestor with
    | parent member isParent =>
        rw [forest.ancestors_of_parent member isParent]
        exact List.mem_cons_self
    | above _ member isParent ih =>
        rw [forest.ancestors_of_parent member isParent]
        exact List.mem_cons_of_mem _ ih

/-- A launch and the launches above it are among the launches made, each once. -/
theorem cons_ancestors_sublist (forest : Forest made) (member : launch ∈ made) :
    (launch :: launch.ancestors made).Sublist made := by
  induction made with
  | nil => simp at member
  | cons latest earlier ih =>
      rw [ancestors_of_not_isParent (forest.not_isParent member)]
      rcases List.mem_cons.mp member with rfl | before
      · exact (ancestors_sublist launch earlier).cons_cons launch
      · exact (ih forest.of_cons before).cons latest

theorem not_isAncestor_self (forest : Forest made) (member : launch ∈ made) : ¬ IsAncestor made launch launch := by
  rw [← forest.mem_ancestors]
  have distinct := forest.nodup.sublist (forest.cons_ancestors_sublist member)
  exact (List.nodup_cons.mp distinct).1

theorem ancestors_append (forest : Forest (later ++ earlier)) (member : launch ∈ earlier) :
    launch.ancestors (later ++ earlier) = launch.ancestors earlier := by
  induction later with
  | nil => rfl
  | cons latest later ih =>
      rw [List.cons_append, ancestors_of_not_isParent, ih forest.of_cons]
      exact forest.not_isParent (List.mem_append_right (latest :: later) member)

end Forest

end Launch

end LaneScope
