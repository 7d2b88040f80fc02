import Mathlib
import LaneScope.Proofs.Kernel.Depth

/-!
Parents and children.  The parent of a kernel is looked up by its grid, its children are searched for among all kernels,
and its depth is worked out by climbing.  Main statement: where every chain of parents ends at a root, the two links and
the depths agree, whatever depths have been asked for, and a walk from the roots along the lists of children comes to
each kernel once.
-/

namespace LaneScope

namespace Launch

variable {launches : List Launch}

/-- Where no launch is above itself, some launch is above no other. -/
theorem exists_childless (nonempty : launches ≠ [])
    (acyclic : ∀ launch ∈ launches, ¬ IsAncestor launches launch launch) :
    ∃ youngest ∈ launches, ∀ launch ∈ launches, ¬ youngest.IsParent launch := by
  let Below (lower upper : { launch // launch ∈ launches }) : Prop := IsAncestor launches upper.1 lower.1
  have : IsTrans _ Below := ⟨fun _ _ _ first second => second.trans first⟩
  have : Std.Irrefl Below := ⟨fun launch => acyclic launch.1 launch.2⟩
  obtain ⟨first, member⟩ := List.exists_mem_of_ne_nil launches nonempty
  obtain ⟨youngest, -, least⟩ :=
    (Finite.wellFounded_of_trans_of_irrefl Below).has_min Set.univ ⟨⟨first, member⟩, trivial⟩
  refine ⟨youngest.1, youngest.2, ?_⟩
  intro launch launchMember isParent
  exact least ⟨launch, launchMember⟩ trivial (.parent youngest.2 isParent)

/-- Launches without a cycle can be put into an order in which they may have been made. -/
theorem exists_forest (nodup : launches.Nodup)
    (distinct : ∀ launch ∈ launches, ∀ other ∈ launches, launch.dev = other.dev → launch.grid = other.grid →
      launch = other)
    (parented : ∀ launch ∈ launches, launch.parent = none ∨ ∃ parent ∈ launches, parent.IsParent launch)
    (acyclic : ∀ launch ∈ launches, ¬ IsAncestor launches launch launch) :
    ∃ made : List Launch, made.Perm launches ∧ Forest made := by
  induction size : launches.length generalizing launches with
  | zero =>
      rw [List.length_eq_zero_iff] at size
      subst size
      exact ⟨[], .nil, .nil⟩
  | succ count ih =>
      obtain ⟨youngest, member, childless⟩ := exists_childless (List.ne_nil_of_length_eq_add_one size) acyclic
      have rest {launch : Launch} : launch ∈ launches.erase youngest ↔ launch ≠ youngest ∧ launch ∈ launches :=
        nodup.mem_erase_iff
      have within : launches.erase youngest ⊆ launches := List.erase_subset
      obtain ⟨made, permuted, forest⟩ : ∃ made : List Launch, made.Perm (launches.erase youngest) ∧ Forest made := by
        apply ih (nodup.erase youngest)
        · intro launch launchMember other otherMember
          exact distinct launch (within launchMember) other (within otherMember)
        · intro launch launchMember
          -- The parent is still there, as the launch that was left out is no parent.
          refine (parented launch (within launchMember)).imp_right ?_
          rintro ⟨parent, parentMember, isParent⟩
          refine ⟨parent, rest.mpr ⟨?_, parentMember⟩, isParent⟩
          rintro rfl
          exact childless launch (within launchMember) isParent
        · intro launch launchMember cycle
          exact acyclic launch (within launchMember) (cycle.mono within)
        · rw [List.length_erase_of_mem member, size, Nat.add_sub_cancel]
      refine ⟨youngest :: made, (permuted.cons youngest).trans (List.perm_cons_erase member).symm, ?_⟩
      refine .cons forest ?_ ?_
      · intro other otherMember dev grid
        obtain ⟨different, registered⟩ := rest.mp (permuted.mem_iff.mp otherMember)
        exact different (distinct other registered youngest member dev grid)
      · refine (parented youngest member).imp_right ?_
        rintro ⟨parent, parentMember, isParent⟩
        refine ⟨parent, permuted.mem_iff.mpr (rest.mpr ⟨?_, parentMember⟩), isParent⟩
        rintro rfl
        exact childless parent member isParent

instance decidableForest : (made : List Launch) → Decidable (Forest made)
  | [] => isTrue .nil
  | launch :: earlier =>
    have := decidableForest earlier
    decidable_of_iff (Forest earlier ∧ (∀ other ∈ earlier, other.dev = launch.dev → other.grid ≠ launch.grid) ∧
        (launch.parent = none ∨ ∃ parent ∈ earlier, parent.IsParent launch)) {
      mp := fun ⟨forest, fresh, rooted⟩ => .cons forest fresh rooted
      mpr := fun | .cons forest fresh rooted => ⟨forest, fresh, rooted⟩
    }

end Launch

namespace KernelTable

structure Rooted (table : KernelTable) : Prop where
  distinct : table.GridsDistinct
  parented : ∀ launch ∈ table.launches, ∀ grid, launch.parent = some grid →
    ∃ parent ∈ table.launches, parent.dev = launch.dev ∧ parent.grid = grid
  acyclic : ∀ launch ∈ table.launches, ¬ Launch.IsAncestor table.launches launch launch

def HasHeight (table : KernelTable) (launch : Launch) (height : Nat) : Prop :=
  ∃ above : List Launch, above.Nodup ∧ (∀ other, other ∈ above ↔ Launch.IsAncestor table.launches other launch) ∧
    above.length = height

def KeepsHeights (table : KernelTable) : Prop :=
  ∀ kernel ∈ table.kernels, ∀ depth, kernel.depth = some depth → table.HasHeight kernel.launch depth

def roots (table : KernelTable) : List Kernel :=
  table.kernels.filter fun kernel => kernel.launch.parent.isNone

def level (table : KernelTable) : Nat → List Kernel
  | 0 => table.roots
  | steps + 1 => (table.level steps).flatMap table.children

def walk (table : KernelTable) (levels : Nat) : List Kernel :=
  (List.range levels).flatMap table.level

def afterDepths (table : KernelTable) (ids : List KernelId) : KernelTable :=
  ids.foldl (fun table id => table.perform (.depth id)) table

structure LinksAgree (table : KernelTable) : Prop where
  child_iff : ∀ child ∈ table.kernels, ∀ parent ∈ table.kernels,
    child ∈ table.children parent ↔ child.launch.parent.bind (table.findGrid child.dev) = some parent
  parented : ∀ child ∈ table.kernels, child.launch.parent ≠ none →
    ∃! parent, parent ∈ table.kernels ∧ child ∈ table.children parent
  unparented : ∀ root ∈ table.kernels, root.launch.parent = none → ∀ parent, root ∉ table.children parent
  ascending : ∀ parent, (table.children parent).Pairwise fun left right => left.id.toNat < right.id.toNat
  /-- Further levels are empty, so the walk ends by itself. -/
  walked : ∀ levels, table.size ≤ levels → (table.walk levels).Perm table.kernels

structure DepthsAgree (table : KernelTable) : Prop where
  told : ∀ kernel ∈ table.kernels, ∃ depth after, table.depth kernel = .ok (depth, after) ∧
    table.HasHeight kernel.launch depth ∧ depth < table.size
  level : ∀ kernel ∈ table.kernels, ∀ depth after, table.depth kernel = .ok (depth, after) →
    ∀ steps, kernel ∈ table.level steps ↔ steps = depth
  child : ∀ parent ∈ table.kernels, ∀ child ∈ table.children parent, ∃ depth above below,
    table.depth parent = .ok (depth, above) ∧ table.depth child = .ok (depth + 1, below)

variable {table : KernelTable} {kernel parent child : Kernel} {made : List Launch} {launch : Launch}

theorem mem_children :
    child ∈ table.children parent ↔ child ∈ table.kernels ∧ parent.launch.IsParent child.launch := by
  simp only [children, List.mem_filter, Bool.and_eq_true, beq_iff_eq, Launch.IsParent, Kernel.dev, Kernel.grid]
  exact and_congr_right fun _ => and_congr_left fun _ => eq_comm

theorem children_ascending (table : KernelTable) (parent : Kernel) :
    (table.children parent).Pairwise fun left right => left.id.toNat < right.id.toNat :=
  table.ascending.filter _

theorem children_nodup (table : KernelTable) (parent : Kernel) : (table.children parent).Nodup :=
  table.kernels_nodup.filter _

/-- Whether launches are those of the table, in an order in which they may have been made. -/
structure Unfolds (table : KernelTable) (made : List Launch) : Prop where
  forest : Launch.Forest made
  permuted : made.Perm table.launches

theorem Rooted.exists_unfolds (rooted : table.Rooted) : ∃ made, table.Unfolds made := by
  obtain ⟨made, permuted, forest⟩ : ∃ made : List Launch, made.Perm table.launches ∧ Launch.Forest made := by
    apply Launch.exists_forest table.launches_nodup
    · intro launch member other otherMember dev grid
      obtain ⟨kernel, kernelMember, rfl⟩ := mem_launches.mp otherMember
      exact eq_launch_of_id_eq member kernelMember (rooted.distinct launch member _ otherMember dev grid)
    · intro launch member
      cases child : launch.parent with
      | none => exact .inl rfl
      | some grid =>
          obtain ⟨parent, parentMember, dev, rfl⟩ := rooted.parented launch member grid child
          exact .inr ⟨parent, parentMember, dev, child⟩
    · exact rooted.acyclic
  exact ⟨made, forest, permuted⟩

namespace Unfolds

theorem mem_iff (unfolds : table.Unfolds made) : launch ∈ made ↔ launch ∈ table.launches :=
  unfolds.permuted.mem_iff

theorem mem (unfolds : table.Unfolds made) (member : kernel ∈ table.kernels) : kernel.launch ∈ made :=
  unfolds.mem_iff.mpr (launch_mem_launches member)

theorem isAncestor_iff (unfolds : table.Unfolds made) {other : Launch} :
    Launch.IsAncestor table.launches other launch ↔ other ∈ launch.ancestors made := by
  rw [unfolds.forest.mem_ancestors]
  exact ⟨fun above => above.mono unfolds.permuted.symm.subset, fun above => above.mono unfolds.permuted.subset⟩

theorem hasHeight_iff (unfolds : table.Unfolds made) {height : Nat} :
    table.HasHeight launch height ↔ height = (launch.ancestors made).length := by
  have distinct := unfolds.forest.nodup.sublist (launch.ancestors_sublist made)
  constructor
  · rintro ⟨above, nodup, mem_above, rfl⟩
    apply List.Perm.length_eq
    rw [List.perm_ext_iff_of_nodup nodup distinct]
    intro other
    rw [mem_above, unfolds.isAncestor_iff]
  · rintro rfl
    exact ⟨launch.ancestors made, distinct, fun _ => unfolds.isAncestor_iff.symm, rfl⟩

theorem gridsDistinct (unfolds : table.Unfolds made) : table.GridsDistinct := by
  intro launch member other otherMember dev grid
  rw [unfolds.forest.eq_of_grid_eq (unfolds.mem_iff.mpr member) (unfolds.mem_iff.mpr otherMember) dev grid]

theorem exists_parent (unfolds : table.Unfolds made) (member : kernel ∈ table.kernels)
    (parented : kernel.launch.parent ≠ none) : ∃ parent ∈ table.kernels, parent.launch.IsParent kernel.launch := by
  obtain ⟨grid, child⟩ := Option.ne_none_iff_exists'.mp parented
  obtain ⟨launch, launchMember, isParent⟩ := unfolds.forest.exists_parent (unfolds.mem member) child
  obtain ⟨parent, parentMember, rfl⟩ := mem_launches.mp (unfolds.mem_iff.mp launchMember)
  exact ⟨parent, parentMember, isParent⟩

theorem parent_unique (unfolds : table.Unfolds made) {other : Kernel} (member : parent ∈ table.kernels)
    (otherMember : other ∈ table.kernels) (isParent : parent.launch.IsParent launch)
    (also : other.launch.IsParent launch) : parent = other := by
  apply eq_of_id_eq member otherMember
  apply unfolds.gridsDistinct _ (launch_mem_launches member) _ (launch_mem_launches otherMember)
  · exact isParent.1.trans also.1.symm
  · exact Option.some.inj (isParent.2.symm.trans also.2)

theorem ancestors_of_child (unfolds : table.Unfolds made) (member : parent ∈ table.kernels)
    (isParent : parent.launch.IsParent launch) :
    launch.ancestors made = parent.launch :: parent.launch.ancestors made :=
  unfolds.forest.ancestors_of_parent (unfolds.mem member) isParent

theorem ancestors_length_lt (unfolds : table.Unfolds made) (member : kernel ∈ table.kernels) :
    (kernel.launch.ancestors made).length < table.size := by
  rw [size_eq_length_launches, ← unfolds.permuted.length_eq]
  exact (unfolds.forest.cons_ancestors_sublist (unfolds.mem member)).length_le

theorem mem_children_iff (unfolds : table.Unfolds made) (member : child ∈ table.kernels)
    (parentMember : parent ∈ table.kernels) : child ∈ table.children parent ↔
      child.launch.parent.bind (table.findGrid child.dev) = some parent := by
  rw [mem_children, Option.bind_eq_some_iff]
  constructor
  · rintro ⟨-, dev, same⟩
    exact ⟨parent.launch.grid, same, (findGrid_eq_some unfolds.gridsDistinct).mpr ⟨parentMember, dev, rfl⟩⟩
  · rintro ⟨grid, same, found⟩
    obtain ⟨-, dev, rfl⟩ := (findGrid_eq_some unfolds.gridsDistinct).mp found
    exact ⟨member, dev, same⟩

/-- The way down to a kernel is as long as the way up. -/
theorem mem_level_iff (unfolds : table.Unfolds made) {steps : Nat} : kernel ∈ table.level steps ↔
    kernel ∈ table.kernels ∧ (kernel.launch.ancestors made).length = steps := by
  induction steps generalizing kernel with
  | zero =>
      rw [level, roots, List.mem_filter, Option.isNone_iff_eq_none]
      refine and_congr_right fun member => ⟨fun root => ?_, fun top => ?_⟩
      · rw [Launch.ancestors_eq_nil root, List.length_nil]
      · by_contra parented
        obtain ⟨parent, parentMember, isParent⟩ := unfolds.exists_parent member parented
        simp [unfolds.ancestors_of_child parentMember isParent] at top
  | succ steps ih =>
      rw [level, List.mem_flatMap]
      constructor
      · rintro ⟨parent, reached, isChild⟩
        obtain ⟨parentMember, height⟩ := ih.mp reached
        obtain ⟨member, isParent⟩ := mem_children.mp isChild
        refine ⟨member, ?_⟩
        rw [unfolds.ancestors_of_child parentMember isParent, List.length_cons, height]
      · rintro ⟨member, height⟩
        have parented : kernel.launch.parent ≠ none := by
          intro root
          simp [Launch.ancestors_eq_nil root] at height
        obtain ⟨parent, parentMember, isParent⟩ := unfolds.exists_parent member parented
        rw [unfolds.ancestors_of_child parentMember isParent, List.length_cons] at height
        exact ⟨parent, ih.mpr ⟨parentMember, Nat.succ.inj height⟩, mem_children.mpr ⟨member, isParent⟩⟩

theorem level_nodup (unfolds : table.Unfolds made) (steps : Nat) : (table.level steps).Nodup := by
  induction steps with
  | zero => exact table.kernels_nodup.filter _
  | succ steps ih =>
      rw [level, List.nodup_flatMap]
      refine ⟨fun parent _ => table.children_nodup parent, ?_⟩
      -- No kernel is a child of two kernels of the level.
      apply ih.pairwise_of_forall_ne
      intro parent reached other otherReached different child isChild otherChild
      apply different
      exact unfolds.parent_unique (unfolds.mem_level_iff.mp reached).1 (unfolds.mem_level_iff.mp otherReached).1
        (mem_children.mp isChild).2 (mem_children.mp otherChild).2

theorem walk_perm (unfolds : table.Unfolds made) {levels : Nat} (enough : table.size ≤ levels) :
    (table.walk levels).Perm table.kernels := by
  have nodup : (table.walk levels).Nodup := by
    rw [walk, List.nodup_flatMap]
    refine ⟨fun steps _ => unfolds.level_nodup steps, ?_⟩
    apply List.nodup_range.pairwise_of_forall_ne
    intro steps _ other _ different kernel reached otherReached
    exact different ((unfolds.mem_level_iff.mp reached).2.symm.trans (unfolds.mem_level_iff.mp otherReached).2)
  rw [List.perm_ext_iff_of_nodup nodup table.kernels_nodup]
  intro kernel
  rw [walk, List.mem_flatMap]
  constructor
  · rintro ⟨steps, -, reached⟩
    exact (unfolds.mem_level_iff.mp reached).1
  · intro member
    have deep := unfolds.ancestors_length_lt member
    exact ⟨_, List.mem_range.mpr (Nat.lt_of_lt_of_le deep enough), unfolds.mem_level_iff.mpr ⟨member, rfl⟩⟩

theorem linksAgree (unfolds : table.Unfolds made) : table.LinksAgree := by
  refine ⟨?_, ?_, ?_, ?_, ?_⟩
  · intro child member parent parentMember
    exact unfolds.mem_children_iff member parentMember
  · intro child member parented
    obtain ⟨parent, parentMember, isParent⟩ := unfolds.exists_parent member parented
    refine ⟨parent, ⟨parentMember, mem_children.mpr ⟨member, isParent⟩⟩, ?_⟩
    rintro other ⟨otherMember, isChild⟩
    exact unfolds.parent_unique otherMember parentMember (mem_children.mp isChild).2 isParent
  · intro root _ unparented parent isChild
    have isParent := (mem_children.mp isChild).2
    rw [Launch.IsParent, unparented] at isParent
    simp at isParent
  · intro parent
    exact table.children_ascending parent
  · intro levels enough
    exact unfolds.walk_perm enough

theorem sound (unfolds : table.Unfolds made) (keeps : table.KeepsHeights) : table.Sound made where
  forest := unfolds.forest
  registered := fun _ => unfolds.mem_iff.mpr
  memo := fun kernel member depth known => unfolds.hasHeight_iff.mp (keeps kernel member depth known)

/-- Every parent is registered, so no climb comes to one that is missing. -/
theorem not_strands (unfolds : table.Unfolds made) {fault : DepthFault} : ¬ table.Strands made kernel fault := by
  intro strands
  induction strands with
  | here _ removedMember _ absent => exact absent (unfolds.mem_iff.mp removedMember)
  | up _ _ _ _ ih => exact ih

theorem depth_eq_ok_iff (unfolds : table.Unfolds made) (sound : table.Sound made) (member : kernel ∈ table.kernels)
    {depth : Nat} : (∃ after, table.depth kernel = .ok (depth, after)) ↔
      depth = (kernel.launch.ancestors made).length := by
  constructor
  · rintro ⟨after, told⟩
    exact sound.of_depth member told
  · rintro rfl
    cases told : table.depth kernel with
    | error fault => exact (unfolds.not_strands (sound.strands_of_depth member told)).elim
    | ok answer =>
        obtain ⟨depth, after⟩ := answer
        obtain rfl := sound.of_depth member told
        exact ⟨after, rfl⟩

theorem depthsAgree (unfolds : table.Unfolds made) (sound : table.Sound made) : table.DepthsAgree := by
  refine ⟨?_, ?_, ?_⟩
  · intro kernel member
    obtain ⟨after, told⟩ := (unfolds.depth_eq_ok_iff sound member).mpr rfl
    exact ⟨_, after, told, unfolds.hasHeight_iff.mpr rfl, unfolds.ancestors_length_lt member⟩
  · intro kernel member depth after told steps
    rw [unfolds.mem_level_iff, (unfolds.depth_eq_ok_iff sound member).mp ⟨after, told⟩]
    exact ⟨fun reached => reached.2.symm, fun same => ⟨member, same.symm⟩⟩
  · intro parent parentMember child isChild
    obtain ⟨member, isParent⟩ := mem_children.mp isChild
    obtain ⟨above, told⟩ := (unfolds.depth_eq_ok_iff sound parentMember).mpr rfl
    obtain ⟨below, childTold⟩ := (unfolds.depth_eq_ok_iff sound member).mpr rfl
    rw [unfolds.ancestors_of_child parentMember isParent, List.length_cons] at childTold
    exact ⟨_, above, below, told, childTold⟩

/-- Launches in an order in which they were made have no cycles. -/
theorem rooted (unfolds : table.Unfolds made) : table.Rooted := by
  refine ⟨unfolds.gridsDistinct, ?_, ?_⟩
  · intro launch member grid child
    obtain ⟨parent, parentMember, dev, same⟩ := unfolds.forest.exists_parent (unfolds.mem_iff.mpr member) child
    exact ⟨parent, unfolds.mem_iff.mp parentMember, dev, Option.some.inj (same.symm.trans child)⟩
  · intro launch member cycle
    exact unfolds.forest.not_isAncestor_self (unfolds.mem_iff.mpr member) (cycle.mono unfolds.permuted.symm.subset)

end Unfolds

theorem launches_learn (table : KernelTable) (learnt : List (KernelId × Nat)) :
    (table.learn learnt).launches = table.launches :=
  launches_eq_of_keptExtents_eq (keptExtents_foldl _ (fun table _ => table.keptExtents_setDepth _ _) learnt table)

theorem launches_perform_depth (table : KernelTable) (id : KernelId) :
    (table.perform (.depth id)).launches = table.launches := by
  rcases table.perform_depth id with same | ⟨kernel, -, depth, learnt, -, learns⟩
  · rw [same]
  · rw [learns, launches_learn]

theorem launches_afterDepths (table : KernelTable) (ids : List KernelId) :
    (table.afterDepths ids).launches = table.launches := by
  induction ids generalizing table with
  | nil => rfl
  | cons id ids ih => exact (ih _).trans (table.launches_perform_depth id)

theorem Sound.afterDepths (sound : table.Sound made) (ids : List KernelId) : (table.afterDepths ids).Sound made := by
  induction ids generalizing table with
  | nil => exact sound
  | cons id ids ih => exact ih (sound.perform_depth id)

/-- A climb stops at a kept depth, or learns about its start and then what a climb from the parent learns. -/
theorem climb_learns {steps depth : Nat} {learnt : List (KernelId × Nat)}
    (climbed : table.climb (steps + 1) kernel = .ok (depth, learnt)) :
    learnt = [] ∨ kernel.depth = none ∧ ∃ above, learnt = (kernel.id, depth) :: above ∧
      (above = [] ∨ ∃ parent ∈ table.kernels, ∃ height, table.climb steps parent = .ok (height, above)) := by
  cases known : kernel.depth with
  | some kept =>
      simp only [climb, known] at climbed
      exact .inl (Prod.mk.inj (Except.ok.inj climbed)).2.symm
  | none =>
      refine .inr ⟨rfl, ?_⟩
      cases child : kernel.launch.parent with
      | none =>
          simp only [climb, known, child] at climbed
          obtain ⟨rfl, rfl⟩ := Prod.mk.inj (Except.ok.inj climbed)
          exact ⟨[], rfl, .inl rfl⟩
      | some grid =>
          cases found : table.findGrid kernel.dev grid with
          | none => simp [climb, known, child, found] at climbed
          | some parent =>
              cases told : table.climb steps parent with
              | error fault => simp [climb, known, child, found, told] at climbed
              | ok answer =>
                  simp only [climb, known, child, found, told] at climbed
                  obtain ⟨rfl, rfl⟩ := Prod.mk.inj (Except.ok.inj climbed)
                  exact ⟨_, rfl, .inr ⟨parent, List.mem_of_find?_eq_some found, _, told⟩⟩

/-- A climb learns nothing about kernels whose depth is kept already. -/
theorem unlearnt_of_known {steps depth kept : Nat} {learnt : List (KernelId × Nat)} (member : kernel ∈ table.kernels)
    (known : kernel.depth = some kept) {start : Kernel} (startMember : start ∈ table.kernels)
    (climbed : table.climb steps start = .ok (depth, learnt)) (value : Nat) : (kernel.id, value) ∉ learnt := by
  induction steps generalizing start depth learnt with
  | zero => simp [climb] at climbed
  | succ steps ih =>
      rcases climb_learns climbed with rfl | ⟨unknown, above, rfl, further⟩
      · exact List.not_mem_nil
      · rw [List.mem_cons, Prod.mk.injEq]
        rintro (⟨same, -⟩ | later)
        · rw [eq_of_id_eq member startMember same, unknown] at known
          contradiction
        · rcases further with rfl | ⟨parent, parentMember, height, told⟩
          · exact List.not_mem_nil later
          · exact ih parentMember told later

theorem mem_learn_of_unlearnt {learnt : List (KernelId × Nat)} (member : kernel ∈ table.kernels)
    (unlearnt : ∀ value, (kernel.id, value) ∉ learnt) : kernel ∈ (table.learn learnt).kernels := by
  induction learnt generalizing table with
  | nil => exact member
  | cons fact learnt ih =>
      apply ih
      · refine List.mem_map.mpr ⟨kernel, member, if_neg ?_⟩
        rintro same
        exact unlearnt fact.2 (same ▸ List.mem_cons_self)
      · intro value later
        exact unlearnt value (List.mem_cons_of_mem _ later)

theorem mem_afterDepths {depth : Nat} (member : kernel ∈ table.kernels) (known : kernel.depth = some depth)
    (ids : List KernelId) : kernel ∈ (table.afterDepths ids).kernels := by
  induction ids generalizing table with
  | nil => exact member
  | cons id ids ih =>
      apply ih
      change kernel ∈ (table.perform (.depth id)).kernels
      rcases table.perform_depth id with same | ⟨start, startMember, above, learnt, climbed, learns⟩
      · rwa [same]
      · rw [learns]
        exact mem_learn_of_unlearnt member (unlearnt_of_known member known startMember climbed)

theorem HasHeight.congr {other : KernelTable} {height : Nat} (tall : other.HasHeight launch height)
    (same : other.launches = table.launches) : table.HasHeight launch height := by
  rw [HasHeight, ← same]
  exact tall

theorem DepthsAgree.keepsHeights {ids : List KernelId} (agree : (table.afterDepths ids).DepthsAgree) :
    table.KeepsHeights := by
  intro kernel member kept known
  have later := mem_afterDepths member known ids
  obtain ⟨depth, after, told, tall, -⟩ := agree.told kernel later
  rw [depth_of_known later known] at told
  obtain ⟨rfl, -⟩ := Prod.mk.inj (Except.ok.inj told)
  exact tall.congr (table.launches_afterDepths ids)

/-- The links agree in any case, and the depths too unless a depth is kept from before that is not true any more. -/
theorem Rooted.agree_afterDepths (rooted : table.Rooted) (ids : List KernelId) :
    (table.afterDepths ids).launches = table.launches ∧ (table.afterDepths ids).LinksAgree ∧
      ((table.afterDepths ids).DepthsAgree ↔ table.KeepsHeights) := by
  have same := table.launches_afterDepths ids
  obtain ⟨made, unfolds⟩ := rooted.exists_unfolds
  have still : (table.afterDepths ids).Unfolds made := ⟨unfolds.forest, same ▸ unfolds.permuted⟩
  refine ⟨same, still.linksAgree, DepthsAgree.keepsHeights, ?_⟩
  intro keeps
  exact still.depthsAgree ((unfolds.sound keeps).afterDepths ids)

def registration (dev : Ordinal) (kernel : KernelId) (grid : GridId) (parent : Option GridId) : TableStep :=
  .insert { kernel, dev, grid, moduleId := 1, entry := 0x40, gridDim := ⟨1, 1, 1⟩, blockDim := ⟨1, 1, 1⟩,
            clusterDim := .zero, type := .application, origin := if parent.isNone then .cpu else .gpu, parent } none

/-- Two devices with kernels of the same grids, those of the deeper one registered last but numbered first. -/
def twinned : TableHistory :=
  [registration 0 1 30 (some 20), registration 0 2 20 (some 10), registration 1 6 20 (some 10),
    registration 1 5 10 none, registration 0 4 10 none]

theorem twinned_unfolds : twinned.table.Unfolds twinned.made :=
  ⟨by decide, by decide⟩

theorem twinned_agrees :
    ((twinned.table.afterDepths [2, 6]).walk 5).map Kernel.id = [4, 5, 2, 6, 1] ∧
      ((twinned.table.afterDepths [2, 6]).find? 1).map
        (fun kernel => ((twinned.table.afterDepths [2, 6]).depth kernel).map Prod.fst) = some (.ok 2) ∧
      twinned.table.Rooted ∧ (twinned.table.afterDepths [2, 6]).LinksAgree ∧
      (twinned.table.afterDepths [2, 6]).DepthsAgree := by
  obtain ⟨-, links, depths⟩ := Rooted.agree_afterDepths twinned_unfolds.rooted [2, 6]
  refine ⟨by cbv, by cbv, twinned_unfolds.rooted, links, depths.mpr ?_⟩
  intro kernel member depth known
  have unknown : ∀ kernel ∈ twinned.table.kernels, kernel.depth = none := by decide
  rw [unknown kernel member] at known
  contradiction

/-- The grid above a kernel with a known depth is taken up anew, one level further down. -/
def reused : TableHistory :=
  [registration 0 2 10 (some 30), registration 0 1 30 none, .erase 2, .depth 3, registration 0 3 20 (some 10),
    registration 0 2 10 none]

theorem reused_disagrees :
    reused.table.Rooted ∧
      (reused.table.find? 2).map (fun parent =>
        ((reused.table.children parent).map Kernel.id, (reused.table.depth parent).map Prod.fst)) =
          some ([3], .ok 1) ∧
      (reused.table.find? 3).map (fun child => (reused.table.depth child).map Prod.fst) = some (.ok 1) := by
  have unfolds : reused.table.Unfolds reused.table.launches.reverse := ⟨by decide, List.reverse_perm _⟩
  exact ⟨unfolds.rooted, by cbv, by cbv⟩

end KernelTable

end LaneScope
