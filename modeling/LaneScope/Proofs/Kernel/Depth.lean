import Mathlib
import LaneScope.Kernel.Depth
import LaneScope.Proofs.Kernel.Ancestry
import LaneScope.Proofs.Kernel.Table

/-!
Depths over time.  Depths are worked out lazily, through the kernels that are registered at the time, and each climb
keeps what it has learnt.  Main statement: in every run, a depth that is told is the number of launches above the
kernel, it stays the same from then on, and a climb fails only at a parent that was taken off the table.
-/

namespace LaneScope

inductive TableStep where
  | insert (launch : Launch) (symbol : Option String)
  | erase (id : KernelId)
  | invalidateAll
  | depth (id : KernelId)

/-- The table after a step.  It stays as it is where a depth cannot be told. -/
def KernelTable.perform (table : KernelTable) : TableStep → KernelTable
  | .insert launch symbol => table.insert (.ofLaunch launch symbol)
  | .erase id => table.erase id
  | .invalidateAll => table.invalidateAll
  | .depth id =>
    match (table.find? id).map table.depth with
    | some (.ok (_, after)) => after
    | some (.error _) | none => table

/-- The steps made on a table that was empty, the latest first. -/
abbrev TableHistory := List TableStep

namespace TableHistory

def table : TableHistory → KernelTable
  | [] => .empty
  | step :: earlier => (table earlier).perform step

def made : TableHistory → List Launch
  | [] => []
  | .insert launch _ :: earlier => launch :: made earlier
  | .erase _ :: earlier | .invalidateAll :: earlier | .depth _ :: earlier => made earlier

def Permits (history : TableHistory) : TableStep → Prop
  | .insert launch _ => history.table.find? launch.kernel = none ∧
      (∀ other ∈ history.made, other.dev = launch.dev → other.grid ≠ launch.grid) ∧
      (launch.parent = none ∨ ∃ parent ∈ history.table.launches, parent.IsParent launch)
  | .erase _ | .invalidateAll | .depth _ => True

instance decidablePermits (history : TableHistory) : (step : TableStep) → Decidable (history.Permits step)
  | .insert _ _ => inferInstanceAs (Decidable (_ ∧ _ ∧ _))
  | .erase _ | .invalidateAll | .depth _ => .isTrue trivial

inductive Orderly : TableHistory → Prop
  | start : Orderly []
  | step {history : TableHistory} (orderly : Orderly history) (step : TableStep) (permitted : history.Permits step) :
      Orderly (step :: history)

instance decidableOrderly : (history : TableHistory) → Decidable history.Orderly
  | [] => isTrue .start
  | step :: earlier =>
    have := decidableOrderly earlier
    decidable_of_iff (Orderly earlier ∧ Permits earlier step) {
      mp := fun ⟨orderly, permitted⟩ => .step orderly step permitted
      mpr := fun | .step orderly _ permitted => ⟨orderly, permitted⟩
    }

end TableHistory

namespace KernelTable

/-- Whether a climb from a kernel comes to a parent that was taken off the table, past no root and no known depth. -/
inductive Strands (table : KernelTable) (made : List Launch) : Kernel → DepthFault → Prop
  | here {kernel : Kernel} {removed : Launch} : kernel.depth = none → removed ∈ made →
      removed.IsParent kernel.launch → removed ∉ table.launches →
      Strands table made kernel (.missingParent kernel.id removed.grid kernel.dev)
  | up {kernel parent : Kernel} {fault : DepthFault} : kernel.depth = none → parent ∈ table.kernels →
      parent.launch.IsParent kernel.launch → Strands table made parent fault → Strands table made kernel fault

def Knows (table : KernelTable) (launch : Launch) : Prop :=
  ∀ kernel ∈ table.kernels, kernel.launch = launch → kernel.depth ≠ none

structure Sound (table : KernelTable) (made : List Launch) : Prop where
  forest : Launch.Forest made
  registered : ∀ launch ∈ table.launches, launch ∈ made
  memo : ∀ kernel ∈ table.kernels, ∀ depth, kernel.depth = some depth → depth = (kernel.launch.ancestors made).length

def learn (table : KernelTable) (learnt : List (KernelId × Nat)) : KernelTable :=
  learnt.foldl (fun table (id, depth) => table.setDepth id depth) table

variable {table after : KernelTable} {made : List Launch} {kernel : Kernel} {launch : Launch} {id : KernelId}
  {steps depth : Nat} {learnt : List (KernelId × Nat)} {fault : DepthFault}

theorem depth_eq_ok : table.depth kernel = .ok (depth, after) ↔
    ∃ learnt, table.climb table.size kernel = .ok (depth, learnt) ∧ after = table.learn learnt := by
  rw [KernelTable.depth]
  cases climbed : table.climb table.size kernel with
  | error fault => simp
  | ok told => simp [learn, Prod.ext_iff, eq_comm]

theorem depth_eq_error : table.depth kernel = .error fault ↔ table.climb table.size kernel = .error fault := by
  rw [KernelTable.depth]
  cases table.climb table.size kernel with
  | error fault => simp
  | ok told => simp

theorem depth_of_known (member : kernel ∈ table.kernels) (known : kernel.depth = some depth) :
    table.depth kernel = .ok (depth, table) := by
  refine depth_eq_ok.mpr ⟨[], ?_, rfl⟩
  have size : table.size ≠ 0 := by
    rw [KernelTable.size]
    exact Nat.ne_of_gt (List.length_pos_of_mem member)
  obtain ⟨steps, more⟩ := Nat.exists_eq_succ_of_ne_zero size
  simp only [more, climb, known]

theorem mem_setDepth (member : kernel ∈ (table.setDepth id depth).kernels) :
    ∃ former ∈ table.kernels, former.launch = kernel.launch ∧
      (former.id = id ∧ kernel.depth = some depth ∨ former.id ≠ id ∧ kernel.depth = former.depth) := by
  obtain ⟨former, formerMember, rfl⟩ := List.mem_map.mp member
  refine ⟨former, formerMember, ?_⟩
  by_cases same : former.id = id
  · simp [same]
  · simp [same]

theorem mem_learn (member : kernel ∈ (table.learn learnt).kernels) :
    ∃ former ∈ table.kernels, former.launch = kernel.launch ∧
      ((∃ value, (former.id, value) ∈ learnt ∧ kernel.depth = some value) ∨
        (∀ value, (former.id, value) ∉ learnt) ∧ kernel.depth = former.depth) := by
  induction learnt generalizing table with
  | nil => exact ⟨kernel, member, rfl, .inr ⟨by simp, rfl⟩⟩
  | cons fact learnt ih =>
      obtain ⟨id, depth⟩ := fact
      have later : kernel ∈ ((table.setDepth id depth).learn learnt).kernels := member
      obtain ⟨middle, middleMember, launch, told⟩ := ih later
      obtain ⟨former, formerMember, formerLaunch, set⟩ := mem_setDepth middleMember
      have sameId : middle.id = former.id := by
        rw [Kernel.id, Kernel.id, formerLaunch]
      rw [sameId] at told
      refine ⟨former, formerMember, formerLaunch.trans launch, ?_⟩
      rcases told with ⟨value, fact, known⟩ | ⟨unlearnt, kept⟩
      · exact .inl ⟨value, List.mem_cons_of_mem _ fact, known⟩
      · rcases set with ⟨rfl, now⟩ | ⟨different, still⟩
        · exact .inl ⟨depth, List.mem_cons_self, kept.trans now⟩
        · refine .inr ⟨?_, kept.trans still⟩
          intro value fact
          rcases List.mem_cons.mp fact with here | later
          · exact different (Prod.mk.inj here).1
          · exact unlearnt value later

namespace Sound

theorem gridsDistinct (sound : table.Sound made) : table.GridsDistinct := by
  intro launch member other otherMember dev grid
  rw [sound.forest.eq_of_grid_eq (sound.registered launch member) (sound.registered other otherMember) dev grid]

theorem climb_succ (sound : table.Sound made) (member : kernel ∈ table.kernels) (steps : Nat) :
    (∃ depth, kernel.depth = some depth ∧ table.climb (steps + 1) kernel = .ok (depth, [])) ∨
      (kernel.depth = none ∧ kernel.launch.parent = none ∧
        table.climb (steps + 1) kernel = .ok (0, [(kernel.id, 0)])) ∨
      (∃ removed ∈ made, kernel.depth = none ∧ removed.IsParent kernel.launch ∧ removed ∉ table.launches ∧
        table.climb (steps + 1) kernel = .error (.missingParent kernel.id removed.grid kernel.dev)) ∨
      ∃ parent ∈ table.kernels, kernel.depth = none ∧ parent.launch.IsParent kernel.launch ∧
        table.climb (steps + 1) kernel = (table.climb steps parent).map fun (depth, learnt) =>
          (depth + 1, (kernel.id, depth + 1) :: learnt) := by
  cases known : kernel.depth with
  | some depth => exact .inl ⟨depth, rfl, by simp only [climb, known]⟩
  | none =>
      cases child : kernel.launch.parent with
      | none => exact .inr (.inl ⟨rfl, rfl, by simp only [climb, known, child]⟩)
      | some grid =>
          -- The parent was registered when the kernel was, so it is among the launches made if not in the table.
          obtain ⟨launch, launchMember, dev, same⟩ :=
            sound.forest.exists_parent (sound.registered _ (launch_mem_launches member)) child
          obtain rfl : grid = launch.grid := Option.some.inj (child.symm.trans same)
          cases found : table.findGrid kernel.dev launch.grid with
          | none =>
              refine .inr (.inr (.inl ⟨launch, launchMember, rfl, ⟨dev, same⟩, ?_, ?_⟩))
              · intro registered
                exact findGrid_eq_none.mp found launch registered dev rfl
              · simp only [climb, known, child, found]
          | some parent =>
              obtain ⟨parentMember, parentDev, parentGrid⟩ := (findGrid_eq_some sound.gridsDistinct).mp found
              refine .inr (.inr (.inr ⟨parent, parentMember, rfl, ⟨parentDev, ?_⟩, ?_⟩))
              · rw [same, ← parentGrid]
                rfl
              · simp only [climb, known, child, found]
                cases table.climb steps parent <;> rfl

theorem ancestors_of_parent (sound : table.Sound made) {parent : Kernel} (member : parent ∈ table.kernels)
    (isParent : parent.launch.IsParent launch) :
    launch.ancestors made = parent.launch :: parent.launch.ancestors made :=
  sound.forest.ancestors_of_parent (sound.registered _ (launch_mem_launches member)) isParent

/-- A climb gives true depths, for the kernel that it starts from and for all that it learns about. -/
theorem of_climb (sound : table.Sound made) (member : kernel ∈ table.kernels)
    (climbed : table.climb steps kernel = .ok (depth, learnt)) :
    depth = (kernel.launch.ancestors made).length ∧ (kernel.depth = none → (kernel.id, depth) ∈ learnt) ∧
      ∀ id value, (id, value) ∈ learnt → ∃ other ∈ table.kernels, other.id = id ∧
        value = (other.launch.ancestors made).length := by
  induction steps generalizing kernel depth learnt with
  | zero => simp [climb] at climbed
  | succ steps ih =>
      rcases sound.climb_succ member steps with ⟨kept, known, told⟩ | ⟨-, root, told⟩ | ⟨removed, -, -, -, -, told⟩ |
        ⟨parent, parentMember, -, isParent, told⟩
      · obtain ⟨rfl, rfl⟩ := Prod.mk.inj (Except.ok.inj (climbed.symm.trans told))
        exact ⟨sound.memo kernel member _ known, by simp [known], by simp⟩
      · obtain ⟨rfl, rfl⟩ := Prod.mk.inj (Except.ok.inj (climbed.symm.trans told))
        have height : 0 = (kernel.launch.ancestors made).length := by
          rw [Launch.ancestors_eq_nil root, List.length_nil]
        refine ⟨height, by simp, ?_⟩
        intro id value fact
        obtain ⟨rfl, rfl⟩ := Prod.mk.inj (List.mem_singleton.mp fact)
        exact ⟨kernel, member, rfl, height⟩
      · rw [told] at climbed
        contradiction
      · cases above : table.climb steps parent with
        | error reason => simp [told, above, Except.map] at climbed
        | ok known =>
            obtain ⟨below, learntAbove⟩ := known
            rw [told, above] at climbed
            obtain ⟨rfl, rfl⟩ := Prod.mk.inj (Except.ok.inj climbed)
            obtain ⟨parentHeight, -, others⟩ := ih parentMember above
            have height : below + 1 = (kernel.launch.ancestors made).length := by
              rw [sound.ancestors_of_parent parentMember isParent, List.length_cons, parentHeight]
            refine ⟨height, by simp, ?_⟩
            intro id value fact
            rcases List.mem_cons.mp fact with here | elsewhere
            · obtain ⟨rfl, rfl⟩ := Prod.mk.inj here
              exact ⟨kernel, member, rfl, height⟩
            · exact others id value elsewhere

/-- A climb with steps for all registered launches above does not run in circles, so it fails at a removed parent. -/
theorem strands_of_climb (sound : table.Sound made) (member : kernel ∈ table.kernels)
    (enough : ((kernel.launch :: kernel.launch.ancestors made).filter (· ∈ table.launches)).length ≤ steps)
    (refused : table.climb steps kernel = .error fault) : table.Strands made kernel fault := by
  induction steps generalizing kernel fault with
  | zero => simp [launch_mem_launches member] at enough
  | succ steps ih =>
      rcases sound.climb_succ member steps with ⟨kept, -, told⟩ | ⟨-, -, told⟩ |
        ⟨removed, removedMember, unknown, isParent, absent, told⟩ | ⟨parent, parentMember, unknown, isParent, told⟩
      · rw [told] at refused
        contradiction
      · rw [told] at refused
        contradiction
      · obtain rfl := Except.error.inj (refused.symm.trans told)
        exact .here unknown removedMember isParent absent
      · cases above : table.climb steps parent with
        | ok known => simp [told, above, Except.map] at refused
        | error reason =>
            rw [told, above] at refused
            obtain rfl := Except.error.inj refused
            refine .up unknown parentMember isParent (ih parentMember ?_ above)
            rw [List.filter_cons_of_pos (by simpa using launch_mem_launches member), List.length_cons,
              sound.ancestors_of_parent parentMember isParent] at enough
            omega

theorem of_depth (sound : table.Sound made) (member : kernel ∈ table.kernels)
    (told : table.depth kernel = .ok (depth, after)) : depth = (kernel.launch.ancestors made).length := by
  obtain ⟨learnt, climbed, -⟩ := depth_eq_ok.mp told
  exact (sound.of_climb member climbed).1

theorem strands_of_depth (sound : table.Sound made) (member : kernel ∈ table.kernels)
    (refused : table.depth kernel = .error fault) : table.Strands made kernel fault := by
  apply sound.strands_of_climb member _ (depth_eq_error.mp refused)
  -- The registered launches above are distinct, so the table has at least as many kernels.
  have lineage := sound.forest.cons_ancestors_sublist (sound.registered _ (launch_mem_launches member))
  rw [table.size_eq_length_launches]
  apply List.Subperm.length_le
  apply ((sound.forest.nodup.sublist lineage).filter _).subperm
  intro launch launchMember
  simpa using (List.mem_filter.mp launchMember).2

theorem empty : KernelTable.empty.Sound [] := by
  constructor <;> simp [KernelTable.empty, launches, Launch.Forest.nil]

theorem insert (sound : table.Sound made) (symbol : Option String)
    (fresh : ∀ other ∈ made, other.dev = launch.dev → other.grid ≠ launch.grid)
    (rooted : launch.parent = none ∨ ∃ parent ∈ table.launches, parent.IsParent launch) :
    (table.insert (.ofLaunch launch symbol)).Sound (launch :: made) := by
  have forest : Launch.Forest (launch :: made) := by
    refine .cons sound.forest fresh (rooted.imp_right ?_)
    rintro ⟨parent, registered, isParent⟩
    exact ⟨parent, sound.registered parent registered, isParent⟩
  refine ⟨forest, ?_, ?_⟩
  · intro other member
    rcases mem_launches_insert.mp member with rfl | ⟨before, -⟩
    · exact List.mem_cons_self
    · exact List.mem_cons_of_mem _ (sound.registered other before)
  · intro kernel member depth known
    rcases mem_insert.mp member with rfl | ⟨before, -⟩
    · simp [Kernel.ofLaunch] at known
    · have earlier := sound.registered _ (launch_mem_launches before)
      rw [Launch.ancestors_of_not_isParent (forest.not_isParent (List.mem_cons_of_mem _ earlier))]
      exact sound.memo kernel before depth known

theorem erase (sound : table.Sound made) (id : KernelId) : (table.erase id).Sound made := by
  refine ⟨sound.forest, ?_, ?_⟩
  · intro launch member
    exact sound.registered launch (mem_launches_erase.mp member).1
  · intro kernel member
    exact sound.memo kernel (mem_erase.mp member).1

theorem invalidateAll (sound : table.Sound made) : table.invalidateAll.Sound made := by
  have launches : table.invalidateAll.launches = table.launches := launches_revise table _ _
  refine ⟨sound.forest, ?_, ?_⟩
  · rw [launches]
    exact sound.registered
  · intro kernel member
    obtain ⟨former, formerMember, rfl⟩ := List.mem_map.mp member
    exact sound.memo former formerMember

/-- Whatever is kept with a kernel after a climb was kept before, or the climb has learnt it. -/
theorem learn (sound : table.Sound made) (member : kernel ∈ table.kernels)
    (climbed : table.climb steps kernel = .ok (depth, learnt)) : (table.learn learnt).Sound made := by
  obtain ⟨-, -, others⟩ := sound.of_climb member climbed
  refine ⟨sound.forest, ?_, ?_⟩
  · intro launch launchMember
    obtain ⟨other, otherMember, rfl⟩ := mem_launches.mp launchMember
    obtain ⟨former, formerMember, launch, -⟩ := mem_learn otherMember
    rw [← launch]
    exact sound.registered _ (launch_mem_launches formerMember)
  · intro other otherMember value known
    obtain ⟨former, formerMember, launch, kept⟩ := mem_learn otherMember
    rw [← launch]
    rcases kept with ⟨new, fact, now⟩ | ⟨-, still⟩
    · obtain ⟨same, sameMember, sameId, height⟩ := others former.id new fact
      obtain rfl := eq_of_id_eq sameMember formerMember sameId
      rw [← height]
      exact Option.some.inj (known.symm.trans now)
    · exact sound.memo former formerMember value (still.symm.trans known)

theorem learn_knows (sound : table.Sound made) (member : kernel ∈ table.kernels)
    (climbed : table.climb steps kernel = .ok (depth, learnt)) : (table.learn learnt).Knows kernel.launch := by
  intro other otherMember same
  obtain ⟨former, formerMember, launch, kept⟩ := mem_learn otherMember
  obtain rfl : former = kernel := by
    apply eq_of_id_eq formerMember member
    rw [Kernel.id, Kernel.id, launch, same]
  rcases kept with ⟨value, -, now⟩ | ⟨unlearnt, still⟩
  · simp [now]
  · rw [still]
    intro unknown
    exact unlearnt depth ((sound.of_climb member climbed).2.1 unknown)

end Sound

namespace Knows

variable (knows : table.Knows launch)
include knows

theorem insert {latest : Launch} (different : launch ≠ latest) (symbol : Option String) :
    (table.insert (.ofLaunch latest symbol)).Knows launch := by
  intro kernel member same
  rcases mem_insert.mp member with rfl | ⟨before, -⟩
  · exact (different same.symm).elim
  · exact knows kernel before same

theorem erase (id : KernelId) : (table.erase id).Knows launch := by
  intro kernel member
  exact knows kernel (mem_erase.mp member).1

theorem invalidateAll : table.invalidateAll.Knows launch := by
  intro kernel member
  obtain ⟨former, formerMember, rfl⟩ := List.mem_map.mp member
  exact knows former formerMember

theorem learn (learnt : List (KernelId × Nat)) : (table.learn learnt).Knows launch := by
  intro kernel member same
  obtain ⟨former, formerMember, formerLaunch, kept⟩ := mem_learn member
  rcases kept with ⟨value, -, now⟩ | ⟨-, still⟩
  · simp [now]
  · rw [still]
    exact knows former formerMember (formerLaunch.trans same)

end Knows

theorem perform_depth (table : KernelTable) (id : KernelId) : table.perform (.depth id) = table ∨
    ∃ kernel ∈ table.kernels, ∃ depth learnt, table.climb table.size kernel = .ok (depth, learnt) ∧
      table.perform (.depth id) = table.learn learnt := by
  rw [perform]
  cases found : table.find? id with
  | none => exact .inl rfl
  | some kernel =>
      cases told : table.depth kernel with
      | error fault => exact .inl (by simp only [Option.map_some, told])
      | ok answer =>
          obtain ⟨depth, after⟩ := answer
          obtain ⟨learnt, climbed, rfl⟩ := depth_eq_ok.mp told
          exact .inr ⟨kernel, (find?_eq_some.mp found).1, depth, learnt, climbed, by simp only [Option.map_some, told]⟩

theorem Sound.perform_depth (sound : table.Sound made) (id : KernelId) : (table.perform (.depth id)).Sound made := by
  rcases KernelTable.perform_depth table id with same | ⟨kernel, member, depth, learnt, climbed, learns⟩
  · rw [same]
    exact sound
  · rw [learns]
    exact sound.learn member climbed

theorem perform_depth_of_ok (member : kernel ∈ table.kernels) (told : table.depth kernel = .ok (depth, after)) :
    table.perform (.depth kernel.id) = after := by
  simp only [perform, find?_eq_some.mpr ⟨member, rfl⟩, Option.map_some, told]

end KernelTable

namespace TableHistory

variable {history later : TableHistory} {launch : Launch} {kernel : Kernel} {depth : Nat} {after : KernelTable}

theorem made_append (later earlier : TableHistory) : made (later ++ earlier) = later.made ++ earlier.made := by
  induction later with
  | nil => rfl
  | cons step later ih => cases step <;> simp [made, ih]

theorem exists_insert (member : launch ∈ history.made) :
    ∃ later symbol earlier, history = later ++ .insert launch symbol :: earlier := by
  induction history with
  | nil => simp [made] at member
  | cons step history ih =>
      have before (member : launch ∈ made history) :
          ∃ later symbol earlier, step :: history = later ++ .insert launch symbol :: earlier := by
        obtain ⟨later, symbol, earlier, same⟩ := ih member
        exact ⟨step :: later, symbol, earlier, congrArg (step :: ·) same⟩
      cases step with
      | insert latest symbol =>
          rcases List.mem_cons.mp member with rfl | member
          · exact ⟨[], symbol, history, rfl⟩
          · exact before member
      | erase | invalidateAll | depth => exact before member

theorem Orderly.sound (orderly : history.Orderly) : history.table.Sound history.made := by
  induction orderly with
  | start => exact .empty
  | step orderly step permitted ih =>
      cases step with
      | insert launch symbol => exact ih.insert symbol permitted.2.1 permitted.2.2
      | erase id => exact ih.erase id
      | invalidateAll => exact ih.invalidateAll
      | depth id => exact ih.perform_depth id

/-- What is known of a launch is not forgotten, as no other one is made on its grid. -/
theorem Orderly.knows (orderly : Orderly (later ++ history)) (member : launch ∈ history.made)
    (knows : history.table.Knows launch) : (table (later ++ history)).Knows launch := by
  induction later with
  | nil => exact knows
  | cons step later ih =>
      cases orderly with
      | step orderly _ permitted =>
          have before := ih orderly
          have made : launch ∈ made (later ++ history) := by
            rw [made_append]
            exact List.mem_append_right _ member
          cases step with
          | insert latest symbol =>
              apply before.insert
              rintro rfl
              exact permitted.2.1 launch made rfl rfl
          | erase id => exact before.erase id
          | invalidateAll => exact before.invalidateAll
          | depth id =>
              rw [List.cons_append, table]
              rcases KernelTable.perform_depth (table _) id with same | ⟨kernel, -, depth, learnt, -, learns⟩
              · rw [same]
                exact before
              · rw [learns]
                exact before.learn learnt

theorem Orderly.exists_ancestors (orderly : history.Orderly) (member : kernel ∈ history.table.kernels)
    (told : history.table.depth kernel = .ok (depth, after)) :
    ∃ later symbol earlier, history = later ++ .insert kernel.launch symbol :: earlier ∧
      ∃ above : List Launch, above.Nodup ∧
        (∀ launch, launch ∈ above ↔ Launch.IsAncestor (made earlier) launch kernel.launch) ∧ depth = above.length := by
  have sound := orderly.sound
  have height := sound.of_depth member told
  have forest := sound.forest
  obtain ⟨later, symbol, earlier, same⟩ := exists_insert (sound.registered _ (KernelTable.launch_mem_launches member))
  have split : history.made = made later ++ kernel.launch :: made earlier := by
    rw [same, made_append, made]
  rw [split] at forest height
  have below := forest.of_append
  rw [forest.ancestors_append List.mem_cons_self,
    Launch.ancestors_of_not_isParent (below.not_isParent List.mem_cons_self)] at height
  refine ⟨later, symbol, earlier, same, _, ?_, fun _ => below.of_cons.mem_ancestors, height⟩
  exact below.of_cons.nodup.sublist (Launch.ancestors_sublist _ _)

/-- A depth that is kept is the true one, and what is true of a launch does not change. -/
theorem Orderly.depth_eq (orderly : history.Orderly) (member : kernel ∈ history.table.kernels)
    (told : history.table.depth kernel = .ok (depth, after)) {later : TableHistory}
    (extended : Orderly (later ++ .depth kernel.id :: history)) {again : Kernel}
    (againMember : again ∈ (table (later ++ .depth kernel.id :: history)).kernels)
    (same : again.launch = kernel.launch) :
    (table (later ++ .depth kernel.id :: history)).depth again =
      .ok (depth, table (later ++ .depth kernel.id :: history)) := by
  have sound := orderly.sound
  obtain ⟨learnt, climbed, learns⟩ := KernelTable.depth_eq_ok.mp told
  have knows : (table (.depth kernel.id :: history)).Knows kernel.launch := by
    rw [table, KernelTable.perform_depth_of_ok member told, learns]
    exact sound.learn_knows member climbed
  have before : kernel.launch ∈ made (.depth kernel.id :: history) :=
    sound.registered _ (KernelTable.launch_mem_launches member)
  obtain ⟨value, known⟩ := Option.ne_none_iff_exists'.mp (extended.knows before knows again againMember same)
  have forest := extended.sound.forest
  have height := extended.sound.memo again againMember value known
  rw [made_append] at forest height
  rw [same, forest.ancestors_append before] at height
  rw [height.trans (sound.of_depth member told).symm] at known
  exact KernelTable.depth_of_known againMember known

structure TellsDepths (history : TableHistory) : Prop where
  told : ∀ kernel ∈ history.table.kernels, ∀ depth after, history.table.depth kernel = .ok (depth, after) →
    ∃ later symbol earlier, history = later ++ .insert kernel.launch symbol :: earlier ∧
      ∃ above : List Launch, above.Nodup ∧
        (∀ launch, launch ∈ above ↔ Launch.IsAncestor (made earlier) launch kernel.launch) ∧ depth = above.length
  kept : ∀ kernel ∈ history.table.kernels, ∀ depth after, history.table.depth kernel = .ok (depth, after) →
    ∀ later : TableHistory, Orderly (later ++ .depth kernel.id :: history) →
      ∀ again ∈ (table (later ++ .depth kernel.id :: history)).kernels, again.launch = kernel.launch →
        (table (later ++ .depth kernel.id :: history)).depth again =
          .ok (depth, table (later ++ .depth kernel.id :: history))
  stranded : ∀ kernel ∈ history.table.kernels, ∀ fault, history.table.depth kernel = .error fault →
    history.table.Strands history.made kernel fault
  /-- A width that is enough to number the launches is enough for the depths. -/
  bounded : ∀ kernel ∈ history.table.kernels, ∀ depth after, history.table.depth kernel = .ok (depth, after) →
    depth < history.made.length

theorem Orderly.tellsDepths (orderly : history.Orderly) : history.TellsDepths := by
  have sound := orderly.sound
  refine ⟨?_, ?_, ?_, ?_⟩
  · intro kernel member depth after told
    exact orderly.exists_ancestors member told
  · intro kernel member depth after told later extended again againMember same
    exact orderly.depth_eq member told extended againMember same
  · intro kernel member fault refused
    exact sound.strands_of_depth member refused
  · intro kernel member depth after told
    rw [sound.of_depth member told]
    exact (sound.forest.cons_ancestors_sublist (sound.registered _ (KernelTable.launch_mem_launches member))).length_le

/-- A run in which the kernel of grid 10, whose depth was kept below it, and the one of grid 40, whose depth was not
worked out, have been taken off the table. -/
def pruned : TableHistory :=
  let insert (kernel : KernelId) (grid : GridId) (parent : Option GridId) : TableStep :=
    .insert { kernel, dev := 0, grid, moduleId := 1, entry := 0x40, gridDim := ⟨1, 1, 1⟩, blockDim := ⟨2, 1, 1⟩,
              clusterDim := .zero, type := .application, origin := if parent.isNone then .cpu else .gpu, parent } none
  [insert 1 60 (some 30), .erase 4, insert 5 50 (some 40), insert 4 40 none, .invalidateAll, .erase 1, .depth 2,
    insert 3 30 (some 20), insert 2 20 (some 10), insert 1 10 none]

theorem pruned_tellsDepths :
    (pruned.table.find? 1).map (fun kernel => (pruned.table.depth kernel).map Prod.fst) = some (.ok 3) ∧
      (pruned.table.find? 5).map (fun kernel => (pruned.table.depth kernel).map Prod.fst) =
        some (.error (.missingParent 5 40 0)) ∧
      pruned.Orderly ∧ pruned.TellsDepths :=
  ⟨by cbv, by cbv, by decide, Orderly.tellsDepths (by decide)⟩

end TableHistory

end LaneScope
