import Mathlib
import LaneScope.Proofs.Session.Course
import LaneScope.Proofs.Session.Tenure

/-!
Arguments are formatted at most once.  A step that shows frames to a kernel settles its arguments if the debugger looks
at that kernel and they are not settled yet.  Main statement: over the steps since a launch, the first that is made in
focus formats the arguments of the kernel, no other step does, and what it gave is told from then on.
-/

namespace LaneScope

def Step.focuses (id : KernelId) (step : Step) : Option (Except String String) :=
  (step.shows id).bind fun frames => if frames.focus = some id then some frames.formatted else none

def History.settles (id : KernelId) : History → Option (Except String String)
  | [] => none
  | step :: earlier => (settles id earlier).or (step.focuses id)

def Event.formatted : Event → Option KernelId
  | argumentsRead kernel _ | argumentsFailed kernel _ => some kernel
  | _ => none

def Turn.formats (turn : Turn) (id : KernelId) : Nat :=
  turn.events.countP fun event => event.formatted == some id

def Arguments.settled : Option (Except String String) → Arguments
  | none => .unknown
  | some (.ok text) => .known text
  | some (.error _) => .unavailable

namespace Session

def formatsOf (start : Session) (id : KernelId) : History → Nat
  | [] => 0
  | step :: earlier => ((start.follow earlier).perform step).formats id + start.formatsOf id earlier

structure FormatsOnce (start : Session) (id : KernelId) (history : History) : Prop where
  total : start.formatsOf id history = if (history.settles id).isSome then 1 else 0
  first : ∀ step earlier, step :: earlier <:+ history → ((start.follow earlier).perform step).formats id =
    if History.settles id earlier = none ∧ (step.focuses id).isSome then 1 else 0
  untold : ∀ frames earlier, .onKernel id (.readArguments frames) :: earlier <:+ history →
    ((start.follow earlier).perform (.onKernel id (.readArguments frames))).answer =
      .ok (.formats (((start.follow earlier).perform (.onKernel id (.readArguments frames))).formats id))
  told : ∀ frames earlier, .onKernel id (.arguments frames) :: earlier <:+ history →
    ((start.follow earlier).perform (.onKernel id (.arguments frames))).answer = .ok (.arguments
      ((History.settles id (.onKernel id (.arguments frames) :: earlier)).bind Except.toOption)
      (((start.follow earlier).perform (.onKernel id (.arguments frames))).formats id))
  swept : ∀ frames earlier, .read (.updateArguments frames) :: earlier <:+ history → ∃ formats ≤ 1,
    ((start.follow earlier).perform (.read (.updateArguments frames))).answer = .ok (.formats formats) ∧
      ((start.follow earlier).perform (.read (.updateArguments frames))).events.countP
        (fun event => event.formatted.isSome) = formats

end Session

namespace Kernel

variable {kernel : Kernel} {frames : Frames}

def IsRead (kernel : Kernel) (frames : Frames) : Prop :=
  kernel.arguments = .unknown ∧ frames.focus = some kernel.id

instance (kernel : Kernel) (frames : Frames) : Decidable (kernel.IsRead frames) :=
  inferInstanceAs (Decidable (_ ∧ _))

theorem formats_readArguments (kernel : Kernel) (frames : Frames) :
    (kernel.readArguments frames).formats = if kernel.IsRead frames then 1 else 0 := by
  simp only [readArguments, IsRead]
  split
  · simp_all
  · split
    · simp_all
    · split <;> simp_all

theorem formatted_readArguments (kernel : Kernel) (frames : Frames) :
    (kernel.readArguments frames).event.formatted = if kernel.IsRead frames then some kernel.id else none := by
  simp only [readArguments, IsRead]
  split
  · simp_all [Event.formatted]
  · split
    · simp_all [Event.formatted]
    · split <;> simp_all [Event.formatted]

theorem arguments_readArguments {outcome : Option (Except String String)} (settled : kernel.arguments = .settled outcome)
    (frames : Frames) : (kernel.readArguments frames).arguments =
      .settled (outcome.or (if frames.focus = some kernel.id then some frames.formatted else none)) := by
  simp only [readArguments]
  cases outcome with
  | none =>
      rw [Arguments.settled] at settled
      by_cases focused : frames.focus = some kernel.id
      · cases frames.formatted <;> simp [settled, focused, Arguments.settled]
      · simp [settled, focused, Arguments.settled]
  | some outcome => cases outcome <;> simp_all [Arguments.settled]

end Kernel

theorem Arguments.settled_eq_unknown {outcome : Option (Except String String)} :
    settled outcome = .unknown ↔ outcome = none := by
  rcases outcome with - | - | - <;> simp [settled]

theorem Arguments.text?_settled (outcome : Option (Except String String)) :
    (settled outcome).text? = outcome.bind Except.toOption := by
  rcases outcome with - | - | - <;> rfl

namespace KernelTable

theorem countP_of_ascending {kernels : List Kernel}
    (ascending : kernels.Pairwise fun left right => left.id.toNat < right.id.toNat) (id : KernelId)
    (counts : Kernel → Bool) : kernels.countP (fun kernel => kernel.id == id && counts kernel) =
      if (kernels.find? fun kernel => kernel.id == id).any counts then 1 else 0 := by
  induction kernels with
  | nil => rfl
  | cons first rest ih =>
      obtain ⟨above, tail⟩ := List.pairwise_cons.mp ascending
      by_cases same : first.id = id
      · -- The identifiers ascend, so no later kernel has this one.
        have others : rest.countP (fun kernel => kernel.id == id && counts kernel) = 0 := by
          rw [List.countP_eq_zero]
          intro later member
          have less := above later member
          have apart : later.id ≠ id := by
            rintro rfl
            rw [same] at less
            exact Nat.lt_irrefl _ less
          simp [apart]
        simp [List.countP_cons, same, others]
      · simp [same, ih tail]

theorem countP_formatted (table : KernelTable) (frames : Frames) (id : KernelId) :
    table.kernels.countP (fun kernel => (kernel.readArguments frames).event.formatted == some id) =
      if (table.find? id).any fun kernel => decide (kernel.IsRead frames) then 1 else 0 := by
  have byId : (fun kernel : Kernel => (kernel.readArguments frames).event.formatted == some id) =
      fun kernel => kernel.id == id && decide (kernel.IsRead frames) := by
    funext kernel
    rw [Kernel.formatted_readArguments]
    by_cases read : kernel.IsRead frames <;> simp [read]
  rw [byId, countP_of_ascending table.ascending]
  rfl

theorem countP_isSome_formatted_le (table : KernelTable) (frames : Frames) :
    table.kernels.countP (fun kernel => (kernel.readArguments frames).event.formatted.isSome) ≤ 1 := by
  cases focus : frames.focus with
  | none =>
      have unread : table.kernels.countP (fun kernel => (kernel.readArguments frames).event.formatted.isSome) = 0 := by
        rw [List.countP_eq_zero]
        intro kernel _
        simp [Kernel.formatted_readArguments, Kernel.IsRead, focus]
      omega
  | some id =>
      have byFocus : (fun kernel : Kernel => (kernel.readArguments frames).event.formatted.isSome) =
          fun kernel => (kernel.readArguments frames).event.formatted == some id := by
        funext kernel
        rw [Kernel.formatted_readArguments]
        by_cases read : kernel.IsRead frames
        · have same : id = kernel.id := Option.some.inj (focus.symm.trans read.2)
          simp [read, same]
        · simp [read]
      rw [byFocus, countP_formatted]
      split <;> omega

theorem foldl_formats (kernels : List Kernel) (frames : Frames) (formats : Nat) :
    (kernels.map fun kernel => kernel.readArguments frames).foldl (fun formats reading => formats + reading.formats)
      formats = formats + kernels.countP fun kernel => (kernel.readArguments frames).event.formatted.isSome := by
  induction kernels generalizing formats with
  | nil => rfl
  | cons kernel kernels ih =>
      rw [List.map_cons, List.foldl_cons, ih, List.countP_cons, Kernel.formats_readArguments,
        Kernel.formatted_readArguments]
      split
      · simp
        omega
      · simp

end KernelTable

namespace Session

variable {session : Session} {kernel : Kernel} {id : KernelId}

theorem formats_of_quiet {turn : Turn} (quiet : ∀ event ∈ turn.events, event.formatted = none) (id : KernelId) :
    turn.formats id = 0 := by
  rw [Turn.formats, List.countP_eq_zero]
  intro event member
  simp [quiet event member]

theorem put_quiet (session : Session) (query : Query) (answer : CoordSet → Answer) :
    ∀ event ∈ (session.put query answer).events, event.formatted = none := by
  rw [put]
  split <;> simp [refuse, Event.formatted]

theorem looked_quiet {α : Type} (answer : α → Answer) (reply : Except LookupFault α × Session) :
    ∀ event ∈ (looked answer reply).events, event.formatted = none := by
  obtain ⟨outcome, after⟩ := reply
  cases outcome <;> simp [looked, refuse]

theorem edit_quiet (session : Session) (edit : Edit) : ∀ event ∈ (session.edit edit).events, event.formatted = none := by
  cases edit with
  | invalidate | launch | setGridStatus | forgetGrid | setClock | setOutage => simp [Session.edit, Event.formatted]
  | setBreakpoint | setSm | setWarp | setLane =>
      rw [Session.edit, change]
      split <;> simp [refuse]
  | addFunction =>
      rw [Session.edit]
      split <;> simp [refuse]
  | populate =>
      rw [Session.edit]
      split <;> simp [refuse]
  | exitKernel =>
      rw [Session.edit]
      split
      · simp
      · split <;> simp [Event.formatted]

theorem perform_quiet (session : Session) {step : Step} (unshown : ∀ id, step.shows id = none) :
    ∀ event ∈ (session.perform step).events, event.formatted = none := by
  cases step with
  | edit edit => exact session.edit_quiet edit
  | read reading =>
      rw [perform]
      cases reading with
      | gridQueries | counts | kernels | findGrid => simp [read]
      | sm | warp | breakpointAt =>
          rw [read]
          split <;> simp [refuse]
      | gridInfo | gridStatusOf =>
          rw [read]
          split <;> simp [refuse]
      | query | firstValidThread | firstTrap | firstException | nearestAtBreakpoint | logicalOf | physicalOf =>
          exact session.put_quiet _ _
      | residentKernels =>
          rw [read]
          split <;> simp [refuse, Event.formatted]
      | updateArguments frames => simp [Step.shows] at unshown
  | onKernel asked step =>
      rw [perform]
      split
      · simp [refuse]
      · rename_i other _
        cases step with
        | summary | setLaunched | children => simp [onKernel]
        | invalidate => simp [onKernel, Event.formatted]
        | depth | shouldReport =>
            rw [onKernel]
            split <;> simp [refuse]
        | clusterDim | gridStatus | present | describe => exact looked_quiet _ _
        | smMask =>
            rw [onKernel]
            split
            · exact session.put_quiet _ _
            · simp [refuse]
        | readArguments frames | arguments frames => simpa [Step.shows] using unshown asked

theorem shows_cases (step : Step) : (∃ frames, step = .read (.updateArguments frames)) ∨
    (∃ asked frames, step = .onKernel asked (.readArguments frames) ∨ step = .onKernel asked (.arguments frames)) ∨
      ∀ id, step.shows id = none := by
  cases step with
  | edit edit => exact .inr (.inr fun _ => rfl)
  | read reading =>
      cases reading with
      | updateArguments frames => exact .inl ⟨frames, rfl⟩
      | _ => exact .inr (.inr fun _ => rfl)
  | onKernel asked step =>
      cases step with
      | readArguments frames => exact .inr (.inl ⟨asked, frames, .inl rfl⟩)
      | arguments frames => exact .inr (.inl ⟨asked, frames, .inr rfl⟩)
      | _ => exact .inr (.inr fun _ => rfl)

theorem formats_updateArguments (session : Session) (frames : Frames) (id : KernelId) :
    (session.perform (.read (.updateArguments frames))).formats id =
      if (session.snapshot.kernels.find? id).any fun kernel => decide (kernel.IsRead frames) then 1 else 0 := by
  rw [← KernelTable.countP_formatted]
  simp only [Turn.formats, perform, read, List.map_map, List.countP_map]
  rfl

/-- However many kernels there are, updating their arguments formats those of one at most. -/
theorem updateArguments_formats_le (session : Session) (frames : Frames) : ∃ formats ≤ 1,
    (session.perform (.read (.updateArguments frames))).answer = .ok (.formats formats) ∧
      (session.perform (.read (.updateArguments frames))).events.countP
        (fun event => event.formatted.isSome) = formats := by
  refine ⟨_, session.snapshot.kernels.countP_isSome_formatted_le frames, ?_, ?_⟩
  · simp only [perform, read, KernelTable.foldl_formats, Nat.zero_add]
  · simp only [perform, read, List.map_map, List.countP_map]
    rfl

theorem formats_readArguments (session : Session) (kernel : Kernel) (frames : Frames)
    (answer : ArgumentsReading → Answer) (id : KernelId) :
    (session.readArguments kernel frames answer).formats id = if kernel.IsRead frames ∧ kernel.id = id then 1 else 0 := by
  simp only [Turn.formats, readArguments, List.countP_singleton, Kernel.formatted_readArguments]
  by_cases read : kernel.IsRead frames <;> simp [read]

/-- Arguments are formatted where frames are shown to the kernel that they are due for, and nowhere else. -/
theorem formats_perform (known : session.snapshot.kernels.find? kernel.id = some kernel) (step : Step) :
    (session.perform step).formats kernel.id =
      if (step.shows kernel.id).any fun frames => decide (kernel.IsRead frames) then 1 else 0 := by
  rcases shows_cases step with ⟨frames, rfl⟩ | ⟨asked, frames, shown⟩ | unshown
  · rw [formats_updateArguments, known]
    rfl
  · have shows : step.shows kernel.id = if asked = kernel.id then some frames else none := by
      rcases shown with rfl | rfl <;> rfl
    rw [shows]
    cases found : session.snapshot.kernels.find? asked with
    | none =>
        have apart : asked ≠ kernel.id := by
          rintro rfl
          simp [known] at found
        rcases shown with rfl | rfl <;> simp [perform, found, refuse, Turn.formats, apart]
    | some other =>
        obtain ⟨-, rfl⟩ := KernelTable.find?_eq_some.mp found
        have formats : (session.perform step).formats kernel.id =
            if other.IsRead frames ∧ other.id = kernel.id then 1 else 0 := by
          rcases shown with rfl | rfl <;> simp only [perform, found, onKernel, formats_readArguments]
        rw [formats]
        by_cases same : other.id = kernel.id
        · rw [same, known] at found
          obtain rfl := Option.some.inj found
          simp
        · simp [same]
  · rw [formats_of_quiet (session.perform_quiet unshown), unshown]
    rfl

theorem formats_of_settled {earlier : History} (known : session.snapshot.kernels.find? kernel.id = some kernel)
    (settled : kernel.arguments = .settled (earlier.settles kernel.id)) (step : Step) :
    (session.perform step).formats kernel.id =
      if earlier.settles kernel.id = none ∧ (step.focuses kernel.id).isSome then 1 else 0 := by
  rw [formats_perform known]
  cases shown : step.shows kernel.id with
  | none => simp [Step.focuses, shown]
  | some frames =>
      by_cases focused : frames.focus = some kernel.id
      · simp [Step.focuses, shown, focused, Kernel.IsRead, settled, Arguments.settled_eq_unknown]
      · simp [Step.focuses, shown, focused, Kernel.IsRead]

theorem Tends.arguments_settled {kernel' : Kernel} {earlier : History} {step : Step}
    (tends : session.Tends step kernel kernel') (settled : kernel.arguments = .settled (earlier.settles kernel.id)) :
    kernel'.arguments = .settled (History.settles kernel.id (step :: earlier)) := by
  rw [tends.arguments, History.settles, Step.focuses]
  cases shown : step.shows kernel.id with
  | none => simpa using settled
  | some frames => exact Kernel.arguments_readArguments settled frames

theorem exists_settled (session : Session) (launch : Launch) {history : History}
    (retained : ∀ step ∈ history, step.retains launch.kernel = true) :
    ∃ kernel, ((session.launched launch).follow history).snapshot.kernels.find? launch.kernel = some kernel ∧
      kernel.id = launch.kernel ∧ kernel.arguments = .settled (history.settles launch.kernel) := by
  induction history with
  | nil => exact ⟨_, session.find?_launched launch, rfl, rfl⟩
  | cons step earlier ih =>
      rw [List.forall_mem_cons] at retained
      obtain ⟨kernel, known, named, settled⟩ := ih retained.2
      rw [← named] at known settled retained ⊢
      obtain ⟨kernel', found, tends⟩ := tendsTo_perform known retained.1
      exact ⟨kernel', found, congrArg Launch.kernel tends.launch, tends.arguments_settled settled⟩

theorem formatsOf_eq (session : Session) (launch : Launch) {history : History}
    (retained : ∀ step ∈ history, step.retains launch.kernel = true) :
    (session.launched launch).formatsOf launch.kernel history =
      if (history.settles launch.kernel).isSome then 1 else 0 := by
  induction history with
  | nil => rfl
  | cons step earlier ih =>
      rw [List.forall_mem_cons] at retained
      obtain ⟨kernel, known, named, settled⟩ := session.exists_settled launch retained.2
      rw [formatsOf, ih retained.2]
      rw [← named] at known settled ⊢
      rw [formats_of_settled known settled, History.settles]
      cases History.settles kernel.id earlier <;> cases step.focuses kernel.id <;> simp

/-- Over steps that keep a launched kernel registered, its arguments are formatted at the first step in focus, and what
that step gave is all that is told of them. -/
theorem launched_formatsOnce (session : Session) (launch : Launch) {history : History}
    (retained : ∀ step ∈ history, step.retains launch.kernel = true) :
    (session.launched launch).FormatsOnce launch.kernel history := by
  have settledBefore (step : Step) (earlier : History) (suffix : step :: earlier <:+ history) :=
    session.exists_settled launch fun other member => retained other (suffix.subset (List.mem_cons_of_mem step member))
  constructor
  case total => exact session.formatsOf_eq launch retained
  case first =>
    intro step earlier suffix
    obtain ⟨kernel, known, named, settled⟩ := settledBefore step earlier suffix
    rw [← named] at known settled ⊢
    exact formats_of_settled known settled step
  case untold =>
    intro frames earlier suffix
    obtain ⟨kernel, known, named, -⟩ := settledBefore _ earlier suffix
    rw [← named] at known ⊢
    simp only [perform, known, onKernel, formats_readArguments, and_true]
    rw [readArguments, Kernel.formats_readArguments]
  case told =>
    intro frames earlier suffix
    obtain ⟨kernel, known, named, settled⟩ := settledBefore _ earlier suffix
    rw [← named] at known settled ⊢
    have read := Kernel.arguments_readArguments settled frames
    simp only [perform, known, onKernel, formats_readArguments, and_true]
    rw [readArguments, Kernel.formats_readArguments, read, Arguments.text?_settled]
    simp [History.settles, Step.focuses, Step.shows]
  case swept =>
    intro frames earlier _
    exact updateArguments_formats_le _ frames

end Session

def Session.paired : Session :=
  let launch (kernel : KernelId) (grid : GridId) : Launch :=
    { kernel, dev := 0, grid, moduleId := 1, entry := 0x40, gridDim := ⟨1, 1, 1⟩, blockDim := ⟨1, 1, 1⟩,
      clusterDim := .zero, type := .application, origin := .cpu, parent := none }
  ((Snapshot.ofShape ⟨1, 1, 1, 1⟩).session.launched (launch 8 4)).launched (launch 7 3)

/-- Frames are shown out of focus, with another kernel in focus, and in focus where they cannot be formatted; frames
that can be formatted come too late. -/
def History.refocusing : History :=
  [.onKernel 7 (.arguments ⟨some 7, .ok "(n=4)"⟩), .edit .invalidate,
    .onKernel 7 (.readArguments ⟨some 7, .error "no frame"⟩), .read (.updateArguments ⟨some 8, .ok "(m=2)"⟩),
    .onKernel 7 (.arguments ⟨none, .ok "(n=3)"⟩)]

theorem Session.refocusing_formatsOnce : paired.formatsOf 7 .refocusing = 1 ∧ ∃ latest earlier formats,
    History.refocusing = .onKernel 7 (.arguments latest) :: earlier ∧
      ((paired.follow earlier).perform (.onKernel 7 (.arguments latest))).answer = .ok (.arguments none formats) := by
  have once : paired.FormatsOnce 7 .refocusing := launched_formatsOnce _ _ (by decide)
  exact ⟨once.total, _, _, _, rfl, once.told _ _ (List.suffix_refl _)⟩

end LaneScope
