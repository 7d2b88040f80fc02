import LaneScope.Proofs.Kernel.Table
import LaneScope.Session.Run

/-!
The queries that the steps of a session put, and what is answered to them.
-/

namespace LaneScope.Session

variable {session : Session} {query : Query} {fault : Fault}

theorem provider_snapshot (session : Session) : session.provider.snapshot = session.snapshot := by
  rw [provider]
  cases session.outage <;> rfl

def poses (session : Session) : Step → Option Query
  | .read (.query query _) => some query
  | .read .firstValidThread => some Focus.validThread
  | .read .firstTrap => some Focus.trap
  | .read .firstException => some Focus.exception
  | .read (.nearestAtBreakpoint origin) => some (Focus.breakpointNear origin)
  | .read (.logicalOf address) => some (Focus.threadOn address)
  | .read (.physicalOf address) => some (Focus.threadOf address)
  | .read .residentKernels => some Focus.residentKernels
  | .onKernel id .smMask => (session.snapshot.kernels.find? id).map Focus.smsOf
  | _ => none

def reply (answer : CoordSet → Answer) : Except QueryFault CoordSet → Except Fault Answer
  | .ok set => .ok (answer set)
  | .error fault => .error (.query fault)

theorem answer_put (session : Session) (query : Query) (answer : CoordSet → Answer) :
    (session.put query answer).answer = reply answer (session.provider.evaluate query).outcome := by
  cases outcome : (session.provider.evaluate query).outcome <;> simp [put, ask, refuse, reply, outcome]

theorem answer_residentKernels (session : Session) : (session.read .residentKernels).answer =
    reply (fun set => .ids set.kernelIds) (session.provider.evaluate Focus.residentKernels).outcome := by
  cases outcome : (session.provider.evaluate Focus.residentKernels).outcome <;>
    simp [read, residentKernels, ask, refuse, reply, outcome]

theorem reply_eq_ok {answer : CoordSet → Answer} {outcome : Except QueryFault CoordSet} {told : Answer} :
    reply answer outcome = .ok told ↔ ∃ set, outcome = .ok set ∧ told = answer set := by
  cases outcome <;> simp [reply, eq_comm]

theorem reply_eq_error {answer : CoordSet → Answer} {outcome : Except QueryFault CoordSet} :
    reply answer outcome = .error fault ↔ ∃ reason, outcome = .error reason ∧ fault = .query reason := by
  cases outcome <;> simp [reply, eq_comm]

theorem put_eq_ok {answer : CoordSet → Answer} {told : Answer} : (session.put query answer).answer = .ok told ↔
    ∃ set, (session.provider.evaluate query).outcome = .ok set ∧ told = answer set := by
  rw [answer_put, reply_eq_ok]

theorem put_eq_error {answer : CoordSet → Answer} : (session.put query answer).answer = .error fault ↔
    ∃ reason, (session.provider.evaluate query).outcome = .error reason ∧ fault = .query reason := by
  rw [answer_put, reply_eq_error]

theorem residentKernels_eq_error : (session.read .residentKernels).answer = .error fault ↔
    ∃ reason, (session.provider.evaluate Focus.residentKernels).outcome = .error reason ∧ fault = .query reason := by
  rw [answer_residentKernels, reply_eq_error]

/-- What a step answers to its query depends on the session through the answers to queries, the shape and the launches
of the kernels alone. -/
theorem answer_of_poses {other : Session} {step : Step} (evaluate : ∀ query, other.provider.evaluate query =
      session.provider.evaluate query) (shape : other.snapshot.shape = session.snapshot.shape)
    (launches : other.snapshot.kernels.launches = session.snapshot.kernels.launches)
    (posed : session.poses step = some query) : (other.perform step).answer = (session.perform step).answer := by
  cases step with
  | edit edit => simp [poses] at posed
  | read reading =>
      cases reading with
      | query | firstValidThread | firstTrap | firstException | nearestAtBreakpoint | logicalOf | physicalOf =>
          simp only [perform, read, answer_put, evaluate]
      | residentKernels => simp only [perform, answer_residentKernels, evaluate]
      | _ => simp [poses] at posed
  | onKernel id kernelStep =>
      cases kernelStep with
      | smMask =>
          have found : (other.snapshot.kernels.find? id).map Kernel.launch =
              (session.snapshot.kernels.find? id).map Kernel.launch := by
            rw [KernelTable.map_launch_find?, KernelTable.map_launch_find?, launches]
          rcases KernelTable.both_of_map_eq found with ⟨unknown, -⟩ | ⟨kernel, kernel', known, alsoKnown, launch⟩
          · simp [poses, unknown] at posed
          · have device : other.snapshot.hasDevice kernel'.dev = session.snapshot.hasDevice kernel.dev := by
              rw [Snapshot.hasDevice, Snapshot.hasDevice, shape, Kernel.dev, Kernel.dev, launch]
            have alike : Focus.smsOf kernel' = Focus.smsOf kernel := by
              simp only [Focus.smsOf, Kernel.dev, Kernel.id, launch]
            simp only [perform, known, alsoKnown, onKernel, device, alike, shape]
            split
            · rw [answer_put, answer_put, evaluate]
            · rfl
      | _ => simp [poses] at posed

end LaneScope.Session
