import SpellServer.Store.Locality

/-!
# One operation at a time

A run is sequential when an operation is called only after the one before has
returned and its spawned write is done, and every statement reaches the
database.  What such a run preserves is proved by an outline: an assertion for
each action of an operation and one for the store between operations.
-/

namespace SpellServer

open Library

def sequential [Driver] (world : World) : Event → Bool
  | .call _ _ => decide world.calls.Quiescent && world.tasks.isEmpty
  | .act _ input => input.sql
  | .background _ succeeds => succeeds
  | .restart _ input => decide world.calls.Quiescent && world.tasks.isEmpty && input.sql

/-- Nothing is running and `idle` holds of the store and the writes that are
left, or one call is running and `busy` holds where it is. -/
inductive Follows [Driver] (idle : Store → List Task → Prop) (busy : Op → Frame → Store → Prop)
    (world : World) : Prop where
  | idle (quiescent : world.calls.Quiescent) (holds : idle world.store world.tasks)
  | busy {ticket : ℕ} {op : Op} {frame : Frame} (only : world.calls.Only ticket op frame)
      (settled : world.tasks = []) (holds : busy op frame world.store)

namespace Follows

variable [Driver] {hashKey : String → String} {world next : World} {event : Event}
  {idle idleLater : Store → List Task → Prop} {busy busyLater : Op → Frame → Store → Prop}

theorem at_rest (follows : Follows idle busy world) (quiescent : world.calls.Quiescent) :
    idle world.store world.tasks := by
  cases follows with
  | idle _ holds => exact holds
  | busy only _ _ => exact absurd quiescent only.not_quiescent

theorem mono (follows : Follows idle busy world)
    (idles : ∀ store tasks, idle store tasks → idleLater store tasks)
    (busies : ∀ op frame store, busy op frame store → busyLater op frame store) :
    Follows idleLater busyLater world := by
  cases follows with
  | idle quiescent holds => exact .idle quiescent (idles _ _ holds)
  | busy only settled holds => exact .busy only settled (busies _ _ _ holds)

theorem both (first : Follows idle busy world) (second : Follows idleLater busyLater world) :
    Follows (fun store tasks => idle store tasks ∧ idleLater store tasks)
      (fun op frame store => busy op frame store ∧ busyLater op frame store) world := by
  cases first with
  | idle quiescent holds => exact .idle quiescent ⟨holds, second.at_rest quiescent⟩
  | busy only settled holds =>
      cases second with
      | idle quiescent _ => exact absurd quiescent only.not_quiescent
      | busy other _ holdsLater =>
          obtain ⟨rfl, rfl⟩ := only.eq_of_frameAt other.frameAt
          cases only.running.symm.trans other.running
          exact .busy only settled ⟨holds, holdsLater⟩

/-- The rule of the outline: each premise is about one kind of step. -/
theorem step (follows : Follows idle busy world) (allowed : sequential world event = true)
    (taken : world.step hashKey event = some next)
    (enters : ∀ ticket op, event = .call ticket op → idle world.store [] →
      busyLater op op.entry world.store)
    (acts : ∀ ticket op input frame, event = .act ticket input →
      world.calls.lookup ticket = some { op, status := .running frame } →
      world.RawKeyFresh input → input.sql = true → busy op frame world.store →
      (∀ later, (frame.exec hashKey input world.store).next = .running later →
        (frame.exec hashKey input world.store).spawned = [] ∧
          busyLater op later (frame.exec hashKey input world.store).store) ∧
      ∀ result, (frame.exec hashKey input world.store).next = .returned result →
        idleLater (frame.exec hashKey input world.store).store
          (frame.exec hashKey input world.store).spawned)
    (writes : ∀ position task, event = .background position true →
      world.tasks[position]? = some task → idle world.store world.tasks →
      idleLater { world.store with pool := task.run world.store.pool }
        (world.tasks.eraseIdx position))
    (reopens : ∀ now input opened, event = .restart now input → world.RawKeyFresh input →
      idle world.store [] → Store.open hashKey now input world.store.pool = some opened →
      idleLater opened.store []) : Follows idleLater busyLater next := by
  rcases World.step_cases taken with ⟨ticket, op, rfl, _, rfl⟩ |
    ⟨ticket, input, frame, rfl, fresh, running, rfl⟩ |
    ⟨position, succeeds, task, rfl, pending, rfl⟩ | ⟨now, input, opened, rfl, fresh, success, rfl⟩
  · obtain ⟨quiescent, settled⟩ : world.calls.Quiescent ∧ world.tasks = [] := by
      simpa [sequential] using allowed
    have rest := follows.at_rest quiescent
    rw [settled] at rest
    exact .busy (quiescent.start ticket op op.entry) settled (enters ticket op rfl rest)
  · cases follows with
    | idle quiescent _ => cases (quiescent ticket).symm.trans running
    | @busy runner op current only settled holds =>
        obtain ⟨rfl, rfl⟩ := only.eq_of_frameAt running
        obtain ⟨going, returning⟩ := acts ticket op input frame rfl only.running fresh allowed holds
        cases moves : (frame.exec hashKey input world.store).next with
        | running later =>
            obtain ⟨quiet, holdsLater⟩ := going later moves
            have onlyLater :
                (world.acted ticket (frame.exec hashKey input world.store)).calls.Only
                  ticket op later := by
              rw [World.acted, moves]
              exact only.goes later
            refine .busy onlyLater ?_ holdsLater
            rw [World.acted, settled, quiet]
            rfl
        | returned result =>
            refine .idle ?_ ?_
            · rw [World.acted, moves]
              exact (only.returns result).1
            · rw [World.acted, settled]
              exact returning result moves
  · obtain rfl : succeeds = true := allowed
    cases follows with
    | idle quiescent holds => exact .idle quiescent (writes position task rfl pending holds)
    | busy _ settled _ =>
        rw [settled] at pending
        cases pending
  · obtain ⟨⟨quiescent, settled⟩, _⟩ :
        (world.calls.Quiescent ∧ world.tasks = []) ∧ input.sql = true := by
      simpa [sequential] using allowed
    have rest := follows.at_rest quiescent
    rw [settled] at rest
    refine .idle ?_ (reopens now input opened rfl fresh rest success)
    intro ticket
    exact Calls.frameAt_dropRunning _ ticket

end Follows

/-- Run a call to its end with nothing in between, one input for each action. -/
def Store.runAlone [Driver] (hashKey : String → String) (store : Store) :
    List Input → Frame → Option (Store × Result)
  | [], _ => none
  | input :: inputs, frame =>
      let outcome := frame.exec hashKey input store
      match outcome.next with
      | .returned result => some (outcome.store, result)
      | .running later => outcome.store.runAlone hashKey inputs later

end SpellServer
