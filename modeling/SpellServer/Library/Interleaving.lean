import SpellServer.Library.Dict

/-!
# Interleaved calls

A system takes one event at a time through a partial step function; `Run` is a
finite sequence of such steps, each taken where a guard allows it.  The guard
is how a result about some schedules only is stated: the run lemma asks for
preservation under the guard and nothing else.

A table of calls holds what every call of a concurrent program is doing.  A
running call is suspended in front of its next atomic action, its frame; a
finished call keeps its result.
-/

namespace Library

universe u v

/-- A run of guarded steps.  With the guard `fun _ _ => True` it is any run. -/
inductive Run {σ : Type u} {ε : Type v} (step : σ → ε → Option σ) (guard : σ → ε → Prop) :
    σ → List ε → σ → Prop where
  | nil (state : σ) : Run step guard state [] state
  | cons {start middle finish : σ} {event : ε} {events : List ε} :
      guard start event →
      step start event = some middle →
      Run step guard middle events finish →
      Run step guard start (event :: events) finish

/-- Take the events in order, failing where one is not allowed or not enabled. -/
def runEvents {σ : Type u} {ε : Type v} (step : σ → ε → Option σ) (allowed : σ → ε → Bool) :
    σ → List ε → Option σ
  | state, [] => some state
  | state, event :: events =>
      if allowed state event then
        (step state event).bind fun middle => runEvents step allowed middle events
      else none

namespace Run

variable {σ : Type u} {ε : Type v} {step : σ → ε → Option σ} {guard stronger : σ → ε → Prop}
  {start middle finish : σ} {events later : List ε}

/-- What every guarded step preserves, every run preserves. -/
theorem invariant {property : σ → Prop} (run : Run step guard start events finish)
    (preserved : ∀ state event next, property state → guard state event →
      step state event = some next → property next)
    (initial : property start) : property finish := by
  induction run with
  | nil => exact initial
  | cons allowed taken _ induction => exact induction (preserved _ _ _ initial allowed taken)

theorem append (first : Run step guard start events middle)
    (second : Run step guard middle later finish) :
    Run step guard start (events ++ later) finish := by
  induction first with
  | nil => exact second
  | cons allowed taken _ induction => exact .cons allowed taken (induction second)

theorem snoc {event : ε} (run : Run step guard start events middle)
    (allowed : guard middle event) (taken : step middle event = some finish) :
    Run step guard start (events ++ [event]) finish :=
  run.append (.cons allowed taken (.nil finish))

theorem weaken (weaker : ∀ state event, stronger state event → guard state event)
    (run : Run step stronger start events finish) :
    Run step guard start events finish := by
  induction run with
  | nil state => exact .nil state
  | cons allowed taken _ induction => exact .cons (weaker _ _ allowed) taken induction

/-- A property of every event is a guard. -/
theorem strengthen {property : ε → Prop} (run : Run step guard start events finish)
    (holds : ∀ event ∈ events, property event) :
    Run step (fun state event => guard state event ∧ property event) start events finish := by
  induction run with
  | nil state => exact .nil state
  | @cons _ _ _ event _ allowed taken _ induction =>
      apply Run.cons ⟨allowed, holds event List.mem_cons_self⟩ taken
      apply induction
      intro later member
      exact holds later (List.mem_cons_of_mem _ member)

/-- A part of a larger system takes its steps there. -/
theorem lift {τ : Type*} {ζ : Type*} {outer : τ → ζ → Option τ} (embed : σ → τ) (rename : ε → ζ)
    (steps : ∀ state event next, guard state event → step state event = some next →
      outer (embed state) (rename event) = some (embed next))
    (run : Run step guard start events finish) :
    Run outer (fun _ _ => True) (embed start) (events.map rename) (embed finish) := by
  induction run with
  | nil state => exact .nil _
  | cons allowed taken _ induction => exact .cons trivial (steps _ _ _ allowed taken) induction

theorem of_singleton {event : ε} (run : Run step guard start [event] finish) :
    step start event = some finish := by
  cases run with
  | cons _ taken rest =>
      cases rest
      exact taken

theorem of_runEvents {allowed : σ → ε → Bool}
    (computed : runEvents step allowed start events = some finish) :
    Run step (fun state event => allowed state event = true) start events finish := by
  induction events generalizing start with
  | nil =>
      cases computed
      exact .nil _
  | cons event events induction =>
      by_cases permitted : allowed start event = true
      · simp only [runEvents, permitted, if_true] at computed
        obtain ⟨middle, taken, rest⟩ := Option.bind_eq_some_iff.mp computed
        exact .cons permitted taken (induction rest)
      · simp [runEvents, permitted] at computed

/-- A run that was carried out and whose last state passed a check. -/
theorem exists_of_runEvents {allowed : σ → ε → Bool} {check : σ → Bool}
    (computed : (runEvents step allowed start events).any check = true) :
    ∃ finish, Run step (fun state event => allowed state event = true) start events finish ∧
      check finish = true := by
  cases result : runEvents step allowed start events with
  | none => simp [result] at computed
  | some finish => exact ⟨finish, of_runEvents result, by simpa [result] using computed⟩

end Run

/-! ## The call table -/

/-- What a call is doing. -/
inductive Status (φ : Type u) (ρ : Type v) where
  | running (frame : φ)
  | returned (result : ρ)
deriving DecidableEq, Repr

/-- A call: the operation it was made for and its status. -/
structure Call (α : Type*) (φ : Type*) (ρ : Type*) where
  op : α
  status : Status φ ρ
deriving DecidableEq, Repr

/-- All calls ever made and not lost, by ticket. -/
abbrev Calls (α : Type*) (φ : Type*) (ρ : Type*) := Dict ℕ (Call α φ ρ)

/-- The frame of a running call. -/
def Status.frame? {φ : Type u} {ρ : Type v} : Status φ ρ → Option φ
  | .running frame => some frame
  | .returned _ => none

namespace Calls

variable {α : Type*} {φ : Type u} {ρ : Type v}

/-- The action the call is about to take, if it is running. -/
def frameAt (calls : Calls α φ ρ) (ticket : ℕ) : Option φ :=
  (calls.lookup ticket).bind fun call => call.status.frame?

/-- The call has finished with this result. -/
def Returned (calls : Calls α φ ρ) (ticket : ℕ) (op : α) (result : ρ) : Prop :=
  calls.lookup ticket = some { op, status := .returned result }

instance [DecidableEq α] [DecidableEq φ] [DecidableEq ρ] (calls : Calls α φ ρ) (ticket : ℕ)
    (op : α) (result : ρ) : Decidable (calls.Returned ticket op result) :=
  inferInstanceAs (Decidable (_ = _))

/-- No call is in progress. -/
def Quiescent (calls : Calls α φ ρ) : Prop :=
  ∀ ticket, calls.frameAt ticket = none

/-- Make a call: it is suspended in front of its first action. -/
def start (calls : Calls α φ ρ) (ticket : ℕ) (op : α) (frame : φ) : Calls α φ ρ :=
  AList.insert ticket { op, status := .running frame } calls

/-- Let a call move on. -/
def advance (calls : Calls α φ ρ) (ticket : ℕ) (status : Status φ ρ) : Calls α φ ρ :=
  calls.modify ticket fun call => { call with status }

/-- Forget the running calls, as when the process they run in stops. -/
def dropRunning (calls : Calls α φ ρ) : Calls α φ ρ :=
  calls.retain fun _ call => call.status.frame?.isNone

theorem quiescent_iff {calls : Calls α φ ρ} :
    calls.Quiescent ↔ ∀ call ∈ Dict.values calls, call.status.frame?.isNone = true := by
  constructor
  · intro quiescent call member
    obtain ⟨ticket, found⟩ := Dict.mem_values_iff.mp member
    simpa [frameAt, found] using quiescent ticket
  · intro finished ticket
    unfold frameAt
    cases found : calls.lookup ticket with
    | none => rfl
    | some call =>
        simpa using finished call (Dict.mem_values_iff.mpr ⟨ticket, found⟩)

instance (calls : Calls α φ ρ) : Decidable calls.Quiescent :=
  decidable_of_iff _ quiescent_iff.symm

theorem frameAt_eq_some_iff {calls : Calls α φ ρ} {ticket : ℕ} {frame : φ} :
    calls.frameAt ticket = some frame ↔
      ∃ op, calls.lookup ticket = some { op, status := .running frame } := by
  unfold frameAt
  constructor
  · intro found
    obtain ⟨⟨op, status⟩, stored, running⟩ := Option.bind_eq_some_iff.mp found
    cases status with
    | running actual =>
        cases running
        exact ⟨op, stored⟩
    | returned result => cases running
  · intro stored
    obtain ⟨op, stored⟩ := stored
    simp [stored, Status.frame?]

theorem Returned.frameAt {calls : Calls α φ ρ} {ticket : ℕ} {op : α} {result : ρ}
    (returned : calls.Returned ticket op result) : calls.frameAt ticket = none := by
  rw [Calls.frameAt, returned]
  rfl

theorem frameAt_start (calls : Calls α φ ρ) (ticket other : ℕ) (op : α) (frame : φ) :
    (calls.start ticket op frame).frameAt other =
      if other = ticket then some frame else calls.frameAt other := by
  unfold frameAt start
  rw [Dict.lookup_insert_ite]
  split <;> simp [Status.frame?]

theorem frameAt_advance {calls : Calls α φ ρ} {ticket : ℕ} {frame : φ}
    (running : calls.frameAt ticket = some frame) (status : Status φ ρ) (other : ℕ) :
    (calls.advance ticket status).frameAt other =
      if other = ticket then status.frame? else calls.frameAt other := by
  obtain ⟨op, stored⟩ := frameAt_eq_some_iff.mp running
  unfold frameAt advance
  rw [Dict.lookup_modify]
  split <;> simp [stored]

theorem lookup_advance (calls : Calls α φ ρ) (ticket other : ℕ) (status : Status φ ρ) :
    AList.lookup other (calls.advance ticket status) =
      if other = ticket then (calls.lookup ticket).map fun call => { call with status }
      else calls.lookup other :=
  Dict.lookup_modify calls ticket other _

theorem frameAt_dropRunning (calls : Calls α φ ρ) (ticket : ℕ) :
    calls.dropRunning.frameAt ticket = none := by
  unfold frameAt dropRunning
  rw [Dict.lookup_retain]
  cases found : calls.lookup ticket with
  | none => rfl
  | some call =>
      cases finished : call.status.frame? with
      | none => simp
      | some frame => simp [Option.filter, finished]

/-! ### One call at a time -/

/-- This call is running and all others have finished. -/
structure Only (calls : Calls α φ ρ) (ticket : ℕ) (op : α) (frame : φ) : Prop where
  running : calls.lookup ticket = some { op, status := .running frame }
  others : ∀ other, other ≠ ticket → calls.frameAt other = none

theorem Quiescent.start {calls : Calls α φ ρ} (quiescent : calls.Quiescent) (ticket : ℕ) (op : α)
    (frame : φ) : (calls.start ticket op frame).Only ticket op frame := by
  constructor
  · rw [Calls.start, Dict.lookup_insert_ite, if_pos rfl]
  · intro other elsewhere
    rw [frameAt_start, if_neg elsewhere, quiescent]

namespace Only

variable {calls : Calls α φ ρ} {ticket : ℕ} {op : α} {frame : φ}

theorem frameAt (only : calls.Only ticket op frame) : calls.frameAt ticket = some frame :=
  frameAt_eq_some_iff.mpr ⟨op, only.running⟩

theorem eq_of_frameAt (only : calls.Only ticket op frame) {other : ℕ} {seen : φ}
    (running : calls.frameAt other = some seen) : other = ticket ∧ seen = frame := by
  by_cases same : other = ticket
  · subst other
    exact ⟨rfl, Option.some.inj (running.symm.trans only.frameAt)⟩
  · rw [only.others other same] at running
    cases running

theorem not_quiescent (only : calls.Only ticket op frame) : ¬calls.Quiescent := by
  intro quiescent
  cases (quiescent ticket).symm.trans only.frameAt

theorem goes (only : calls.Only ticket op frame) (later : φ) :
    (calls.advance ticket (.running later)).Only ticket op later := by
  constructor
  · rw [lookup_advance, if_pos rfl, only.running]
    rfl
  · intro other elsewhere
    rw [frameAt_advance only.frameAt, if_neg elsewhere, only.others other elsewhere]

theorem returns (only : calls.Only ticket op frame) (result : ρ) :
    (calls.advance ticket (.returned result)).Quiescent ∧
      (calls.advance ticket (.returned result)).Returned ticket op result := by
  constructor
  · intro other
    rw [frameAt_advance only.frameAt]
    split
    · rfl
    · rename_i elsewhere
      exact only.others other elsewhere
  · rw [Returned, lookup_advance, if_pos rfl, only.running]
    rfl

end Only

/-! ### Calls of one kind

`view` picks the frames of one kind of call and forgets the others. -/

variable {ψ : Type*} {view : φ → Option ψ} {wanted : ψ → Bool} {first : ψ → Prop}

def viewAt (calls : Calls α φ ρ) (view : φ → Option ψ) (ticket : ℕ) : Option ψ :=
  (calls.frameAt ticket).bind view

/-- Some call is about to take an action of the wanted kind. -/
def inFlight (calls : Calls α φ ρ) (view : φ → Option ψ) (wanted : ψ → Bool) : Bool :=
  (Dict.values calls).any fun call => (call.status.frame?.bind view).any wanted

theorem inFlight_iff {calls : Calls α φ ρ} :
    calls.inFlight view wanted = true ↔
      ∃ ticket mine, calls.viewAt view ticket = some mine ∧ wanted mine = true := by
  unfold inFlight viewAt frameAt
  rw [List.any_eq_true]
  constructor
  · intro running
    obtain ⟨call, member, holds⟩ := running
    obtain ⟨ticket, stored⟩ := Dict.mem_values_iff.mp member
    cases seen : call.status.frame?.bind view with
    | none => simp [seen] at holds
    | some mine => exact ⟨ticket, mine, by simp [stored, seen], by simpa [seen] using holds⟩
  · intro running
    obtain ⟨ticket, mine, seen, accepted⟩ := running
    cases stored : calls.lookup ticket with
    | none => simp [stored] at seen
    | some call =>
        refine ⟨call, Dict.mem_values_iff.mpr ⟨ticket, stored⟩, ?_⟩
        rw [stored, Option.bind_some] at seen
        simp [seen, accepted]

theorem viewAt_advance {calls : Calls α φ ρ} {ticket : ℕ} {frame : φ}
    (running : calls.frameAt ticket = some frame) (status : Status φ ρ) (other : ℕ) :
    (calls.advance ticket status).viewAt view other =
      if other = ticket then status.frame?.bind view else calls.viewAt view other := by
  unfold viewAt
  rw [frameAt_advance running]
  split <;> rfl

theorem Quiescent.viewAt {calls : Calls α φ ρ} (quiescent : calls.Quiescent) (ticket : ℕ) :
    calls.viewAt view ticket = none := by
  simp [Calls.viewAt, quiescent ticket]

theorem Quiescent.inFlight {calls : Calls α φ ρ} (quiescent : calls.Quiescent) :
    calls.inFlight view wanted = false := by
  rw [← Bool.not_eq_true, inFlight_iff]
  intro running
  obtain ⟨ticket, mine, seen, _⟩ := running
  rw [quiescent.viewAt ticket] at seen
  cases seen

section Moving

variable {calls later : Calls α φ ρ} {ticket : ℕ} {frame : φ} {mine : ψ}

/-- The moving call enters the wanted kind. -/
theorem inFlight_arrives {target : φ} (running : calls.frameAt ticket = some frame)
    (moved : later = calls.advance ticket (.running target)) (seen : view target = some mine)
    (accepted : wanted mine = true) : later.inFlight view wanted = true := by
  refine inFlight_iff.mpr ⟨ticket, mine, ?_, accepted⟩
  rw [moved, viewAt_advance running, if_pos rfl]
  exact seen

/-- A call of the wanted kind stays while another one moves. -/
theorem inFlight_stays {status : Status φ ρ} (running : calls.frameAt ticket = some frame)
    (seen : view frame = some mine) (moved : later = calls.advance ticket status)
    (outside : wanted mine = false) (before : calls.inFlight view wanted = true) :
    later.inFlight view wanted = true := by
  obtain ⟨other, held, found, accepted⟩ := inFlight_iff.mp before
  refine inFlight_iff.mpr ⟨other, held, ?_, accepted⟩
  rw [moved, viewAt_advance running, if_neg]
  · exact found
  · intro same
    rw [same, viewAt, running, Option.bind_some, seen] at found
    cases found
    rw [outside] at accepted
    cases accepted

end Moving

/-- The calls of one kind are where they were; new ones are about to take a
first action. -/
structure Undisturbed (view : φ → Option ψ) (first : ψ → Prop) (calls later : Calls α φ ρ) :
    Prop where
  kept : ∀ {ticket mine}, calls.viewAt view ticket = some mine →
    later.viewAt view ticket = some mine
  begun : ∀ {ticket mine}, later.viewAt view ticket = some mine →
    calls.viewAt view ticket = some mine ∨ first mine

namespace Undisturbed

variable {calls later : Calls α φ ρ}

theorem refl (calls : Calls α φ ρ) : Undisturbed view first calls calls :=
  ⟨id, Or.inl⟩

theorem of_start {ticket : ℕ} {op : α} {frame : φ} (free : calls.lookup ticket = none)
    (entry : ∀ mine, view frame = some mine → first mine) :
    Undisturbed view first calls (calls.start ticket op frame) := by
  constructor
  · intro other mine seen
    unfold viewAt at seen ⊢
    rw [frameAt_start, if_neg]
    · exact seen
    · intro same
      rw [same] at seen
      simp [frameAt, free] at seen
  · intro other mine seen
    unfold viewAt at seen ⊢
    rw [frameAt_start] at seen
    split at seen
    · exact Or.inr (entry mine seen)
    · exact Or.inl seen

theorem of_advance {ticket : ℕ} {frame : φ} {status : Status φ ρ}
    (running : calls.frameAt ticket = some frame) (outside : view frame = none)
    (arrives : ∀ other mine, status = .running other → view other = some mine → first mine) :
    Undisturbed view first calls (calls.advance ticket status) := by
  constructor
  · intro other mine seen
    rw [viewAt_advance running, if_neg]
    · exact seen
    · intro same
      rw [same] at seen
      simp [viewAt, running, outside] at seen
  · intro other mine seen
    rw [viewAt_advance running] at seen
    split at seen
    · cases status with
      | running next => exact Or.inr (arrives next mine rfl seen)
      | returned result => cases seen
    · exact Or.inl seen

theorem inFlight (undisturbed : Undisturbed view first calls later)
    (past : ∀ mine, wanted mine = true → ¬first mine) :
    later.inFlight view wanted = calls.inFlight view wanted := by
  rw [Bool.eq_iff_iff, inFlight_iff, inFlight_iff]
  constructor
  · intro found
    obtain ⟨ticket, mine, seen, accepted⟩ := found
    rcases undisturbed.begun seen with before | new
    · exact ⟨ticket, mine, before, accepted⟩
    · exact absurd new (past mine accepted)
  · intro found
    obtain ⟨ticket, mine, seen, accepted⟩ := found
    exact ⟨ticket, mine, undisturbed.kept seen, accepted⟩

end Undisturbed

end Calls

end Library
