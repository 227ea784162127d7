import SpellServer.Library.Interleaving

/-!
# A lock among interleaved calls

The lock holds the ticket of the call that has it.  It is guarded when that call
is the one whose frame lies between taking and releasing it, and no other frame
does.
-/

namespace Library

namespace Calls

variable {α φ ρ : Type*} {holds : φ → Prop} {lock : Option ℕ} {calls : Calls α φ ρ}
  {ticket : ℕ} {frame : φ} {status : Status φ ρ}

/-- The lock belongs to the call, if any, whose frame holds it. -/
def Guarded (holds : φ → Prop) (lock : Option ℕ) (calls : Calls α φ ρ) : Prop :=
  ∀ ticket, lock = some ticket ↔ ∃ frame, calls.frameAt ticket = some frame ∧ holds frame

theorem Guarded.empty : Guarded holds none (∅ : Calls α φ ρ) := by
  intro ticket
  constructor
  · intro held
    cases held
  · intro inside
    obtain ⟨frame, running, _⟩ := inside
    cases running

namespace Guarded

theorem owner (guarded : Guarded holds lock calls) (running : calls.frameAt ticket = some frame)
    (inside : holds frame) : lock = some ticket :=
  (guarded ticket).mpr ⟨frame, running, inside⟩

/-- Two calls are not inside at once. -/
theorem exclusive (guarded : Guarded holds lock calls) {other : ℕ} {otherFrame : φ}
    (running : calls.frameAt ticket = some frame) (inside : holds frame)
    (otherRunning : calls.frameAt other = some otherFrame) (otherInside : holds otherFrame) :
    other = ticket := by
  have first := guarded.owner running inside
  have second := guarded.owner otherRunning otherInside
  exact Option.some.inj (second.symm.trans first)

theorem start (guarded : Guarded holds lock calls) (unused : calls.lookup ticket = none) {op : α}
    (outside : ¬holds frame) : Guarded holds lock (calls.start ticket op frame) := by
  intro other
  rw [frameAt_start]
  by_cases same : other = ticket
  · subst other
    rw [if_pos rfl]
    constructor
    · intro held
      obtain ⟨before, running, _⟩ := (guarded ticket).mp held
      rw [frameAt, unused] at running
      cases running
    · intro inside
      obtain ⟨entered, equal, inside⟩ := inside
      cases equal
      exact absurd inside outside
  · rw [if_neg same]
    exact guarded other

/-- A call moves on without crossing the border of the lock. -/
theorem stays (guarded : Guarded holds lock calls) (running : calls.frameAt ticket = some frame)
    (side : (∃ later, status.frame? = some later ∧ holds later) ↔ holds frame) :
    Guarded holds lock (calls.advance ticket status) := by
  intro other
  rw [frameAt_advance running]
  by_cases same : other = ticket
  · subst other
    rw [if_pos rfl, side, guarded ticket, running]
    simp
  · rw [if_neg same]
    exact guarded other

theorem acquires (guarded : Guarded holds none calls) (running : calls.frameAt ticket = some frame)
    {later : φ} (inside : holds later) :
    Guarded holds (some ticket) (calls.advance ticket (.running later)) := by
  intro other
  rw [frameAt_advance running]
  by_cases same : other = ticket
  · subst other
    rw [if_pos rfl]
    exact iff_of_true rfl ⟨later, rfl, inside⟩
  · rw [if_neg same, ← guarded other]
    constructor
    · intro held
      exact absurd (Option.some.inj held).symm same
    · intro held
      cases held

theorem releases (guarded : Guarded holds lock calls) (running : calls.frameAt ticket = some frame)
    (inside : holds frame) (outside : ∀ later, status.frame? = some later → ¬holds later) :
    Guarded holds none (calls.advance ticket status) := by
  intro other
  rw [frameAt_advance running]
  refine iff_of_false (Option.some_ne_none other).symm ?_
  intro held
  obtain ⟨seen, otherRunning, otherInside⟩ := held
  by_cases same : other = ticket
  · rw [if_pos same] at otherRunning
    exact outside seen otherRunning otherInside
  · rw [if_neg same] at otherRunning
    exact same (guarded.exclusive running inside otherRunning otherInside)

end Guarded

end Calls

end Library
