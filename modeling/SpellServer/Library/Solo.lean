import SpellServer.Library.Interleaving

/-!
# One call with nothing in between

`solo` carries a single call to its end, one input for each action.  The frame
rule bounds what such a call changes by what each action changes.  The unwinding
rule is about two of them side by side: matched calls that move in step give
related results.
-/

namespace Library

universe u v w x

/-- Two statuses of one kind whose contents are related. -/
inductive Status.Related {φ : Type u} {ρ : Type v} (frames : φ → φ → Prop)
    (results : ρ → ρ → Prop) : Status φ ρ → Status φ ρ → Prop where
  | running {left right : φ} (matched : frames left right) :
      Related frames results (.running left) (.running right)
  | returned {left right : ρ} (related : results left right) :
      Related frames results (.returned left) (.returned right)

variable {ι : Type u} {σ : Type v} {φ : Type w} {ρ : Type x}

/-- `none` when the inputs do not last to the end of the call. -/
def solo (exec : ι → σ → φ → σ × Status φ ρ) : List ι → σ → φ → Option (σ × ρ)
  | [], _, _ => none
  | input :: inputs, state, frame =>
      let outcome := exec input state frame
      match outcome.2 with
      | .returned result => some (outcome.1, result)
      | .running later => solo exec inputs outcome.1 later

section Rules

variable {exec : ι → σ → φ → σ × Status φ ρ}

theorem solo_returned {input : ι} {inputs : List ι} {state after : σ} {frame : φ} {result : ρ}
    (moves : exec input state frame = (after, .returned result)) :
    solo exec (input :: inputs) state frame = some (after, result) := by
  simp only [solo, moves]

theorem solo_running {input : ι} {inputs : List ι} {state after : σ} {frame later : φ}
    (moves : exec input state frame = (after, .running later)) :
    solo exec (input :: inputs) state frame = solo exec inputs after later := by
  simp only [solo, moves]

/-- The frame rule.  `holds` is what is known in front of each action. -/
theorem solo_frame {allowed : ι → Prop} (keeps : σ → σ → Prop) (holds : σ → φ → Prop)
    (trans : ∀ {first second third}, keeps first second → keeps second third → keeps first third)
    (acts : ∀ input state frame, allowed input → holds state frame →
      keeps state (exec input state frame).1 ∧
        ∀ later, (exec input state frame).2 = .running later →
          holds (exec input state frame).1 later)
    {inputs : List ι} {state after : σ} {frame : φ} {result : ρ}
    (permitted : ∀ input ∈ inputs, allowed input) (starts : holds state frame)
    (ends : solo exec inputs state frame = some (after, result)) : keeps state after := by
  induction inputs generalizing state frame with
  | nil => cases ends
  | cons input inputs induction =>
      obtain ⟨kept, goes⟩ := acts input state frame (permitted input List.mem_cons_self) starts
      cases moves : exec input state frame with
      | mk middle status =>
          rw [moves] at kept goes
          cases status with
          | returned result =>
              rw [solo_returned moves] at ends
              cases ends
              exact kept
          | running later =>
              rw [solo_running moves] at ends
              have rest := induction (fun other member =>
                permitted other (List.mem_cons_of_mem input member)) (goes later rfl) ends
              exact trans kept rest

/-- What the result satisfies, whichever way the call goes. -/
theorem solo_result (holds : σ → φ → Prop) (post : ρ → Prop)
    (goes : ∀ input state frame later, holds state frame →
      (exec input state frame).2 = .running later → holds (exec input state frame).1 later)
    (returns : ∀ input state frame result, holds state frame →
      (exec input state frame).2 = .returned result → post result)
    {inputs : List ι} {state after : σ} {frame : φ} {result : ρ} (starts : holds state frame)
    (ends : solo exec inputs state frame = some (after, result)) : post result := by
  induction inputs generalizing state frame with
  | nil => cases ends
  | cons input inputs induction =>
      have going := goes input state frame
      have returning := returns input state frame
      cases moves : exec input state frame with
      | mk middle status =>
          rw [moves] at going returning
          cases status with
          | returned reached =>
              rw [solo_returned moves] at ends
              cases ends
              exact returning _ starts rfl
          | running later =>
              rw [solo_running moves] at ends
              exact induction (going later starts rfl) ends

/-- The unwinding rule. -/
theorem solo_unwinding {τ : Type v} {other : ι → τ → φ → τ × Status φ ρ} {alike : ι → ι → Prop}
    (matched : σ → φ → τ → φ → Prop) (same : ρ → ρ → Prop)
    (acts : ∀ input state frame input' state' frame', alike input input' →
      matched state frame state' frame' →
      Status.Related
        (fun later later' =>
          matched (exec input state frame).1 later (other input' state' frame').1 later')
        same (exec input state frame).2 (other input' state' frame').2)
    {inputs inputs' : List ι} {state : σ} {state' : τ} {frame frame' : φ}
    (inputsAlike : List.Forall₂ alike inputs inputs') (starts : matched state frame state' frame') :
    Option.Rel (fun left right => same left.2 right.2)
      (solo exec inputs state frame) (solo other inputs' state' frame') := by
  induction inputsAlike generalizing state state' frame frame' with
  | nil => exact .none
  | @cons input input' inputs inputs' first _ induction =>
      have related := acts input state frame input' state' frame' first starts
      cases moves : exec input state frame with
      | mk middle status =>
          cases moves' : other input' state' frame' with
          | mk middle' status' =>
              rw [moves, moves'] at related
              cases related with
              | running goes =>
                  rw [solo_running moves, solo_running moves']
                  exact induction goes
              | returned sameResult =>
                  rw [solo_returned moves, solo_returned moves']
                  exact .some sameResult

end Rules

end Library
