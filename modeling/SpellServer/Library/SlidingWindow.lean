import Mathlib.Algebra.Order.Group.Nat

/-!
# Triggers of a sliding window

A history lists instants, the latest first.  An instant is a trigger once as
many instants lie in the window that ends at it as the threshold asks for, those
up to the trigger before not counted.  Instants that have left a window do not
come back, so that they may be forgotten.
-/

namespace Library

namespace SlidingWindow

/-- The instants in `(now - window, now]`. -/
def inSpan (window now : ℕ) (times : List ℕ) : List ℕ :=
  times.filter fun time => now < time + window ∧ time ≤ now

/-- The instants after the last trigger. -/
def sinceTrigger (threshold window : ℕ) : List ℕ → List ℕ
  | [] => []
  | now :: earlier =>
      if threshold ≤ (inSpan window now (sinceTrigger threshold window earlier)).length + 1 then []
      else now :: sinceTrigger threshold window earlier

/-- An instant is a trigger after those before it. -/
def Trigger (threshold window : ℕ) (earlier : List ℕ) (now : ℕ) : Prop :=
  threshold ≤ (inSpan window now (sinceTrigger threshold window earlier)).length + 1

instance (threshold window : ℕ) (earlier : List ℕ) (now : ℕ) :
    Decidable (Trigger threshold window earlier now) := inferInstanceAs (Decidable (_ ≤ _))

def lastTrigger (threshold window : ℕ) : List ℕ → Option ℕ
  | [] => none
  | now :: earlier =>
      if Trigger threshold window earlier now then some now
      else lastTrigger threshold window earlier

variable {threshold window now later : ℕ} {history times : List ℕ}

theorem sinceTrigger_of_trigger (trigger : Trigger threshold window history now) :
    sinceTrigger threshold window (now :: history) = [] := if_pos trigger

theorem sinceTrigger_of_not_trigger (calm : ¬Trigger threshold window history now) :
    sinceTrigger threshold window (now :: history) =
      now :: sinceTrigger threshold window history := if_neg calm

theorem lastTrigger_of_trigger (trigger : Trigger threshold window history now) :
    lastTrigger threshold window (now :: history) = some now := if_pos trigger

theorem lastTrigger_of_not_trigger (calm : ¬Trigger threshold window history now) :
    lastTrigger threshold window (now :: history) = lastTrigger threshold window history :=
  if_neg calm

theorem lastTrigger_mem {time : ℕ} (last : lastTrigger threshold window history = some time) :
    time ∈ history := by
  induction history with
  | nil => cases last
  | cons now earlier induction =>
      by_cases trigger : Trigger threshold window earlier now
      · rw [lastTrigger_of_trigger trigger] at last
        cases last
        exact List.mem_cons_self
      · rw [lastTrigger_of_not_trigger trigger] at last
        exact List.mem_cons_of_mem _ (induction last)

/-- A later trigger takes the place of an earlier one, and none goes away. -/
theorem lastTrigger_append {recent : List ℕ} {time : ℕ}
    (ordered : ∀ instant ∈ recent, time ≤ instant)
    (last : lastTrigger threshold window history = some time) :
    ∃ trigger, time ≤ trigger ∧
      lastTrigger threshold window (recent ++ history) = some trigger := by
  induction recent with
  | nil => exact ⟨time, le_refl time, last⟩
  | cons now recent induction =>
      obtain ⟨trigger, order, found⟩ := induction fun instant member =>
        ordered instant (List.mem_cons_of_mem now member)
      by_cases starts : Trigger threshold window (recent ++ history) now
      · exact ⟨now, ordered now List.mem_cons_self, lastTrigger_of_trigger starts⟩
      · exact ⟨trigger, order, (lastTrigger_of_not_trigger starts).trans found⟩

/-! ## Forgetting -/

theorem inSpan_append (times more : List ℕ) :
    inSpan window now (times ++ more) = inSpan window now times ++ inSpan window now more :=
  List.filter_append ..

theorem inSpan_reverse (times : List ℕ) :
    inSpan window now times.reverse = (inSpan window now times).reverse :=
  List.filter_reverse

/-- How the age of an instant is compared with the window. -/
theorem filter_age (past : ∀ time ∈ times, time ≤ now) :
    times.filter (fun time => now - time < window) = inSpan window now times := by
  apply List.filter_congr
  intro time member
  have before := past time member
  rw [decide_eq_decide]
  omega

/-- What has left the window at one instant is outside at all later ones. -/
theorem inSpan_inSpan (past : ∀ time ∈ times, time ≤ now) (order : now ≤ later) :
    inSpan window later (inSpan window now times) = inSpan window later times := by
  unfold inSpan
  rw [List.filter_filter]
  apply List.filter_congr
  intro time member
  have before := past time member
  rw [← Bool.decide_and, decide_eq_decide]
  omega

end SlidingWindow

end Library
