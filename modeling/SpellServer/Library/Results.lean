import Mathlib.Data.List.Forall2

/-!
# Fallible computations

How a chain of fallible steps, and a list of them, succeed and fail.
-/

namespace Library.Results

variable {ε α β : Type}

theorem bind_eq_error_iff {first : Except ε α} {later : α → Except ε β} {error : ε} :
    first >>= later = .error error ↔
      first = .error error ∨ ∃ value, first = .ok value ∧ later value = .error error := by
  cases first with
  | error other => simp [Bind.bind, Except.bind]
  | ok value => simp [Bind.bind, Except.bind]

theorem bind_eq_ok_iff {first : Except ε α} {later : α → Except ε β} {result : β} :
    first >>= later = .ok result ↔ ∃ value, first = .ok value ∧ later value = .ok result := by
  cases first with
  | error other => simp [Bind.bind, Except.bind]
  | ok value => simp [Bind.bind, Except.bind]

theorem map_eq_ok_iff {attempt : Except ε α} {f : α → β} {result : β} :
    attempt.map f = .ok result ↔ ∃ value, attempt = .ok value ∧ f value = result := by
  cases attempt with
  | error error => simp [Except.map]
  | ok value => simp [Except.map]

theorem mapError_eq_ok_iff {ε' : Type} {attempt : Except ε α} {f : ε → ε'} {value : α} :
    attempt.mapError f = .ok value ↔ attempt = .ok value := by
  cases attempt with
  | error error => simp [Except.mapError]
  | ok other => simp [Except.mapError]

theorem mapError_eq_error_iff {ε' : Type} {attempt : Except ε α} {f : ε → ε'} {error : ε'} :
    attempt.mapError f = .error error ↔ ∃ cause, attempt = .error cause ∧ f cause = error := by
  cases attempt with
  | error cause => simp [Except.mapError]
  | ok value => simp [Except.mapError]

/-- Every item succeeds, and the results are in order. -/
theorem mapM_eq_ok_iff {attempt : α → Except ε β} {items : List α} {results : List β} :
    items.mapM attempt = .ok results ↔
      List.Forall₂ (fun item result => attempt item = .ok result) items results := by
  induction items generalizing results with
  | nil =>
      rw [List.mapM_nil]
      constructor
      · intro done
        cases done
        exact .nil
      · intro done
        cases done
        rfl
  | cons item items induction =>
      rw [List.mapM_cons, bind_eq_ok_iff]
      constructor
      · intro done
        obtain ⟨first, here, done⟩ := done
        obtain ⟨rest, behind, done⟩ := bind_eq_ok_iff.mp done
        cases done
        exact .cons here (induction.mp behind)
      · intro done
        cases done with
        | cons here behind =>
            refine ⟨_, here, bind_eq_ok_iff.mpr ⟨_, induction.mpr behind, rfl⟩⟩

/-- The error of a list is that of one of its items. -/
theorem mapM_eq_error {attempt : α → Except ε β} {items : List α} {error : ε}
    (failed : items.mapM attempt = .error error) : ∃ item ∈ items, attempt item = .error error := by
  induction items with
  | nil => cases failed
  | cons item items induction =>
      rw [List.mapM_cons, bind_eq_error_iff] at failed
      rcases failed with here | ⟨_, _, behind⟩
      · exact ⟨item, List.mem_cons_self, here⟩
      · rcases bind_eq_error_iff.mp behind with behind | ⟨_, _, done⟩
        · obtain ⟨other, member, fails⟩ := induction behind
          exact ⟨other, List.mem_cons_of_mem _ member, fails⟩
        · cases done

/-- What comes out of a list of attempts is what comes out of one of them. -/
theorem mem_of_mapM_iff {attempt : α → Except ε β} {items : List α} {results : List β}
    (done : items.mapM attempt = .ok results) (result : β) :
    result ∈ results ↔ ∃ item ∈ items, attempt item = .ok result := by
  have pairs := mapM_eq_ok_iff.mp done
  induction pairs with
  | nil => simp
  | cons here behind induction =>
      rename_i item first items rest
      rw [List.mem_cons, List.exists_mem_cons_iff, here]
      apply or_congr _ (induction (mapM_eq_ok_iff.mpr behind))
      constructor
      · intro same
        exact congrArg Except.ok same.symm
      · intro same
        cases same
        rfl

end Library.Results
