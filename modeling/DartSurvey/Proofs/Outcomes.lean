/-!
# Steps that can fail

What comes of one step after another, and of the same step for every item of a list: a list is gone through as
far as the first item that fails, whose error it gives (`mapM_error_iff`).
-/

namespace DartSurvey

variable {α β ε : Type} {f : α → Except ε β}

/-- Two steps succeed exactly if the second does with what the first gives. -/
theorem bind_ok_iff {x : Except ε α} {b : β} : x >>= f = .ok b ↔ ∃ a, x = .ok a ∧ f a = .ok b := by
  cases x with
  | error e => simp [bind, Except.bind]
  | ok a => simp [bind, Except.bind]

/-- An error of two steps is one of the first, or of the second after the first. -/
theorem bind_error_iff {x : Except ε α} {e : ε} :
    x >>= f = .error e ↔ x = .error e ∨ ∃ a, x = .ok a ∧ f a = .error e := by
  cases x with
  | error e' => simp [bind, Except.bind]
  | ok a => simp [bind, Except.bind]

/-- Where only the first of two steps can fail, it alone decides. -/
theorem map_outcomes (f : α → β) (x : Except ε α) :
    ((∃ b, x.map f = .ok b) ↔ ∃ a, x = .ok a) ∧ ∀ e, x.map f = .error e ↔ x = .error e := by
  cases x <;> simp [Except.map]

/-- A list is gone through to its end exactly if the step succeeds for each item. -/
theorem mapM_ok_iff {xs : List α} : (∃ ys, xs.mapM f = .ok ys) ↔ ∀ x ∈ xs, ∃ y, f x = .ok y := by
  induction xs with
  | nil => simp [pure, Except.pure]
  | cons x xs ih =>
    rw [List.mapM_cons, List.forall_mem_cons, ← ih]
    cases hx : f x with
    | error e => simp [bind, Except.bind]
    | ok y =>
      cases hxs : xs.mapM f with
      | error e => simp [bind, Except.bind]
      | ok ys => simp [bind, Except.bind, pure, Except.pure]

/-- The first item for which the step fails gives the error. -/
theorem mapM_error_iff {xs : List α} {e : ε} : xs.mapM f = .error e ↔
    ∃ before x after, xs = before ++ x :: after ∧ (∀ b ∈ before, ∃ y, f b = .ok y) ∧ f x = .error e := by
  induction xs with
  | nil => simp [pure, Except.pure]
  | cons x xs ih =>
    rw [List.mapM_cons]
    cases hx : f x with
    | error e' =>
      constructor
      · intro h
        cases h
        exact ⟨[], x, xs, rfl, by simp, hx⟩
      · rintro ⟨before, x', after, hsplit, hbefore, hx'⟩
        cases before with
        | nil =>
          cases hsplit
          rw [hx] at hx'
          cases hx'
          rfl
        | cons b before =>
          cases hsplit
          obtain ⟨y, hy⟩ := hbefore x List.mem_cons_self
          rw [hx] at hy
          cases hy
    | ok y =>
      have hrest : (do let ys ← xs.mapM f; pure (y :: ys)) = .error e ↔ xs.mapM f = .error e := by
        cases xs.mapM f with
        | error e' => rfl
        | ok ys => exact iff_of_false (fun h => by cases h) (fun h => by cases h)
      refine hrest.trans (ih.trans ?_)
      constructor
      · rintro ⟨before, x', after, rfl, hbefore, hx'⟩
        exact ⟨x :: before, x', after, rfl, List.forall_mem_cons.mpr ⟨⟨y, hx⟩, hbefore⟩, hx'⟩
      · rintro ⟨before, x', after, hsplit, hbefore, hx'⟩
        cases before with
        | nil =>
          cases hsplit
          rw [hx] at hx'
          cases hx'
        | cons b before =>
          cases hsplit
          exact ⟨before, x', after, rfl, (List.forall_mem_cons.mp hbefore).2, hx'⟩

end DartSurvey
