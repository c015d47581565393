/-! Taking apart computations that may fail. A sequence succeeds exactly when its first part does
and the rest succeeds on what that part returned. -/
namespace NaturalDeduction.Outcome

variable {ε ε' α β : Type}

@[simp] theorem ok_bind (a : α) (rest : α → Except ε β) : (Except.ok a >>= rest) = rest a := rfl

@[simp] theorem error_bind (e : ε) (rest : α → Except ε β) :
    (Except.error e >>= rest) = .error e := rfl

@[simp] theorem pure_eq_ok (a : α) : (pure a : Except ε α) = .ok a := rfl

@[simp] theorem mapError_ok (f : ε → ε') (a : α) : (Except.ok a).mapError f = .ok a := rfl

@[simp] theorem mapError_error (f : ε → ε') (e : ε) :
    (Except.error e : Except ε α).mapError f = .error (f e) := rfl

theorem ite_bind (condition : Prop) [Decidable condition] (a : α) (e : ε)
    (rest : α → Except ε β) :
    ((if condition then .ok a else .error e) >>= rest) =
      if condition then rest a else .error e := by
  split <;> rfl

theorem bind_eq_ok {first : Except ε α} {rest : α → Except ε β} {b : β} :
    (first >>= rest) = .ok b ↔ ∃ a, first = .ok a ∧ rest a = .ok b := by
  cases first with
  | error e => simp
  | ok a => simp

theorem mapError_eq_ok {f : ε → ε'} {outcome : Except ε α} {a : α} :
    outcome.mapError f = .ok a ↔ outcome = .ok a := by
  cases outcome with
  | error e => simp
  | ok a => simp

theorem mapM_map_eq_ok {γ : Type} {read : β → Except ε γ} {write : α → β} {value : α → γ}
    {as : List α} (reads : ∀ a ∈ as, read (write a) = .ok (value a)) :
    (as.map write).mapM read = .ok (as.map value) := by
  induction as with
  | nil => rfl
  | cons a rest ih =>
    obtain ⟨first, others⟩ := List.forall_mem_cons.mp reads
    simp [first, ih others]

theorem exists_of_foldlM_error {f : β → α → Except ε β} {as : List α} {b : β} {e : ε}
    (fails : as.foldlM f b = .error e) :
    ∃ us a vs c, as = us ++ a :: vs ∧ us.foldlM f b = .ok c ∧ f c a = .error e := by
  induction as generalizing b with
  | nil => cases fails
  | cons a as ih =>
    rw [List.foldlM_cons] at fails
    cases steps : f b a with
    | error refusal =>
      rw [steps] at fails
      cases fails
      exact ⟨[], a, as, b, rfl, rfl, steps⟩
    | ok next =>
      rw [steps, ok_bind] at fails
      obtain ⟨us, u, vs, c, rfl, runs, refused⟩ := ih fails
      exact ⟨a :: us, u, vs, c, rfl, by rw [List.foldlM_cons, steps, ok_bind, runs], refused⟩

end NaturalDeduction.Outcome
