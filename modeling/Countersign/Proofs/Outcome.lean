import Mathlib.Data.List.Forall2

/-! Runs that may fail, read backwards: what has to have gone well for a result to be there. -/
namespace Countersign.Outcome

variable {ε ε' α β γ : Type}

theorem pure_eq_ok {a : α} : (pure a : Except ε α) = .ok a := rfl

@[simp] theorem pure_eq_ok_iff {a b : α} : (pure a : Except ε α) = .ok b ↔ a = b :=
  ⟨Except.ok.inj, congrArg Except.ok⟩

@[simp] theorem ok_bind {a : α} {f : α → Except ε β} : (Except.ok a >>= f) = f a := rfl

@[simp] theorem bind_eq_ok_iff {x : Except ε α} {f : α → Except ε β} {b : β} :
    (x >>= f) = .ok b ↔ ∃ a, x = .ok a ∧ f a = .ok b := by
  cases x with
  | error e => exact ⟨nofun, fun ⟨_, failed, _⟩ => nomatch failed⟩
  | ok a =>
    constructor
    · intro second
      exact ⟨a, rfl, second⟩
    · rintro ⟨_, first, second⟩
      cases first
      exact second

/-- A step that is a fault under a condition. -/
theorem guard_eq_ok_iff {c : Prop} [Decidable c] {e : ε} {f : α → Except ε β} {x : Except ε β}
    {b : β} : (if c then throw e >>= f else x) = .ok b ↔ ¬ c ∧ x = .ok b := by
  split
  · rename_i met
    exact ⟨nofun, fun ⟨unmet, _⟩ => absurd met unmet⟩
  · rename_i unmet
    exact ⟨fun fine => ⟨unmet, fine⟩, And.right⟩

/-- A result that takes a proof of a condition. -/
theorem dite_eq_ok_iff {c : Prop} [Decidable c] {e : ε} {f : c → α} {a : α} :
    (if met : c then Except.ok (f met) else .error e) = .ok a ↔ ∃ met, f met = a := by
  split
  · rename_i met
    exact ⟨fun made => ⟨met, Except.ok.inj made⟩, fun ⟨_, same⟩ => congrArg Except.ok same⟩
  · rename_i unmet
    exact ⟨nofun, fun ⟨met, _⟩ => absurd met unmet⟩

theorem bind_eq_error_iff {x : Except ε α} {f : α → Except ε β} {e : ε} :
    (x >>= f) = .error e ↔ x = .error e ∨ ∃ a, x = .ok a ∧ f a = .error e := by
  cases x with
  | error why =>
    constructor
    · intro failed
      cases failed
      exact .inl rfl
    · rintro (failed | ⟨_, fine, _⟩)
      · cases failed
        rfl
      · cases fine
  | ok a =>
    constructor
    · intro failed
      exact .inr ⟨a, rfl, failed⟩
    · rintro (failed | ⟨_, fine, failed⟩)
      · cases failed
      · cases fine
        exact failed

@[simp] theorem map_eq_ok_iff {x : Except ε α} {f : α → β} {b : β} :
    x.map f = .ok b ↔ ∃ a, x = .ok a ∧ f a = b := by
  cases x <;> simp [Except.map]

theorem map_eq_error_iff {x : Except ε α} {f : α → β} {e : ε} :
    x.map f = .error e ↔ x = .error e := by
  cases x <;> simp [Except.map]

@[simp] theorem mapError_eq_ok_iff {x : Except ε α} {f : ε → ε'} {a : α} :
    x.mapError f = .ok a ↔ x = .ok a := by
  cases x <;> simp [Except.mapError]

theorem mapError_eq_error_iff {x : Except ε α} {f : ε → ε'} {e : ε'} :
    x.mapError f = .error e ↔ ∃ why, x = .error why ∧ f why = e := by
  cases x <;> simp [Except.mapError]

theorem toOption_eq_some_iff {x : Except ε α} {a : α} : x.toOption = some a ↔ x = .ok a := by
  cases x <;> simp [Except.toOption]

/-- What is only looked at has to be there all the same. -/
theorem discard_eq_ok_iff {x : Except ε α} {u : Unit} : discard x = .ok u ↔ ∃ a, x = .ok a := by
  cases x with
  | error e => exact ⟨nofun, nofun⟩
  | ok a => exact ⟨fun _ => ⟨a, rfl⟩, fun _ => rfl⟩

/-- What only follows up on a result fails with what it follows. -/
theorem bind_pure_eq_error_iff {x : Except ε α} {f : α → β} {e : ε} :
    (x >>= fun a => pure (f a)) = .error e ↔ x = .error e := by
  cases x with
  | error why => exact ⟨fun failed => by cases failed; rfl, fun failed => by cases failed; rfl⟩
  | ok a => exact ⟨nofun, nofun⟩

/-- A list is gone through without a fault just if each of its elements is. -/
theorem mapM_eq_ok_iff {f : α → Except ε β} {inputs : List α} {outputs : List β} :
    inputs.mapM f = .ok outputs ↔ List.Forall₂ (fun a b => f a = .ok b) inputs outputs := by
  induction inputs generalizing outputs with
  | nil =>
    rw [List.mapM_nil, pure_eq_ok_iff, List.forall₂_nil_left_iff]
    exact eq_comm
  | cons a rest ih =>
    simp only [List.mapM_cons, bind_eq_ok_iff, pure_eq_ok_iff, List.forall₂_cons_left_iff, ih]
    constructor
    · rintro ⟨b, first, others, later, rfl⟩
      exact ⟨b, others, first, later, rfl⟩
    · rintro ⟨b, others, first, later, rfl⟩
      exact ⟨b, first, others, later, rfl⟩

/-- What lists are gone through with fails where the first element does. -/
theorem mapM_eq_error_iff {f : α → Except ε β} {inputs : List α} {e : ε} :
    inputs.mapM f = .error e ↔
      ∃ front a back, inputs = front ++ a :: back ∧ (∀ x ∈ front, ∃ b, f x = .ok b) ∧
        f a = .error e := by
  induction inputs with
  | nil => exact ⟨nofun, fun ⟨front, a, back, shape, _⟩ => by simp at shape⟩
  | cons first rest ih =>
    rw [List.mapM_cons]
    cases head : f first with
    | error why =>
      constructor
      · intro failed
        cases failed
        exact ⟨[], first, rest, rfl, nofun, head⟩
      · rintro ⟨front, a, back, shape, before, failed⟩
        cases front with
        | nil =>
          obtain ⟨rfl, rfl⟩ := List.cons.inj shape
          rw [head] at failed
          cases failed
          rfl
        | cons x more =>
          obtain ⟨rfl, _⟩ := List.cons.inj shape
          obtain ⟨b, fine⟩ := before first List.mem_cons_self
          rw [head] at fine
          cases fine
    | ok value =>
      have step : (Except.ok value >>= fun b => rest.mapM f >>= fun bs => pure (b :: bs)) =
          .error e ↔ rest.mapM f = .error e := by
        rw [ok_bind, bind_pure_eq_error_iff]
      rw [step, ih]
      constructor
      · rintro ⟨front, a, back, rfl, before, failed⟩
        refine ⟨first :: front, a, back, rfl, ?_, failed⟩
        intro x member
        rcases List.mem_cons.1 member with rfl | later
        · exact ⟨value, head⟩
        · exact before x later
      · rintro ⟨front, a, back, shape, before, failed⟩
        cases front with
        | nil =>
          obtain ⟨rfl, rfl⟩ := List.cons.inj shape
          rw [head] at failed
          cases failed
        | cons x more =>
          obtain ⟨rfl, rfl⟩ := List.cons.inj shape
          exact ⟨more, a, back, rfl, fun y later => before y (List.mem_cons_of_mem _ later), failed⟩

theorem exists_forall₂_iff {R : α → β → Prop} {inputs : List α} :
    (∃ outputs, List.Forall₂ R inputs outputs) ↔ ∀ a ∈ inputs, ∃ b, R a b := by
  induction inputs with
  | nil => simp
  | cons a rest ih =>
    rw [List.forall_mem_cons, ← ih]
    constructor
    · rintro ⟨_, _ | ⟨first, others⟩⟩
      exact ⟨⟨_, first⟩, _, others⟩
    · rintro ⟨⟨b, first⟩, outputs, others⟩
      exact ⟨b :: outputs, .cons first others⟩

/-- Outputs that are made of what the inputs lead to. -/
theorem exists_forall₂_map_iff {R : α → β → Prop} {f : β → γ} {inputs : List α} {made : List γ} :
    (∃ outputs, List.Forall₂ R inputs outputs ∧ made = outputs.map f) ↔
      List.Forall₂ (fun a c => ∃ b, R a b ∧ c = f b) inputs made := by
  constructor
  · rintro ⟨outputs, related, rfl⟩
    rw [List.forall₂_map_right_iff]
    exact related.imp fun _ b here => ⟨b, here, rfl⟩
  · intro related
    induction related with
    | nil => exact ⟨[], .nil, rfl⟩
    | cons first _ ih =>
      obtain ⟨b, here, rfl⟩ := first
      obtain ⟨outputs, others, rfl⟩ := ih
      exact ⟨b :: outputs, .cons here others, rfl⟩

theorem exists_mapM_iff {f : α → Except ε β} {inputs : List α} :
    (∃ outputs, inputs.mapM f = .ok outputs) ↔ ∀ a ∈ inputs, ∃ b, f a = .ok b := by
  simp only [mapM_eq_ok_iff, exists_forall₂_iff]

/-- Every output comes from an input. -/
theorem exists_input {R : α → β → Prop} {inputs : List α} {outputs : List β}
    (related : List.Forall₂ R inputs outputs) {b : β} (member : b ∈ outputs) :
    ∃ a ∈ inputs, R a b := by
  induction related with
  | nil => cases member
  | cons first _ ih =>
    rcases List.mem_cons.1 member with rfl | later
    · exact ⟨_, List.mem_cons_self, first⟩
    · obtain ⟨a, inside, here⟩ := ih later
      exact ⟨a, List.mem_cons_of_mem _ inside, here⟩

end Countersign.Outcome
