/-! Cutting texts at separators and joining them again. -/
namespace Countersign.Text

/-- What stands before and after the first `sep`, if there is one. -/
def cut (sep : Char) (l : List Char) : Option (List Char × List Char) :=
  match l.dropWhile (· != sep) with
  | [] => none
  | _ :: after => some (l.takeWhile (· != sep), after)

/-- The same from the right: what stands before and after the last `sep`. -/
def cutLast (sep : Char) (l : List Char) : Option (List Char × List Char) :=
  (cut sep l.reverse).map fun (after, before) => (before.reverse, after.reverse)

/-- The pieces between the separators; one more than there are separators. -/
def fields (sep : Char) (s : String) : List String :=
  (s.toList.splitOn sep).map String.ofList

/-- The pieces with `sep` between them. -/
def join (sep : Char) (pieces : List String) : String :=
  String.ofList (List.intercalate [sep] (pieces.map String.toList))

/-- ASCII letters in lower case, all else as it is. -/
def lower (s : String) : String := String.ofList (s.toList.map Char.toLower)

/-- The text without `mark` at its front, if that is how it starts. -/
def dropFront (mark s : String) : String :=
  if mark.toList.isPrefixOf s.toList then String.ofList (s.toList.drop mark.length) else s

theorem cut_eq_none_iff {sep : Char} {l : List Char} : cut sep l = none ↔ sep ∉ l := by
  induction l with
  | nil => simp [cut]
  | cons c rest ih =>
    by_cases h : c = sep
    · simp [cut, h]
    · rw [List.mem_cons, not_or, ← ih]
      simp only [cut, List.dropWhile_cons, bne_iff_ne, ne_eq, h, not_false_eq_true, if_true,
        Ne.symm h, true_and]
      split <;> simp

/-- A cut loses nothing, and what stands before it is free of the separator. -/
theorem cut_eq_some_iff {sep : Char} {l before after : List Char} :
    cut sep l = some (before, after) ↔ l = before ++ sep :: after ∧ sep ∉ before := by
  induction l generalizing before with
  | nil => simp [cut]
  | cons c rest ih =>
    by_cases h : c = sep
    · subst h
      cases before with
      | nil => simp [cut]
      | cons d more =>
        simp only [cut, List.dropWhile_cons, bne_self_eq_false, Bool.false_eq_true, if_false,
          List.takeWhile_cons, Option.some.injEq, Prod.mk.injEq, reduceCtorEq, false_and,
          List.cons_append, List.cons.injEq, List.mem_cons, not_or, false_iff, not_and]
        exact fun same differ _ => differ same.1
    · have step : cut sep (c :: rest) = (cut sep rest).map fun p => (c :: p.1, p.2) := by
        simp only [cut, List.dropWhile_cons, List.takeWhile_cons, bne_iff_ne, ne_eq, h,
          not_false_eq_true, if_true]
        split <;> simp
      rw [step, Option.map_eq_some_iff]
      constructor
      · rintro ⟨⟨a, b⟩, found, same⟩
        cases same
        obtain ⟨shape, fresh⟩ := ih.1 found
        exact ⟨by simp [shape], by simp [Ne.symm h, fresh]⟩
      · rintro ⟨shape, fresh⟩
        cases before with
        | nil => exact absurd (List.cons.inj shape).1 h
        | cons d more =>
          obtain ⟨rfl, tail⟩ := List.cons.inj shape
          simp only [List.mem_cons, not_or] at fresh
          exact ⟨(more, after), ih.2 ⟨tail, fresh.2⟩, rfl⟩

end Countersign.Text
