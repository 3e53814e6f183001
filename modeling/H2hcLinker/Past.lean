import Mathlib.Data.List.Induction

/-! What a growing list of events says of its past. -/
namespace Past

variable {α : Type} {calm : α → Prop} {P Q : List α → α → Prop} {xs : List α} {x : α}

/-- At some event `P` held of it and of what came before, and every event since was calm. -/
def Since (calm : α → Prop) (P : List α → α → Prop) (xs : List α) : Prop :=
  ∃ before x after, xs = before ++ x :: after ∧ P before x ∧ ∀ y ∈ after, calm y

/-- At some event `P` held. -/
def Once (P : List α → α → Prop) : List α → Prop := Since (fun _ => True) P

/-- An event of a longer list is its last one, or was there before. -/
theorem snoc_split {y : α} {before after : List α} (split : xs ++ [x] = before ++ y :: after) :
    (before = xs ∧ y = x) ∨ ∃ more, xs = before ++ y :: more := by
  rcases List.eq_nil_or_concat after with rfl | ⟨more, z, rfl⟩
  · obtain ⟨rfl, same⟩ := List.append_inj' split rfl
    exact .inl ⟨rfl, (List.cons.inj same).1.symm⟩
  · rw [List.concat_eq_append, ← List.cons_append, ← List.append_assoc] at split
    exact .inr ⟨more, (List.append_inj' split rfl).1⟩

theorem not_since_nil : ¬Since calm P [] := by
  rintro ⟨before, x, after, empty, _⟩
  simp at empty

theorem since_now (holds : P xs x) : Since calm P (xs ++ [x]) :=
  ⟨xs, x, [], rfl, holds, fun _ member => nomatch member⟩

theorem Since.later (since : Since calm P xs) (quiet : calm x) : Since calm P (xs ++ [x]) := by
  obtain ⟨before, y, after, rfl, holds, rest⟩ := since
  refine ⟨before, y, after ++ [x], by simp, holds, ?_⟩
  intro z member
  rcases List.mem_append.mp member with old | new
  · exact rest z old
  · cases List.mem_singleton.mp new
    exact quiet

theorem since_snoc : Since calm P (xs ++ [x]) ↔ P xs x ∨ Since calm P xs ∧ calm x := by
  constructor
  · rintro ⟨before, y, after, split, holds, rest⟩
    rcases snoc_split split with ⟨rfl, rfl⟩ | ⟨more, rfl⟩
    · exact .inl holds
    · obtain rfl : after = more ++ [x] := by simpa using split.symm
      exact .inr ⟨⟨before, y, more, rfl, holds, fun z member => rest z (by simp [member])⟩,
        rest x (by simp)⟩
  · rintro (now | ⟨since, quiet⟩)
    · exact since_now now
    · exact since.later quiet

theorem once_snoc : Once P (xs ++ [x]) ↔ Once P xs ∨ P xs x := by
  constructor
  · rintro ⟨before, y, after, split, holds, _⟩
    rcases snoc_split split with ⟨rfl, rfl⟩ | ⟨more, rfl⟩
    · exact .inr holds
    · exact .inl ⟨before, y, more, rfl, holds, fun _ _ => trivial⟩
  · rintro (old | new)
    · exact Since.later old trivial
    · exact since_now new

/-- Every event so far met the condition when it came. -/
def Always (P : List α → α → Prop) (xs : List α) : Prop :=
  ∀ before x after, xs = before ++ x :: after → P before x

theorem always_nil : Always P [] := by
  intro before x after empty
  simp at empty

theorem Always.snoc (always : Always P xs) (holds : P xs x) : Always P (xs ++ [x]) := by
  intro before y after split
  rcases snoc_split split with ⟨rfl, rfl⟩ | ⟨more, earlier⟩
  · exact holds
  · exact always before y more earlier

theorem Since.always (since : Since calm P xs) (always : Always Q xs) :
    Since calm (fun before x => P before x ∧ Q before x) xs := by
  obtain ⟨before, x, after, rfl, holds, rest⟩ := since
  exact ⟨before, x, after, rfl, ⟨holds, always before x after rfl⟩, rest⟩

theorem Since.mono (since : Since calm P xs) (implies : ∀ before x, P before x → Q before x) :
    Since calm Q xs := by
  obtain ⟨before, x, after, split, holds, rest⟩ := since
  exact ⟨before, x, after, split, implies before x holds, rest⟩

theorem Since.once (since : Since calm P xs) : Once P xs := by
  obtain ⟨before, x, after, split, holds, _⟩ := since
  exact ⟨before, x, after, split, holds, fun _ _ => trivial⟩

theorem Once.exists_mem (once : Once P xs) : ∃ x ∈ xs, ∃ before, P before x := by
  obtain ⟨before, x, after, rfl, holds, _⟩ := once
  exact ⟨x, by simp, before, holds⟩

theorem Once.later (once : Once P xs) : Once P (xs ++ [x]) := Since.later once trivial

theorem not_once_nil : ¬Once P [] := not_since_nil

theorem Once.append (once : Once P xs) (more : List α) : Once P (xs ++ more) := by
  obtain ⟨before, x, after, rfl, holds, _⟩ := once
  exact ⟨before, x, after ++ more, by simp, holds, fun _ _ => trivial⟩

/-- What held once held for a first time. -/
theorem Once.first (once : Once P xs) :
    ∃ before x after, xs = before ++ x :: after ∧ P before x ∧ ¬Once P before := by
  induction xs using List.reverseRecOn with
  | nil => exact absurd once not_once_nil
  | append_singleton xs x ih =>
    by_cases earlier : Once P xs
    · obtain ⟨before, y, after, rfl, holds, first⟩ := ih earlier
      exact ⟨before, y, after ++ [x], by simp, holds, first⟩
    · rcases once_snoc.mp once with old | now
      · exact absurd old earlier
      · exact ⟨xs, x, [], rfl, now, earlier⟩

/-- There is one last event of a kind. -/
theorem last_unique {P : α → Prop} {before before' after after' : List α} {x x' : α}
    (split : before ++ x :: after = before' ++ x' :: after') (holds : P x) (holds' : P x')
    (none : ∀ y ∈ after, ¬P y) (none' : ∀ y ∈ after', ¬P y) :
    before = before' ∧ x = x' ∧ after = after' := by
  rcases List.append_eq_append_iff.mp split with ⟨more, rfl, rest⟩ | ⟨more, rfl, rest⟩
  · cases more with
    | nil => simpa using rest
    | cons y more =>
      obtain ⟨rfl, rfl⟩ := List.cons.inj rest
      exact absurd holds' (none x' (by simp))
  · cases more with
    | nil => simpa [eq_comm] using rest
    | cons y more =>
      obtain ⟨rfl, rfl⟩ := List.cons.inj rest
      exact absurd holds (none' x (by simp))

/-- What the last event adds to a log. -/
theorem filterMap_snoc {β : Type} (f : α → Option β) (xs : List α) (x : α) :
    (xs ++ [x]).filterMap f = xs.filterMap f ++ (f x).toList := by
  rw [List.filterMap_append]
  cases logged : f x with
  | none => rw [List.filterMap_cons_none logged]; rfl
  | some entry => rw [List.filterMap_cons_some logged]; rfl

/-- A count that is bounded class by class is bounded. -/
theorem countP_le_of_classes {β : Type} [DecidableEq β] (f : α → β) {p q : α → Bool} (xs : List α)
    (bounded : ∀ b, xs.countP (fun x => p x && decide (f x = b)) ≤
      xs.countP fun x => q x && decide (f x = b)) : xs.countP p ≤ xs.countP q := by
  induction size : xs.length using Nat.strongRecOn generalizing xs with
  | _ n ih =>
    cases xs with
    | nil => simp
    | cons x xs =>
      let others := (x :: xs).filter fun y => !decide (f y = f x)
      have split (r : α → Bool) : (x :: xs).countP r =
          (x :: xs).countP (fun y => r y && decide (f y = f x)) + others.countP r := by
        rw [List.countP_eq_countP_filter_add _ r fun y => decide (f y = f x), List.countP_filter]
      have fewer : others.length < n := by
        have dropped : others = xs.filter fun y => !decide (f y = f x) := by simp [others]
        have most : (xs.filter fun y => !decide (f y = f x)).length ≤ xs.length :=
          List.length_filter_le _ _
        rw [dropped, ← size, List.length_cons]
        omega
      have rest : others.countP p ≤ others.countP q := by
        apply ih _ fewer others _ rfl
        intro b
        rw [List.countP_filter, List.countP_filter]
        by_cases same : b = f x
        · have none (r : α → Bool) : (x :: xs).countP
              (fun y => (r y && decide (f y = b)) && !decide (f y = f x)) = 0 := by
            simp [List.countP_eq_zero, same]
          rw [none]
          exact Nat.zero_le _
        · have all (r : α → Bool) : (fun y => (r y && decide (f y = b)) && !decide (f y = f x)) =
              fun y => r y && decide (f y = b) := by
            funext y
            by_cases mine : f y = b
            · simp [mine, same]
            · simp [mine]
          rw [all, all]
          exact bounded b
      rw [split p, split q]
      exact Nat.add_le_add (bounded (f x)) rest

end Past
