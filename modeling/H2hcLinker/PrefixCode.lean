import Mathlib.Data.List.Basic

/-! Codes that are read off the front of a text. A code relates values to words; it is readable if a
text that begins with a word of one value does not begin with a word of any other. -/
namespace PrefixCode

variable {α β σ : Type} {code : α → List σ → Prop} {other : β → List σ → Prop} {stop : σ}

/-- Of a text that begins with a word both the value and what follows are determined. -/
def Readable (code : α → List σ → Prop) : Prop :=
  ∀ a b x y rest rest', code a x → code b y → x ++ rest = y ++ rest' → a = b ∧ rest = rest'

/-- A function that reads every word off a text witnesses it. -/
theorem readable_of_reader (read : List σ → Option (α × List σ))
    (reads : ∀ a x rest, code a x → read (x ++ rest) = some (a, rest)) : Readable code := by
  intro a b x y rest rest' one two same
  have first := reads a x rest one
  rw [same, reads b y rest' two] at first
  cases first
  exact ⟨rfl, rfl⟩

theorem Readable.injective (readable : Readable code) {a b : α} {x : List σ} (one : code a x)
    (two : code b x) : a = b :=
  (readable a b x x [] [] one two rfl).1

/-- The words of a code behind a mark. -/
def After (mark : List σ) (code : α → List σ → Prop) (a : α) (text : List σ) : Prop :=
  ∃ x, code a x ∧ text = mark ++ x

theorem Readable.after (readable : Readable code) (mark : List σ) : Readable (After mark code) := by
  rintro a b _ _ rest rest' ⟨x, one, rfl⟩ ⟨y, two, rfl⟩ same
  rw [List.append_assoc, List.append_assoc, List.append_cancel_left_eq] at same
  exact readable a b x y rest rest' one two same

/-- A word of one code, then one of another. -/
def Both (code : α → List σ → Prop) (other : β → List σ → Prop) (pair : α × β) (text : List σ) :
    Prop :=
  ∃ x y, code pair.1 x ∧ other pair.2 y ∧ text = x ++ y

theorem Readable.both (readable : Readable code) (others : Readable other) :
    Readable (Both code other) := by
  rintro ⟨a, a'⟩ ⟨b, b'⟩ _ _ rest rest' ⟨x, x', one, one', rfl⟩ ⟨y, y', two, two', rfl⟩ same
  rw [List.append_assoc, List.append_assoc] at same
  obtain ⟨rfl, tails⟩ := readable a b x y _ _ one two same
  obtain ⟨rfl, rests⟩ := others a' b' x' y' rest rest' one' two' tails
  exact ⟨rfl, rests⟩

/-- Words begin with some symbol, and not with this one. -/
def Avoids (stop : σ) (code : α → List σ → Prop) : Prop :=
  ∀ a x, code a x → ∃ first more, x = first :: more ∧ first ≠ stop

/-- Words of the values in turn, then the closing symbol. -/
inductive Closed (stop : σ) (code : α → List σ → Prop) : List α → List σ → Prop where
  | nil : Closed stop code [] [stop]
  | cons (a : α) (as : List α) (x text : List σ) (first : code a x)
      (later : Closed stop code as text) : Closed stop code (a :: as) (x ++ text)

theorem Avoids.ne_stop (avoids : Avoids stop code) {a : α} {x rest rest' : List σ} (one : code a x) :
    x ++ rest ≠ stop :: rest' := by
  intro same
  obtain ⟨first, more, rfl, different⟩ := avoids a x one
  exact different (List.cons.inj same).1

theorem Readable.closed (readable : Readable code) (avoids : Avoids stop code) :
    Readable (Closed stop code) := by
  intro as bs text text' rest rest' one two same
  induction one generalizing bs text' with
  | nil =>
    cases two with
    | nil => exact ⟨rfl, (List.cons.inj same).2⟩
    | cons b bs y text' first later =>
      rw [List.append_assoc] at same
      exact absurd same.symm (avoids.ne_stop first)
  | cons a as x text first later ih =>
    cases two with
    | nil =>
      rw [List.append_assoc] at same
      exact absurd same (avoids.ne_stop first)
    | cons b bs y text' first' later' =>
      rw [List.append_assoc, List.append_assoc] at same
      obtain ⟨rfl, tails⟩ := readable a b x y _ _ first first' same
      obtain ⟨rfl, rests⟩ := ih bs text' later' tails
      exact ⟨rfl, rests⟩

/-- Words of the values with a separator between them, then the closing symbol. -/
inductive Separated (sep stop : σ) (code : α → List σ → Prop) : List α → List σ → Prop where
  | nil : Separated sep stop code [] [stop]
  | cons (a : α) (as : List α) (x text : List σ) (first : code a x)
      (later : Closed stop (After [sep] code) as text) : Separated sep stop code (a :: as) (x ++ text)

theorem Readable.separated {sep : σ} (readable : Readable code) (avoids : Avoids stop code)
    (different : sep ≠ stop) : Readable (Separated sep stop code) := by
  have marked : Avoids stop (After [sep] code) := by
    rintro a _ ⟨x, _, rfl⟩
    exact ⟨sep, x, rfl, different⟩
  intro as bs text text' rest rest' one two same
  cases one with
  | nil =>
    cases two with
    | nil => exact ⟨rfl, (List.cons.inj same).2⟩
    | cons b bs y text' first later =>
      rw [List.append_assoc] at same
      exact absurd same.symm (avoids.ne_stop first)
  | cons a as x text first later =>
    cases two with
    | nil =>
      rw [List.append_assoc] at same
      exact absurd same (avoids.ne_stop first)
    | cons b bs y text' first' later' =>
      rw [List.append_assoc, List.append_assoc] at same
      obtain ⟨rfl, tails⟩ := readable a b x y _ _ first first' same
      obtain ⟨rfl, rests⟩ := (readable.after [sep]).closed marked as bs text text' rest rest' later
        later' tails
      exact ⟨rfl, rests⟩

theorem intercalate_cons (sep : σ) (x : List σ) (xs : List (List σ)) :
    [sep].intercalate (x :: xs) = x ++ xs.flatMap (sep :: ·) := by
  induction xs generalizing x with
  | nil => simp
  | cons y ys ih => rw [List.intercalate_cons_cons, ih, List.flatMap_cons]; simp

/-- Words of the values in turn, and nothing else. -/
inductive Each (code : α → List σ → Prop) : List α → List σ → Prop where
  | nil : Each code [] []
  | cons (a : α) (as : List α) (x text : List σ) (first : code a x) (later : Each code as text) :
      Each code (a :: as) (x ++ text)

/-- A decoder that takes a word for its value wherever one comes next. -/
theorem Each.decode {as : List α} {text : List σ} (decode : List σ → List α) (empty : decode [] = [])
    (reads : ∀ a x rest, code a x → decode (x ++ rest) = a :: decode rest)
    (each : Each code as text) : decode text = as := by
  induction each with
  | nil => exact empty
  | cons a as x text first later ih => rw [reads a x text first, ih]

theorem Each.mem {as : List α} {text : List σ} {c : σ} (each : Each code as text) (member : c ∈ text) :
    ∃ a x, code a x ∧ c ∈ x := by
  induction each with
  | nil => cases member
  | cons a as x text first later ih =>
    rcases List.mem_append.mp member with here | there
    · exact ⟨a, x, first, here⟩
    · exact ih there

/-- What a writer writes that writes each value by itself. -/
theorem each_flatMap (word : α → List σ) (writes : ∀ a, code a (word a)) (as : List α) :
    Each code as (as.flatMap word) := by
  induction as with
  | nil => exact .nil
  | cons a as ih => exact .cons a as (word a) _ (writes a) ih

theorem Each.closed {as : List α} {text : List σ} (stop : σ) (each : Each code as text) :
    Closed stop code as (text ++ [stop]) := by
  induction each with
  | nil => exact .nil
  | cons a as x text first later ih =>
    rw [List.append_assoc]
    exact .cons a as x _ first ih

theorem closed_flatMap (stop : σ) (word : α → List σ) (writes : ∀ a, code a (word a)) (as : List α) :
    Closed stop code as (as.flatMap word ++ [stop]) :=
  (each_flatMap word writes as).closed stop

/-- What a writer with separators writes. -/
theorem separated_intercalate (sep stop : σ) (word : α → List σ) (writes : ∀ a, code a (word a))
    (as : List α) : Separated sep stop code as ([sep].intercalate (as.map word) ++ [stop]) := by
  cases as with
  | nil => exact .nil
  | cons a as =>
    have marked (b : α) : After [sep] code b (sep :: word b) := ⟨word b, writes b, rfl⟩
    rw [List.map_cons, intercalate_cons, List.append_assoc, List.flatMap_map]
    exact .cons a as (word a) _ (writes a) (closed_flatMap stop _ marked as)

end PrefixCode
