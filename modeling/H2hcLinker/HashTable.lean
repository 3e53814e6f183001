import Mathlib.Data.Finmap
import Mathlib.Data.Finset.Basic

/-! Finite hash maps with one value type. Lookup, insert and erase are those of `Finmap`;
this adds the bulk updates that keep some entries or rewrite every value in place.
Iteration order is not represented: two tables with the same lookups are equal. -/
namespace HashTable

abbrev Table (K V : Type) := Finmap fun _ : K => V

variable {K V : Type}

/-- Keep the entries the predicate accepts. -/
def retain (keep : K → V → Bool) (t : Table K V) : Table K V where
  entries := t.entries.filter fun e => keep e.1 e.2
  nodupKeys := by
    rcases t with ⟨⟨l⟩, distinct⟩
    exact List.NodupKeys.sublist List.filter_sublist distinct

/-- Rewrite every value, keys unchanged. -/
def mapValues (f : V → V) (t : Table K V) : Table K V where
  entries := t.entries.map fun e => ⟨e.1, f e.2⟩
  nodupKeys := by
    rcases t with ⟨⟨l⟩, distinct⟩
    have keys : List.keys (l.map fun e : Sigma fun _ : K => V => (⟨e.1, f e.2⟩ : Sigma fun _ : K => V)) =
        l.keys := by
      simp [List.keys, Function.comp_def]
    change (List.keys _).Nodup
    rw [keys]
    exact distinct

/-- The number of entries. -/
def size (t : Table K V) : Nat := t.entries.card

/-- The values, one for each key and in no order. -/
def values (t : Table K V) : Multiset V := t.entries.map (·.2)

/-- A new entry for every entry, under a key of its own. -/
def mapEntries {J W : Type} (f : K ↪ J) (g : K → V → W) (t : Table K V) : Table J W where
  entries := t.entries.map fun e => ⟨f e.1, g e.1 e.2⟩
  nodupKeys := by
    rcases t with ⟨⟨l⟩, distinct⟩
    have keys : List.keys (l.map fun e : Sigma fun _ : K => V =>
        (⟨f e.1, g e.1 e.2⟩ : Sigma fun _ : J => W)) = l.keys.map f := by
      simp [List.keys, Function.comp_def]
    change (List.keys _).Nodup
    rw [keys]
    exact List.Nodup.map f.injective distinct

theorem size_eq_card_keys (t : Table K V) : size t = t.keys.card := by
  simp [size, Finmap.keys, Finset.card, Multiset.keys]

theorem size_retain_add_size_retain_not (keep : K → V → Bool) (t : Table K V) :
    size (retain keep t) + size (retain (fun k v => !keep k v) t) = size t := by
  have parts := Multiset.filter_add_not (fun e : Sigma fun _ : K => V => keep e.1 e.2 = true) t.entries
  have cards := congrArg Multiset.card parts
  rw [Multiset.card_add] at cards
  simpa [size, retain] using cards

/-- Tables with the same keys have as many entries. -/
theorem size_congr {W : Type} {t : Table K V} {u : Table K W} (same : ∀ k, k ∈ t ↔ k ∈ u) :
    size t = size u := by
  have keys : t.keys = u.keys := by
    ext k
    rw [Finmap.mem_keys, Finmap.mem_keys, same]
  rw [size_eq_card_keys, size_eq_card_keys, keys]

theorem size_pos_iff {t : Table K V} : 0 < size t ↔ ∃ k, k ∈ t := by
  rw [size_eq_card_keys, Finset.card_pos]
  exact exists_congr fun _ => Finmap.mem_keys

variable [DecidableEq K]

theorem mem_values {t : Table K V} {v : V} : v ∈ values t ↔ ∃ k, t.lookup k = some v := by
  simp only [values, Multiset.mem_map, Finmap.lookup_eq_some_iff]
  constructor
  · rintro ⟨⟨k, value⟩, member, rfl⟩
    exact ⟨k, member⟩
  · rintro ⟨k, member⟩
    exact ⟨⟨k, v⟩, member, rfl⟩

theorem lookup_mapEntries_eq_some {J W : Type} [DecidableEq J] {f : K ↪ J} {g : K → V → W}
    {t : Table K V} {j : J} {w : W} :
    (mapEntries f g t).lookup j = some w ↔ ∃ k v, t.lookup k = some v ∧ f k = j ∧ g k v = w := by
  simp only [Finmap.lookup_eq_some_iff, mapEntries, Multiset.mem_map]
  constructor
  · rintro ⟨⟨k, v⟩, member, same⟩
    obtain ⟨rfl, rfl⟩ := Sigma.mk.inj_iff.mp same
    exact ⟨k, v, member, rfl, rfl⟩
  · rintro ⟨k, v, member, rfl, rfl⟩
    exact ⟨⟨k, v⟩, member, rfl⟩

theorem lookup_insert_eq (t : Table K V) (k j : K) (v : V) :
    (t.insert k v).lookup j = if j = k then some v else t.lookup j := by
  by_cases same : j = k
  · subst same
    simp
  · simp [same, Finmap.lookup_insert_of_ne]

theorem lookup_erase_eq (t : Table K V) (k j : K) :
    (t.erase k).lookup j = if j = k then none else t.lookup j := by
  by_cases same : j = k
  · subst same
    simp
  · simp [same, Finmap.lookup_erase_ne]

@[simp] theorem lookup_retain (keep : K → V → Bool) (t : Table K V) (k : K) :
    (retain keep t).lookup k = (t.lookup k).filter (keep k) := by
  ext v
  simp only [Option.filter_eq_some_iff, Finmap.lookup_eq_some_iff, retain, Multiset.mem_filter]

@[simp] theorem lookup_mapValues (f : V → V) (t : Table K V) (k : K) :
    (mapValues f t).lookup k = (t.lookup k).map f := by
  ext v
  simp only [Option.map_eq_some_iff, Finmap.lookup_eq_some_iff, mapValues, Multiset.mem_map]
  constructor
  · rintro ⟨⟨key, value⟩, member, same⟩
    obtain ⟨rfl, rfl⟩ := Sigma.mk.inj_iff.mp same
    exact ⟨value, member, rfl⟩
  · rintro ⟨value, member, rfl⟩
    exact ⟨⟨k, value⟩, member, rfl⟩

theorem mem_retain_iff {keep : K → V → Bool} {t : Table K V} {k : K} :
    k ∈ retain keep t ↔ ∃ v, t.lookup k = some v ∧ keep k v = true := by
  rw [Finmap.mem_iff]
  simp only [lookup_retain, Option.filter_eq_some_iff]

theorem mem_retain {keep : K → V → Bool} {t : Table K V} {k : K} (kept : k ∈ retain keep t) :
    ∃ v, t.lookup k = some v ∧ keep k v = true :=
  mem_retain_iff.mp kept

theorem mem_of_mem_retain {keep : K → V → Bool} {t : Table K V} {k : K} (kept : k ∈ retain keep t) :
    k ∈ t := by
  obtain ⟨v, found, _⟩ := mem_retain kept
  exact Finmap.mem_of_lookup_eq_some found

theorem lookup_of_retain {keep : K → V → Bool} {t : Table K V} {k : K} {v : V}
    (found : (retain keep t).lookup k = some v) : t.lookup k = some v := by
  rw [lookup_retain, Option.filter_eq_some_iff] at found
  exact found.1

theorem retain_eq_self_iff {keep : K → V → Bool} {t : Table K V} :
    retain keep t = t ↔ ∀ k v, t.lookup k = some v → keep k v = true := by
  constructor
  · intro same k v found
    have still : (retain keep t).lookup k = some v := by rw [same, found]
    rw [lookup_retain, Option.filter_eq_some_iff] at still
    exact still.2
  · intro all
    apply Finmap.ext_lookup
    intro k
    rw [lookup_retain]
    cases found : t.lookup k with
    | none => rfl
    | some v => exact Option.filter_eq_some_iff.mpr ⟨rfl, all k v found⟩

/-- Where both tables have the key, the first wins. -/
theorem lookup_union_eq_some {t u : Table K V} {k : K} {v : V} :
    (t ∪ u).lookup k = some v ↔ t.lookup k = some v ∨ k ∉ t ∧ u.lookup k = some v :=
  Finmap.mem_lookup_union

theorem size_retain_key_pos (t : Table K V) (k : K) :
    0 < size (retain (fun key _ => key = k) t) ↔ k ∈ t := by
  rw [size_pos_iff]
  simp only [mem_retain_iff, decide_eq_true_eq]
  constructor
  · rintro ⟨_, v, found, rfl⟩
    exact Finmap.mem_of_lookup_eq_some found
  · intro member
    obtain ⟨v, found⟩ := Finmap.mem_iff.mp member
    exact ⟨k, v, found, rfl⟩

end HashTable
