import H2hcLinker.HashTable
import Mathlib.Algebra.Ring.Nat
import Mathlib.Data.List.Dedup

/-! Values collected under keys of a hash map one after another, and the orders in which an
iteration over the map may visit its entries. -/
namespace Grouping

open HashTable

variable {α K V : Type} [DecidableEq K]

/-- An iteration order of the table: every entry once. -/
structure Enumerates (order : List (K × V)) (t : Table K V) : Prop where
  distinct : (order.map Prod.fst).Nodup
  complete : ∀ k v, (k, v) ∈ order ↔ t.lookup k = some v

/-- One more value for the key, which gets an entry with its first value. -/
def push (t : Table K (List V)) (k : K) (v : V) : Table K (List V) :=
  t.insert k ((t.lookup k).getD [] ++ [v])

def collect (key : α → K) (value : α → V) (xs : List α) : Table K (List V) :=
  xs.foldl (fun t x => push t (key x) (value x)) ∅

/-- The values of a key, in the order they came. -/
def valuesAt (key : α → K) (value : α → V) (xs : List α) (k : K) : List V :=
  (xs.filter (key · = k)).map value

variable {key : α → K} {value : α → V} {xs : List α}

theorem collect_snoc (xs : List α) (x : α) :
    collect key value (xs ++ [x]) = push (collect key value xs) (key x) (value x) := by
  rw [collect, List.foldl_append]
  rfl

theorem valuesAt_snoc (xs : List α) (x : α) (k : K) :
    valuesAt key value (xs ++ [x]) k =
      if key x = k then valuesAt key value xs k ++ [value x] else valuesAt key value xs k := by
  simp only [valuesAt, List.filter_append, List.map_append, List.filter_singleton]
  by_cases here : key x = k
  · simp [here]
  · simp [here]

theorem valuesAt_eq_nil {k : K} (absent : k ∉ xs.map key) : valuesAt key value xs k = [] := by
  rw [valuesAt, List.map_eq_nil_iff, List.filter_eq_nil_iff]
  intro x member here
  exact absent (List.mem_map.mpr ⟨x, member, of_decide_eq_true here⟩)

/-- The keys that occurred have their values in order, the others no entry. -/
theorem lookup_collect (xs : List α) (k : K) :
    (collect key value xs).lookup k =
      if k ∈ xs.map key then some (valuesAt key value xs k) else none := by
  induction xs using List.reverseRecOn with
  | nil => rfl
  | append_singleton xs x ih =>
    rw [collect_snoc, push, lookup_insert_eq, valuesAt_snoc]
    by_cases here : k = key x
    · subst here
      rw [if_pos rfl, if_pos rfl, if_pos (by simp), ih]
      split
      next => rfl
      next absent => rw [valuesAt_eq_nil absent]; rfl
    · rw [if_neg here, if_neg (Ne.symm here), ih]
      simp [here]

/-- The keys in the order of their last occurrence are one such order. -/
theorem enumerates_dedup (key : α → K) (value : α → V) (xs : List α) :
    Enumerates ((xs.map key).dedup.map fun k => (k, valuesAt key value xs k))
      (collect key value xs) where
  distinct := by
    rw [List.map_map, show Prod.fst ∘ (fun k => (k, valuesAt key value xs k)) = id from rfl,
      List.map_id]
    exact List.nodup_dedup _
  complete k vs := by
    rw [lookup_collect, List.mem_map]
    constructor
    · rintro ⟨k, occurs, same⟩
      cases same
      rw [if_pos (List.mem_dedup.mp occurs)]
    · intro found
      split at found
      next occurs => exact ⟨k, List.mem_dedup.mpr occurs, by rw [Option.some.inj found]⟩
      next => cases found

theorem mem_order_iff {order : List (K × List V)}
    (enumerates : Enumerates order (collect key value xs)) (k : K) (vs : List V) :
    (k, vs) ∈ order ↔ k ∈ xs.map key ∧ vs = valuesAt key value xs k := by
  rw [enumerates.complete, lookup_collect]
  split
  next occurs => simp [occurs, eq_comm]
  next absent => simp [absent]

/-- An entry as the pairs it holds. -/
def pairs (entry : K × List V) : List (K × V) := entry.2.map (entry.1, ·)

theorem pairs_valuesAt (key : α → K) (value : α → V) (xs : List α) (k : K) :
    pairs (k, valuesAt key value xs k) =
      (xs.filter (key · = k)).map fun x => (key x, value x) := by
  rw [pairs, valuesAt, List.map_map]
  apply List.map_congr_left
  intro x member
  have here : key x = k := by simpa using (List.mem_filter.mp member).2
  rw [here]
  rfl

/-- Some of the entries hold what came under their keys. -/
theorem flatMap_pairs_perm {order : List (K × List V)} (distinct : (order.map Prod.fst).Nodup)
    (each : ∀ entry ∈ order, entry.2 = valuesAt key value xs entry.1) :
    (order.flatMap pairs).Perm
      ((xs.filter (key · ∈ order.map Prod.fst)).map fun x => (key x, value x)) := by
  induction order with
  | nil => simp
  | cons entry rest ih =>
    obtain ⟨k, vs⟩ := entry
    obtain ⟨fresh, distinct⟩ := List.nodup_cons.mp distinct
    have later := ih distinct fun entry member => each entry (List.mem_cons_of_mem _ member)
    obtain rfl : vs = valuesAt key value xs k := each (k, vs) List.mem_cons_self
    rw [List.flatMap_cons, pairs_valuesAt]
    -- What came under one of the keys came under the first or under one of the others.
    have parts : ∀ keys : List K, k ∉ keys →
        (xs.filter (key · = k) ++ xs.filter (key · ∈ keys)).Perm (xs.filter (key · ∈ k :: keys)) := by
      intro keys fresh
      have split := List.filter_append_perm (key · = k) (xs.filter (key · ∈ k :: keys))
      rw [List.filter_filter, List.filter_filter] at split
      have first : (fun x => decide (key x = k) && decide (key x ∈ k :: keys)) =
          fun x => decide (key x = k) := by
        funext x
        by_cases here : key x = k <;> simp [here]
      have others : (fun x => !decide (key x = k) && decide (key x ∈ k :: keys)) =
          fun x => decide (key x ∈ keys) := by
        funext x
        by_cases here : key x = k <;> simp [here, fresh]
      rwa [first, others] at split
    have joined := (parts _ fresh).map fun x => (key x, value x)
    rw [List.map_append] at joined
    exact (later.append_left _).trans joined

/-- Whatever the order, each value that was collected is visited once, under its own key. -/
theorem Enumerates.flatMap_perm {order : List (K × List V)}
    (enumerates : Enumerates order (collect key value xs)) :
    (order.flatMap pairs).Perm (xs.map fun x => (key x, value x)) := by
  have each : ∀ entry ∈ order, entry.2 = valuesAt key value xs entry.1 :=
    fun entry member => ((mem_order_iff enumerates entry.1 entry.2).mp member).2
  have whole : xs.filter (key · ∈ order.map Prod.fst) = xs := by
    rw [List.filter_eq_self]
    intro x member
    have entry := (mem_order_iff enumerates (key x) _).mpr ⟨List.mem_map_of_mem member, rfl⟩
    exact decide_eq_true (List.mem_map_of_mem (f := Prod.fst) entry)
  have visited := flatMap_pairs_perm enumerates.distinct each
  rwa [whole] at visited

/-- The sizes of the entries under certain keys add up to the number of values that came there. -/
theorem Enumerates.sum_length {order : List (K × List V)}
    (enumerates : Enumerates order (collect key value xs)) (p : K → Bool) :
    (order.map fun entry => if p entry.1 then entry.2.length else 0).sum =
      (xs.filter fun x => p (key x)).length := by
  have counted := enumerates.flatMap_perm.countP_eq (fun pair => p pair.1)
  rw [List.countP_flatMap, List.countP_map] at counted
  rw [← List.countP_eq_length_filter]
  calc (order.map fun entry => if p entry.1 then entry.2.length else 0).sum
      = (order.map (List.countP (fun pair => p pair.1) ∘ pairs)).sum := by
        congr 1
        apply List.map_congr_left
        intro entry _
        rw [Function.comp_apply, pairs, List.countP_map]
        by_cases accepted : p entry.1 <;> simp [accepted, Function.comp_def]
    _ = xs.countP fun x => p (key x) := counted

end Grouping
