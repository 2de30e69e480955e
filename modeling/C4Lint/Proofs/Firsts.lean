/-
# The first item of each key

Elements are told apart by their names, relationships by their keys, mentions by what they mention.
Wherever several items share a key, the first of them counts and the others are passed over.
`firstsBy key xs` is the list of the items that count.

The main statements are `firstsBy_filter` and `firstsBy_append`, by which the list can be taken
apart, `first_of_mem_firstsBy`, which says that its items do come first, and
`firstsBy_flatMap_firstsBy`: passing over an item loses none of its parts if the item that counts
has parts of the same names.  A state to which items are added one by one, unless their keys have
been seen, holds the first items of what was to be added (`Records.items_foldl`).
-/
import Mathlib.Data.List.Basic
import Mathlib.Tactic.Common

namespace C4Lint

variable {α β γ δ : Type} [DecidableEq β] [DecidableEq δ]

/-- The items of a list whose keys no item before them has, in their order. -/
def firstsBy (key : α → β) (xs : List α) : List α := xs.eraseDupsBy fun x y => key x = key y

variable (key : α → β)

@[simp] lemma firstsBy_nil : firstsBy key [] = [] := rfl

lemma firstsBy_cons_filter (x : α) (xs : List α) :
    firstsBy key (x :: xs) = x :: firstsBy key (xs.filter fun y => key y ≠ key x) := by
  rw [firstsBy, List.eraseDupsBy_cons, firstsBy]
  congr 3
  ext y
  by_cases h : key y = key x <;> simp [h]

/-- Which item counts among those of one key does not depend on the items of other keys. -/
theorem firstsBy_filter (p : β → Bool) (xs : List α) :
    firstsBy key (xs.filter fun x => p (key x)) = (firstsBy key xs).filter fun x => p (key x) := by
  -- for all `p` at once, since the head takes its own key out of the tail
  induction xs generalizing p with
  | nil => rfl
  | cons x xs ih =>
    have htail : firstsBy key (xs.filter fun y => key y ≠ key x)
        = (firstsBy key xs).filter fun y => key y ≠ key x := ih fun k => k ≠ key x
    by_cases hp : p (key x) = true
    · have hboth := ih fun k => decide (k ≠ key x) && p k
      rw [List.filter_cons_of_pos (by exact hp), firstsBy_cons_filter, firstsBy_cons_filter,
        List.filter_cons_of_pos (by exact hp), List.filter_filter, hboth, htail, List.filter_filter]
      simp only [Bool.and_comm]
    · rw [List.filter_cons_of_neg (by exact hp), firstsBy_cons_filter,
        List.filter_cons_of_neg (by exact hp), ih p, htail, List.filter_filter]
      -- the head is dropped, and with it all items of its key
      refine List.filter_congr fun y _ => ?_
      by_cases hy : p (key y) = true
      · have hne : key y ≠ key x := fun h => hp (h ▸ hy)
        simp [hne]
      · simp [hy]

/-- The first item counts, and it takes its key from the others. -/
lemma firstsBy_cons (x : α) (xs : List α) :
    firstsBy key (x :: xs) = x :: (firstsBy key xs).filter fun y => key y ≠ key x := by
  rw [firstsBy_cons_filter, firstsBy_filter key (fun k => k ≠ key x) xs]

example : firstsBy (fun n : Nat => n % 3) [1, 3, 4, 2, 1, 5] = [1, 3, 2] := by decide

/-- How a list of what counts grows while the keys that were seen are kept: `p` tells the keys not
seen before the item `x`, and `q` those not seen after it. -/
lemma firstsBy_filter_cons_of_pos {p q : β → Bool} {x : α} (hp : p (key x) = true)
    (hq : ∀ k, q k = (decide (k ≠ key x) && p k)) (xs : List α) :
    firstsBy key ((x :: xs).filter fun y => p (key y))
      = x :: firstsBy key (xs.filter fun y => q (key y)) := by
  rw [List.filter_cons_of_pos (by exact hp), firstsBy_cons_filter, List.filter_filter]
  simp only [hq]

/-- Behind a list, only the keys that do not occur in it are left. -/
theorem firstsBy_append (xs ys : List α) :
    firstsBy key (xs ++ ys)
      = firstsBy key xs ++ firstsBy key (ys.filter fun y => key y ∉ xs.map key) := by
  induction xs with
  | nil => simp
  | cons x xs ih =>
    rw [List.cons_append, firstsBy_cons, ih, List.filter_append,
      ← firstsBy_filter key (fun k => k ≠ key x) (ys.filter _), List.filter_filter, firstsBy_cons,
      List.cons_append]
    congr 4
    ext y
    simp [Bool.decide_and]

lemma mem_of_mem_firstsBy {x : α} {xs : List α} (h : x ∈ firstsBy key xs) : x ∈ xs := by
  induction xs with
  | nil => exact h
  | cons y xs ih =>
    rw [firstsBy_cons, List.mem_cons] at h
    rcases h with rfl | h
    · exact List.mem_cons_self
    · exact List.mem_cons_of_mem _ (ih (List.mem_filter.1 h).1)

/-- Items that count keep their order. -/
lemma firstsBy_sublist (xs : List α) : (firstsBy key xs).Sublist xs := by
  induction xs with
  | nil => exact List.Sublist.refl []
  | cons x xs ih =>
    rw [firstsBy_cons]
    exact (List.filter_sublist.trans ih).cons_cons x

/-- Keys that tell the same items apart find the same firsts. -/
lemma firstsBy_congr {key' : α → δ} {xs : List α}
    (h : ∀ x ∈ xs, ∀ y ∈ xs, key x = key y ↔ key' x = key' y) :
    firstsBy key xs = firstsBy key' xs := by
  induction xs with
  | nil => rfl
  | cons x xs ih =>
    have hrest := ih fun y hy z hz => h y (List.mem_cons_of_mem _ hy) z (List.mem_cons_of_mem _ hz)
    rw [firstsBy_cons, firstsBy_cons, hrest]
    congr 1
    refine List.filter_congr fun y hy => ?_
    rw [decide_eq_decide, ne_eq, ne_eq,
      h y (List.mem_cons_of_mem _ (mem_of_mem_firstsBy key' hy)) x List.mem_cons_self]

omit [DecidableEq δ] in
/-- Items of different keys all count. -/
lemma firstsBy_eq_self {xs : List α} (h : (xs.map key).Nodup) : firstsBy key xs = xs := by
  induction xs with
  | nil => rfl
  | cons x xs ih =>
    obtain ⟨hx, hrest⟩ := List.nodup_cons.1 h
    rw [firstsBy_cons, ih hrest, List.filter_eq_self.2 ?_]
    intro y hy
    exact decide_eq_true fun hyx => hx (hyx ▸ List.mem_map_of_mem hy)

/-- Every key keeps an item that counts. -/
lemma exists_mem_firstsBy {x : α} {xs : List α} (h : x ∈ xs) :
    ∃ y ∈ firstsBy key xs, key y = key x := by
  induction xs with
  | nil => simp at h
  | cons z xs ih =>
    rw [firstsBy_cons]
    by_cases hz : key z = key x
    · exact ⟨z, List.mem_cons_self, hz⟩
    · rcases List.mem_cons.1 h with rfl | h
      · exact absurd rfl hz
      · obtain ⟨y, hy, hyx⟩ := ih h
        have hne : key y ≠ key z := fun hyz => hz (hyz.symm.trans hyx)
        exact ⟨y, List.mem_cons_of_mem _ (List.mem_filter.2 ⟨hy, by simpa using hne⟩), hyx⟩

/-- The items that count have the keys of all. -/
lemma mem_map_firstsBy {k : β} {xs : List α} : k ∈ (firstsBy key xs).map key ↔ k ∈ xs.map key := by
  rw [List.mem_map, List.mem_map]
  constructor
  · rintro ⟨x, hx, rfl⟩
    exact ⟨x, mem_of_mem_firstsBy key hx, rfl⟩
  · rintro ⟨x, hx, rfl⟩
    exact exists_mem_firstsBy key hx

/-- No two items that count share a key. -/
lemma nodup_map_firstsBy (xs : List α) : ((firstsBy key xs).map key).Nodup := by
  induction xs with
  | nil => simp
  | cons x xs ih =>
    rw [firstsBy_cons, List.map_cons, List.nodup_cons]
    refine ⟨?_, ih.sublist (List.filter_sublist.map key)⟩
    simp only [List.mem_map, List.mem_filter, decide_eq_true_eq]
    rintro ⟨y, ⟨_, hne⟩, hy⟩
    exact hne hy

omit [DecidableEq δ] in
/-- Among items of different keys, one is found by its key. -/
lemma filter_key_eq_singleton {xs : List α} (hxs : (xs.map key).Nodup) {x : α} (hx : x ∈ xs) :
    xs.filter (fun y => key y = key x) = [x] := by
  induction xs with
  | nil => simp at hx
  | cons y xs ih =>
    obtain ⟨hy, hrest⟩ := List.nodup_cons.1 hxs
    rcases List.mem_cons.1 hx with rfl | hx
    · have hnone : ∀ z ∈ xs, ¬decide (key z = key x) = true := by
        intro z hz hzx
        exact hy (of_decide_eq_true hzx ▸ List.mem_map_of_mem hz)
      rw [List.filter_cons_of_pos (by simp), List.filter_eq_nil_iff.2 hnone]
    · have hne : key y ≠ key x := fun h => hy (h ▸ List.mem_map_of_mem hx)
      rw [List.filter_cons_of_neg (by simpa using hne), ih hrest hx]

/-- An item that counts comes before the others of its key. -/
theorem first_of_mem_firstsBy {R : α → α → Prop} {xs : List α} (hxs : xs.Pairwise R) {x y : α}
    (hx : x ∈ firstsBy key xs) (hy : y ∈ xs) (hkey : key y = key x) : y = x ∨ R x y := by
  induction xs with
  | nil => simp at hy
  | cons z xs ih =>
    obtain ⟨hz, hrest⟩ := List.pairwise_cons.1 hxs
    rw [firstsBy_cons, List.mem_cons, List.mem_filter] at hx
    rcases hx with rfl | ⟨hx, hne⟩
    · rcases List.mem_cons.1 hy with rfl | hy
      · exact Or.inl rfl
      · exact Or.inr (hz y hy)
    · rcases List.mem_cons.1 hy with rfl | hy
      · exact absurd hkey.symm (by simpa using hne)
      · exact ih hrest hx hy

omit [DecidableEq β] [DecidableEq δ] in
/-- Items whose parts are all dropped afterwards may be dropped before. -/
lemma filter_flatMap_filter (parts : α → List γ) (p : α → Bool) (q : γ → Bool) (xs : List α)
    (h : ∀ x ∈ xs, p x = false → ∀ m ∈ parts x, q m = false) :
    ((xs.filter p).flatMap parts).filter q = (xs.flatMap parts).filter q := by
  induction xs with
  | nil => rfl
  | cons x xs ih =>
    have hrest := ih fun y hy => h y (List.mem_cons_of_mem _ hy)
    by_cases hp : p x = true
    · simp only [List.filter_cons_of_pos hp, List.flatMap_cons, List.filter_append, hrest]
    · have hx : (parts x).filter q = [] := by
        rw [List.filter_eq_nil_iff]
        intro m hm
        simpa using h x List.mem_cons_self (by simpa using hp) m hm
      simp only [List.filter_cons_of_neg hp, List.flatMap_cons, List.filter_append, hrest, hx,
        List.nil_append]

/-- If items of one key have parts of the same names, then the first parts of each name can be
found among the items that count. -/
theorem firstsBy_flatMap_firstsBy (name : γ → δ) (parts : α → List γ) (xs : List α)
    (h : ∀ x ∈ xs, ∀ y ∈ xs, key x = key y → (parts x).map name = (parts y).map name) :
    firstsBy name ((firstsBy key xs).flatMap parts) = firstsBy name (xs.flatMap parts) := by
  induction xs with
  | nil => rfl
  | cons x xs ih =>
    have hrest := ih fun y hy z hz => h y (List.mem_cons_of_mem _ hy) z (List.mem_cons_of_mem _ hz)
    -- the items of the key of `x` that are passed over have no part that `x` does not name
    have hpassed : ∀ y ∈ firstsBy key xs, decide (key y ≠ key x) = false →
        ∀ m ∈ parts y, decide (name m ∉ (parts x).map name) = false := by
      intro y hy hyx m hm
      have hkey : key x = key y := (not_not.1 (of_decide_eq_false hyx)).symm
      have hmem : name m ∈ (parts x).map name := by
        rw [h x List.mem_cons_self y (List.mem_cons_of_mem _ (mem_of_mem_firstsBy key hy)) hkey]
        exact List.mem_map_of_mem hm
      exact decide_eq_false (not_not.2 hmem)
    calc firstsBy name ((firstsBy key (x :: xs)).flatMap parts)
        = firstsBy name (parts x) ++ firstsBy name
            ((((firstsBy key xs).filter fun y => key y ≠ key x).flatMap parts).filter
              fun m => name m ∉ (parts x).map name) := by
          rw [firstsBy_cons, List.flatMap_cons, firstsBy_append]
      _ = firstsBy name (parts x) ++ firstsBy name
            (((firstsBy key xs).flatMap parts).filter fun m => name m ∉ (parts x).map name) := by
          rw [filter_flatMap_filter parts _ _ _ hpassed]
      _ = firstsBy name (parts x) ++ firstsBy name
            ((xs.flatMap parts).filter fun m => name m ∉ (parts x).map name) := by
          rw [firstsBy_filter name (fun k => k ∉ (parts x).map name), hrest,
            ← firstsBy_filter name (fun k => k ∉ (parts x).map name)]
      _ = firstsBy name ((x :: xs).flatMap parts) := by
          rw [List.flatMap_cons, firstsBy_append]

/-! ### Recording -/

variable {σ ι : Type}

/-- A step that records: what it brings, if anything, is added to the items of a state unless its key
has been seen, and then its key has been seen. -/
structure Records (step : σ → ι → σ) (brings : ι → Option α) (items : σ → List α)
    (seen : σ → β → Bool) : Prop where
  /-- An item whose key has not been seen is added behind the others. -/
  items_step : ∀ s c, items (step s c)
    = items s ++ (brings c).toList.filter fun x => !seen s (key x)
  /-- The key of what the step brings has been seen behind it. -/
  seen_step : ∀ s c k, seen (step s c) k = ((brings c).any (fun x => key x = k) || seen s k)

variable {key} {step : σ → ι → σ} {brings : ι → Option α} {items : σ → List α}
  {seen : σ → β → Bool}

omit [DecidableEq δ] in
/-- A run of such steps has seen the keys of all that it was brought. -/
theorem Records.seen_foldl (h : Records key step brings items seen) (s : σ) (cs : List ι) (k : β) :
    seen (cs.foldl step s) k = true ↔
      seen s k = true ∨ ∃ x ∈ cs.filterMap brings, key x = k := by
  induction cs generalizing s with
  | nil => simp
  | cons c cs ih =>
    rw [List.foldl_cons, ih, h.seen_step]
    cases hc : brings c with
    | none => rw [List.filterMap_cons_none hc, Option.any_none, Bool.false_or]
    | some x =>
      rw [List.filterMap_cons_some hc, Option.any_some, Bool.or_eq_true, decide_eq_true_eq, or_assoc,
        or_left_comm]
      simp only [List.mem_cons, exists_eq_or_imp]

/-- A run of such steps adds the first items of the keys that had not been seen. -/
theorem Records.items_foldl (h : Records key step brings items seen) (s : σ) (cs : List ι) :
    items (cs.foldl step s) = items s
      ++ firstsBy key ((cs.filterMap brings).filter fun x => !seen s (key x)) := by
  -- for all `s` at once: what is new to `s` at a step is not new behind it
  induction cs generalizing s with
  | nil => simp
  | cons c cs ih =>
    rw [List.foldl_cons, ih, h.items_step, List.append_assoc]
    congr 1
    cases hc : brings c with
    | none =>
      have hseen : ∀ k, seen (step s c) k = seen s k := by
        intro k
        rw [h.seen_step, hc, Option.any_none, Bool.false_or]
      simp only [List.filterMap_cons_none hc, hseen]
      rfl
    | some x =>
      have hseen : ∀ k, seen (step s c) k = (decide (key x = k) || seen s k) := by
        intro k
        rw [h.seen_step, hc, Option.any_some]
      rw [List.filterMap_cons_some hc, Option.toList_some]
      by_cases hx : seen s (key x) = true
      · have hsame : ∀ k, seen (step s c) k = seen s k := by
          intro k
          rcases eq_or_ne (key x) k with rfl | hne
          · simp [hseen, hx]
          · simp [hseen, hne]
        have hpass : ¬(!seen s (key x)) = true := by simp [hx]
        simp only [hsame]
        rw [List.filter_cons_of_neg (by exact hpass), List.filter_cons_of_neg (by exact hpass)]
        rfl
      · have hnew : ∀ k, (!seen (step s c) k) = (decide (k ≠ key x) && !seen s k) := by
          intro k
          simp [hseen, Bool.not_or, eq_comm]
        have hfresh : (!seen s (key x)) = true := by simp [hx]
        rw [firstsBy_filter_cons_of_pos key (p := fun k => !seen s k) hfresh hnew,
          List.filter_cons_of_pos (by exact hfresh)]
        rfl

end C4Lint
