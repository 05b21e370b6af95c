import Mathlib.Data.List.Perm.Basic
import Mathlib.Data.List.Sort
import Mathlib.Order.Lattice

/-!
# Permutations and sorted lists

`permutations` lists the orders of distinct items as their positions go up. Two lists have the same items when they are
the same sorted.
-/

namespace CommerceAgent.Lib

variable {α : Type} [DecidableEq α]

/-- The orders of `count` items of a list. -/
def permutationsOf : ℕ → List α → List (List α)
  | 0, _ => [[]]
  | count + 1, items => items.flatMap fun item => (permutationsOf count (items.erase item)).map (item :: ·)

/-- `itertools.permutations(items)`, of distinct items. -/
def permutations (items : List α) : List (List α) := permutationsOf items.length items

theorem mem_permutationsOf {count : ℕ} {items order : List α} (h : items.length = count) :
    order ∈ permutationsOf count items ↔ order.Perm items := by
  induction count generalizing items order with
  | zero =>
    obtain rfl := List.length_eq_zero_iff.mp h
    rw [List.perm_nil]
    exact List.mem_singleton
  | succ count ih =>
    have hrest {item : α} {rest : List α} (hitem : item ∈ items) :
        rest ∈ permutationsOf count (items.erase item) ↔ rest.Perm (items.erase item) :=
      ih (by rw [List.length_erase_of_mem hitem, h, Nat.add_sub_cancel])
    unfold permutationsOf
    rw [List.mem_flatMap]
    constructor
    · rintro ⟨item, hitem, horder⟩
      obtain ⟨rest, hmem, rfl⟩ := List.mem_map.mp horder
      exact List.cons_perm_iff_perm_erase.mpr ⟨hitem, (hrest hitem).mp hmem⟩
    · intro hperm
      cases order with
      | nil =>
        rw [← hperm.length_eq] at h
        cases h
      | cons item rest =>
        obtain ⟨hitem, hperm⟩ := List.cons_perm_iff_perm_erase.mp hperm
        exact ⟨item, hitem, List.mem_map.mpr ⟨rest, (hrest hitem).mpr hperm, rfl⟩⟩

theorem mem_permutations {items order : List α} : order ∈ permutations items ↔ order.Perm items :=
  mem_permutationsOf rfl

theorem insertionSort_inj {γ : Type} [LinearOrder γ] {xs ys : List γ} :
    xs.insertionSort (· ≤ ·) = ys.insertionSort (· ≤ ·) ↔ xs.Perm ys := by
  constructor
  · intro h
    exact (List.perm_insertionSort (· ≤ ·) xs).symm.trans (h ▸ List.perm_insertionSort (· ≤ ·) ys)
  · intro h
    have hperm : (xs.insertionSort (· ≤ ·)).Perm (ys.insertionSort (· ≤ ·)) :=
      (List.perm_insertionSort _ xs).trans (h.trans (List.perm_insertionSort _ ys).symm)
    exact hperm.eq_of_pairwise' (List.pairwise_insertionSort _ xs) (List.pairwise_insertionSort _ ys)

theorem insertionSort_key_inj {β γ : Type} [LinearOrder γ] {key : β → γ} (hkey : Function.Injective key) {xs ys : List β} :
    xs.insertionSort (key · ≤ key ·) = ys.insertionSort (key · ≤ key ·) ↔ xs.Perm ys := by
  have hmap (zs : List β) : (zs.insertionSort (key · ≤ key ·)).map key = (zs.map key).insertionSort (· ≤ ·) :=
    List.map_insertionSort (key · ≤ key ·) (· ≤ ·) key zs fun _ _ _ _ => Iff.rfl
  rw [← List.map_perm_map_iff hkey, ← insertionSort_inj, ← hmap, ← hmap, (List.map_injective_iff.mpr hkey).eq_iff]

/-- Sorted lists of the same items are the same when no two of the items share a key. -/
theorem insertionSort_key_eq {β γ : Type} [LinearOrder γ] {key : β → γ} {xs ys : List β}
    (hkey : ∀ x ∈ xs, ∀ y ∈ xs, key x = key y → x = y) (h : xs.Perm ys) :
    xs.insertionSort (key · ≤ key ·) = ys.insertionSort (key · ≤ key ·) := by
  have hsorted (zs : List β) : (zs.insertionSort (key · ≤ key ·)).Pairwise (key · ≤ key ·) :=
    List.pairwise_insertionSort _ zs
  refine List.Perm.eq_of_pairwise ?_ (hsorted xs) (hsorted ys)
    ((List.perm_insertionSort _ xs).trans (h.trans (List.perm_insertionSort _ ys).symm))
  intro x y hx hy hxy hyx
  have hys : y ∈ xs := h.mem_iff.mpr ((List.mem_insertionSort _).mp hy)
  exact hkey x ((List.mem_insertionSort _).mp hx) y hys (le_antisymm hxy hyx)

/-- A list of distinct items, no two of which share a key, is sorted strictly. -/
theorem insertionSort_key_strict {β γ : Type} [LinearOrder γ] {key : β → γ} {xs : List β} (hnodup : xs.Nodup)
    (hkey : ∀ x ∈ xs, ∀ y ∈ xs, key x = key y → x = y) :
    (xs.insertionSort (key · ≤ key ·)).Pairwise (key · < key ·) := by
  have hperm := List.perm_insertionSort (key · ≤ key ·) xs
  have hsorted : (xs.insertionSort (key · ≤ key ·)).Pairwise (key · ≤ key ·) := List.pairwise_insertionSort _ xs
  refine (hsorted.and (hperm.nodup_iff.mpr hnodup)).imp_of_mem ?_
  rintro x y hx hy ⟨hle, hne⟩
  exact lt_of_le_of_ne hle fun heq => hne (hkey x (hperm.mem_iff.mp hx) y (hperm.mem_iff.mp hy) heq)

theorem filter_key_eq {β γ : Type} [DecidableEq γ] {key : β → γ} {xs : List β} (hnodup : (xs.map key).Nodup) {x : β}
    (hx : x ∈ xs) : xs.filter (fun y => key y = key x) = [x] := by
  induction xs with
  | nil => cases hx
  | cons y ys ih =>
    obtain ⟨hnotin, hrest⟩ := List.nodup_cons.mp hnodup
    rcases List.mem_cons.mp hx with rfl | hmem
    · have hnone : ys.filter (fun y => key y = key x) = [] := by
        refine List.filter_eq_nil_iff.mpr fun z hz => ?_
        rw [decide_eq_true_eq]
        exact fun heq => hnotin (heq ▸ List.mem_map_of_mem hz)
      rw [List.filter_cons_of_pos (by simp), hnone]
    · have hne : key y ≠ key x := fun heq => hnotin (heq ▸ List.mem_map_of_mem hmem)
      rw [List.filter_cons_of_neg (by simpa using hne), ih hrest hmem]

/-- A list of the same items as a list of images is the images in another order. -/
theorem perm_map_iff {α β : Type} {xs : List β} {ys : List α} (f : α → β) :
    xs.Perm (ys.map f) ↔ ∃ zs : List α, zs.Perm ys ∧ xs = zs.map f := by
  have h := congrFun (congrFun (List.eq_map_comp_perm f) xs) ys
  rw [← eq_iff_iff.mp h]
  exact ⟨fun ⟨zs, heq, hperm⟩ => ⟨zs, hperm, heq⟩, fun ⟨zs, hperm, heq⟩ => ⟨zs, heq, hperm⟩⟩

end CommerceAgent.Lib
