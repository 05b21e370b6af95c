import Mathlib.Tactic.Common
import Mathlib.Data.List.Basic

/-!
# Tables

A table is the list of its rows, and `key` tells its rows apart. `SELECT … WHERE`,
`UPDATE … WHERE` and `INSERT` on it, and what a select finds after the other two.
-/

namespace CommerceAgent.Lib.Table

variable {ρ κ : Type} [DecidableEq κ]

/-- The row under a key. -/
def select (key : ρ → κ) (k : κ) (rows : List ρ) : Option ρ := rows.find? fun r => key r = k

def update (p : ρ → Bool) (f : ρ → ρ) (rows : List ρ) : List ρ := rows.map fun r => if p r then f r else r

def insert (r : ρ) (rows : List ρ) : List ρ := rows ++ [r]

variable {key : ρ → κ} {rows : List ρ} {r : ρ} {k : κ}

theorem select_mem (h : select key k rows = some r) : r ∈ rows ∧ key r = k :=
  ⟨List.mem_of_find?_eq_some h, by simpa using List.find?_some h⟩

@[simp] theorem select_nil : select key k [] = none := rfl

theorem select_eq_none : select key k rows = none ↔ ∀ r ∈ rows, key r ≠ k := by
  simp [select, List.find?_eq_none]

theorem select_of_mem (hnd : (rows.map key).Nodup) (h : r ∈ rows) : select key (key r) rows = some r := by
  induction rows with
  | nil => exact absurd h List.not_mem_nil
  | cons row rows ih =>
    rw [List.map_cons, List.nodup_cons] at hnd
    unfold select at ih ⊢
    rw [List.find?_cons]
    rcases List.mem_cons.mp h with rfl | h
    · rw [decide_eq_true rfl]
    · have hne : key row ≠ key r := fun heq => hnd.1 (heq ▸ List.mem_map_of_mem h)
      rw [decide_eq_false hne]
      exact ih hnd.2 h

theorem select_insert (hnew : select key (key r) rows = none) :
    select key k (insert r rows) = if k = key r then some r else select key k rows := by
  have hfind : select key k (insert r rows) = (select key k rows).or (if key r = k then some r else none) := by
    simp only [select, insert, List.find?_append, List.find?_singleton, decide_eq_true_eq]
  rw [hfind]
  by_cases hk : k = key r
  · rw [if_pos hk, if_pos hk.symm, hk, hnew, Option.none_or]
  · rw [if_neg hk, if_neg (Ne.symm hk), Option.or_none]

theorem find_update {p q : ρ → Bool} {f : ρ → ρ} (hq : ∀ r, q (f r) = q r) :
    (update p f rows).find? q = (rows.find? q).map fun r => if p r then f r else r := by
  induction rows with
  | nil => rfl
  | cons r rows ih =>
    have hhead : q (if p r then f r else r) = q r := by
      split_ifs
      · exact hq r
      · rfl
    simp only [update, List.map_cons, List.find?_cons, hhead] at ih ⊢
    split
    · rfl
    · exact ih

theorem map_update {β : Type} {g : ρ → β} {p : ρ → Bool} {f : ρ → ρ} (hg : ∀ r, g (f r) = g r) (rows : List ρ) :
    (update p f rows).map g = rows.map g := by
  unfold update
  rw [List.map_map]
  refine List.map_congr_left fun r _ => ?_
  rw [Function.comp_apply]
  split_ifs
  · exact hg r
  · rfl

theorem filter_update {p q : ρ → Bool} {f : ρ → ρ} (hq : ∀ r, q (f r) = q r) (rows : List ρ) :
    (update p f rows).filter q = update p f (rows.filter q) := by
  unfold update
  rw [List.filter_map]
  refine congrArg (List.map _) (List.filter_congr fun r _ => ?_)
  rw [Function.comp_apply]
  split_ifs
  · exact hq r
  · rfl

theorem filter_update_out {p q : ρ → Bool} {f : ρ → ρ} (hq : ∀ r, q (f r) = false) (rows : List ρ) :
    (update p f rows).filter q = (rows.filter q).filter fun r => !p r := by
  induction rows with
  | nil => rfl
  | cons r rows ih =>
    unfold update at ih ⊢
    rw [List.map_cons, List.filter_cons, List.filter_cons, ih]
    cases hp : p r with
    | true =>
      simp only [if_true, hq, Bool.false_eq_true, if_false]
      split_ifs
      · rw [List.filter_cons, hp]
        rfl
      · rfl
    | false =>
      simp only [Bool.false_eq_true, if_false]
      split_ifs
      · rw [List.filter_cons, hp]
        rfl
      · rfl

end CommerceAgent.Lib.Table
