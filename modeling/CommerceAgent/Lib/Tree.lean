import Mathlib.Algebra.Order.BigOperators.Group.List
import Mathlib.Algebra.Order.Ring.Nat

/-!
# Labelled trees

Trees whose children stand under names, and the search of a tree with a stack.
-/

namespace CommerceAgent.Lib

inductive LabelTree (κ : Type) where
  | node (label : κ) (children : List (String × LabelTree κ))

namespace LabelTree

variable {κ : Type}

def label : LabelTree κ → κ
  | node label _ => label

def children : LabelTree κ → List (String × LabelTree κ)
  | node _ children => children

/-- The first child under a name. -/
def get? (t : LabelTree κ) (name : String) : Option (LabelTree κ) := t.children.lookup name

/-- The children under a name. -/
def items (t : LabelTree κ) (name : String) : List (LabelTree κ) := (t.children.filter (·.1 = name)).map Prod.snd

mutual

def size : LabelTree κ → ℕ
  | node _ children => sizes children + 1

def sizes : List (String × LabelTree κ) → ℕ
  | [] => 0
  | (_, t) :: children => size t + sizes children

end

theorem sizes_eq (children : List (String × LabelTree κ)) :
    sizes children = (children.map fun child => child.2.size).sum := by
  induction children with
  | nil => rfl
  | cons child children ih =>
    rw [sizes, ih]
    rfl

theorem size_le_sizes {children : List (String × LabelTree κ)} {child : String × LabelTree κ} (h : child ∈ children) :
    child.2.size ≤ sizes children := by
  rw [sizes_eq]
  exact List.single_le_sum (fun _ _ => Nat.zero_le _) _ (List.mem_map_of_mem h)

theorem size_eq (t : LabelTree κ) : t.size = sizes t.children + 1 := by
  cases t
  rfl

theorem size_get? {t c : LabelTree κ} {name : String} (h : t.get? name = some c) : c.size < t.size := by
  rw [size_eq t]
  obtain ⟨front, back, hsplit, -⟩ := List.lookup_eq_some_iff.mp h
  have hmem : (name, c) ∈ t.children := hsplit ▸ List.mem_append_right _ List.mem_cons_self
  exact Nat.lt_succ_of_le (size_le_sizes hmem)

mutual

/-- The tree and all trees below it. -/
def subtrees : LabelTree κ → List (LabelTree κ)
  | node label children => node label children :: belows children

def belows : List (String × LabelTree κ) → List (LabelTree κ)
  | [] => []
  | (_, t) :: children => subtrees t ++ belows children

end

theorem self_mem_subtrees (t : LabelTree κ) : t ∈ t.subtrees := by
  cases t
  exact List.mem_cons_self

theorem mem_belows {children : List (String × LabelTree κ)} {t : LabelTree κ} :
    t ∈ belows children ↔ ∃ child ∈ children, t ∈ child.2.subtrees := by
  induction children with
  | nil => exact iff_of_false List.not_mem_nil fun ⟨_, h, _⟩ => List.not_mem_nil h
  | cons child children ih =>
    rw [belows, List.mem_append, ih, List.exists_mem_cons_iff]

theorem mem_subtrees_child {t s : LabelTree κ} {child : String × LabelTree κ} (hchild : child ∈ t.children)
    (h : s ∈ child.2.subtrees) : s ∈ t.subtrees := by
  cases t with
  | node label children => exact List.mem_cons_of_mem _ (mem_belows.mpr ⟨child, hchild, h⟩)

theorem mem_items {t c : LabelTree κ} {name : String} :
    c ∈ t.items name ↔ ∃ child, (child ∈ t.children ∧ child.1 = name) ∧ child.2 = c := by
  simp only [items, List.mem_map, List.mem_filter, decide_eq_true_eq]

theorem items_subtrees {t c s : LabelTree κ} {name : String} (hc : c ∈ t.items name) (h : s ∈ c.subtrees) :
    s ∈ t.subtrees := by
  obtain ⟨child, ⟨hchild, -⟩, rfl⟩ := mem_items.mp hc
  exact mem_subtrees_child hchild h

/-! ## Search with a stack -/

/-- A tree is reached from another, along children that are kept. -/
inductive Reaches (keep : LabelTree κ → String → Bool) : LabelTree κ → LabelTree κ → Prop where
  | here (t : LabelTree κ) : Reaches keep t t
  | step {t s : LabelTree κ} {child : String × LabelTree κ} (hchild : child ∈ t.children)
    (hkeep : keep t child.1 = true)
    (h : Reaches keep child.2 s) : Reaches keep t s

/-- The children that a search puts on its stack. -/
def kept (keep : LabelTree κ → String → Bool) (t : LabelTree κ) : List (LabelTree κ) :=
  (t.children.filter fun child => keep t child.1).map Prod.snd

theorem mem_kept {keep : LabelTree κ → String → Bool} {t c : LabelTree κ} :
    c ∈ kept keep t ↔ ∃ child ∈ t.children, keep t child.1 = true ∧ child.2 = c := by
  simp only [kept, List.mem_map, List.mem_filter, and_assoc]

/-- The trees still to be searched. -/
def weight (stack : List (LabelTree κ)) : ℕ := (stack.map size).sum

theorem weight_kept (keep : LabelTree κ → String → Bool) (t : LabelTree κ) (stack : List (LabelTree κ)) :
    weight ((kept keep t).reverse ++ stack) < weight (t :: stack) := by
  have hsub : ((kept keep t).map size).Sublist (t.children.map fun child => child.2.size) := by
    rw [kept, List.map_map]
    exact List.Sublist.map _ List.filter_sublist
  have hle : ((kept keep t).map size).sum ≤ sizes t.children := by
    rw [sizes_eq]
    exact hsub.sum_le_sum fun _ _ => Nat.zero_le _
  rw [weight, weight, List.map_append, List.sum_append, List.map_reverse, List.sum_reverse, List.map_cons,
    List.sum_cons,
    size_eq]
  omega

/-- Pops trees off a stack until one is a hit, and pushes the children that are kept. -/
def search (hit : LabelTree κ → Bool) (keep : LabelTree κ → String → Bool) : List (LabelTree κ) → Bool
  | [] => false
  | t :: stack => if hit t then true else search hit keep ((kept keep t).reverse ++ stack)
termination_by stack => weight stack
decreasing_by exact weight_kept keep t stack

theorem reaches_iff {hit : LabelTree κ → Bool} {keep : LabelTree κ → String → Bool} {t : LabelTree κ} :
    (∃ s, Reaches keep t s ∧ hit s = true) ↔
      hit t = true ∨ ∃ c ∈ kept keep t, ∃ s, Reaches keep c s ∧ hit s = true := by
  constructor
  · rintro ⟨s, hreach, hs⟩
    cases hreach with
    | here => exact Or.inl hs
    | step hchild hkeep h => exact Or.inr ⟨_, mem_kept.mpr ⟨_, hchild, hkeep, rfl⟩, s, h, hs⟩
  · rintro (h | ⟨c, hc, s, hreach, hs⟩)
    · exact ⟨t, .here t, h⟩
    · obtain ⟨child, hchild, hkeep, rfl⟩ := mem_kept.mp hc
      exact ⟨s, .step hchild hkeep hreach, hs⟩

/-- **A search finds exactly the hits that are reached from its stack.** -/
theorem search_iff {hit : LabelTree κ → Bool} {keep : LabelTree κ → String → Bool} (stack : List (LabelTree κ)) :
    search hit keep stack = true ↔ ∃ t ∈ stack, ∃ s, Reaches keep t s ∧ hit s = true := by
  fun_induction search hit keep stack with
  | case1 => exact iff_of_false Bool.false_ne_true fun ⟨_, h, _⟩ => List.not_mem_nil h
  | case2 t stack hhit => exact iff_of_true rfl ⟨t, List.mem_cons_self, t, .here t, hhit⟩
  | case3 t stack hhit ih =>
    rw [ih, List.exists_mem_cons_iff, reaches_iff, or_iff_right hhit]
    simp only [List.mem_append, List.mem_reverse, or_and_right, exists_or]

theorem Reaches.subtree {keep : LabelTree κ → String → Bool} {t s : LabelTree κ} (h : Reaches keep t s) :
    s ∈ t.subtrees := by
  induction h with
  | here t => exact self_mem_subtrees t
  | step hchild _ _ ih => exact mem_subtrees_child hchild ih

end LabelTree

end CommerceAgent.Lib
