import Mathlib.Data.List.Perm.Basic
import Mathlib.Data.List.Nodup

/-!
# Dictionaries

A dictionary keeps its items in the order in which their keys were first set. `group_by` is the
dictionary of lists that a loop of `groups[key(x)].append(x)` fills.
-/

namespace CommerceAgent.Lib

structure Dict (κ α : Type) where
  items : List (κ × α)
  nodup : (items.map Prod.fst).Nodup

namespace Dict

variable {κ α : Type} [DecidableEq κ]

/-! ## Setting an item -/

def put (k : κ) (a : α) : List (κ × α) → List (κ × α)
  | [] => [(k, a)]
  | item :: items => if item.1 = k then (k, a) :: items else item :: put k a items

theorem keys_put (k : κ) (a : α) (items : List (κ × α)) :
    (put k a items).map Prod.fst =
      if k ∈ items.map Prod.fst then items.map Prod.fst else items.map Prod.fst ++ [k] := by
  induction items with
  | nil => rfl
  | cons item items ih =>
    unfold put
    by_cases hk : item.1 = k
    · simp [hk]
    · have hne : ¬ k = item.1 := fun h => hk h.symm
      simp only [if_neg hk, List.map_cons, ih, List.mem_cons, hne, false_or]
      split_ifs <;> rfl

theorem put_of_notMem {k : κ} {items : List (κ × α)} (h : k ∉ items.map Prod.fst) (a : α) :
    put k a items = items ++ [(k, a)] := by
  induction items with
  | nil => rfl
  | cons item items ih =>
    simp only [List.map_cons, List.mem_cons, not_or] at h
    unfold put
    rw [if_neg (Ne.symm h.1), ih h.2, List.cons_append]

theorem put_of_mem {k : κ} {items : List (κ × α)} (hnd : (items.map Prod.fst).Nodup) (h : k ∈ items.map Prod.fst)
    (a : α) :
    put k a items = items.map fun item => if item.1 = k then (k, a) else item := by
  induction items with
  | nil => exact absurd h List.not_mem_nil
  | cons item items ih =>
    rw [List.map_cons, List.nodup_cons] at hnd
    unfold put
    by_cases hk : item.1 = k
    · have hrest : (items.map fun item => if item.1 = k then (k, a) else item) = items := by
        conv_rhs => rw [← List.map_id items]
        refine List.map_congr_left fun other hother => if_neg ?_
        rintro rfl
        exact hnd.1 (hk ▸ List.mem_map_of_mem hother)
      rw [List.map_cons, if_pos hk, if_pos hk, hrest]
    · rw [List.map_cons, if_neg hk, if_neg hk]
      rw [List.map_cons, List.mem_cons] at h
      rw [ih hnd.2 (h.resolve_left (Ne.symm hk))]

def empty : Dict κ α := ⟨[], List.nodup_nil⟩

/-- `self[k] = a`. -/
def set (d : Dict κ α) (k : κ) (a : α) : Dict κ α where
  items := put k a d.items
  nodup := by
    rw [keys_put]
    split_ifs with hk
    · exact d.nodup
    · refine List.nodup_append.mpr ⟨d.nodup, List.nodup_singleton k, ?_⟩
      rintro _ hx _ hy rfl
      exact hk (List.mem_singleton.mp hy ▸ hx)

/-- `self.get(k)`. -/
def get? (d : Dict κ α) (k : κ) : Option α := (d.items.find? fun item => item.1 = k).map Prod.snd

/-- The items that meet a condition. -/
def filter (d : Dict κ α) (p : κ × α → Bool) : Dict κ α where
  items := d.items.filter p
  nodup := d.nodup.sublist (List.filter_sublist.map _)

def keys (d : Dict κ α) : List κ := d.items.map Prod.fst
def values (d : Dict κ α) : List α := d.items.map Prod.snd

variable {d : Dict κ α} {k : κ} {a : α}

theorem get?_eq_some : d.get? k = some a ↔ (k, a) ∈ d.items := by
  unfold get?
  rw [Option.map_eq_some_iff]
  constructor
  · rintro ⟨⟨k', a'⟩, hfind, rfl⟩
    have hkey := List.find?_some hfind
    rw [decide_eq_true_eq] at hkey
    subst hkey
    exact List.mem_of_find?_eq_some hfind
  · intro hmem
    cases hfind : d.items.find? fun item => item.1 = k with
    | none => exact absurd (List.find?_eq_none.mp hfind _ hmem) (by simp)
    | some item =>
      have hkey := List.find?_some hfind
      rw [decide_eq_true_eq] at hkey
      refine ⟨item, rfl, ?_⟩
      have heq := List.inj_on_of_nodup_map d.nodup (List.mem_of_find?_eq_some hfind) hmem hkey
      rw [heq]

theorem mem_keys : k ∈ d.keys ↔ ∃ a, d.get? k = some a := by
  simp only [keys, List.mem_map, get?_eq_some]
  constructor
  · rintro ⟨item, hmem, rfl⟩
    exact ⟨item.2, hmem⟩
  · rintro ⟨a, hmem⟩
    exact ⟨(k, a), hmem, rfl⟩

theorem get?_eq_none : d.get? k = none ↔ k ∉ d.keys := by
  rw [mem_keys, Option.eq_none_iff_forall_ne_some, not_exists]

theorem set_items (h : k ∉ d.keys) (a : α) : (d.set k a).items = d.items ++ [(k, a)] := put_of_notMem h a

theorem get?_set (d : Dict κ α) (k : κ) (a : α) (k' : κ) :
    (d.set k a).get? k' = if k' = k then some a else d.get? k' := by
  unfold get? set
  dsimp only
  induction d.items with
  | nil =>
    unfold put
    by_cases hk : k' = k
    · simp [hk]
    · simp [hk, Ne.symm hk]
  | cons item items ih =>
    unfold put
    by_cases hitem : item.1 = k
    · rw [if_pos hitem]
      by_cases hk : k' = k
      · simp [hk]
      · simp [hk, Ne.symm hk, hitem]
    · rw [if_neg hitem, List.find?_cons, List.find?_cons]
      by_cases hk : item.1 = k'
      · subst hk
        simp [hitem]
      · simp only [hk, decide_false]
        exact ih

@[simp] theorem get?_set_self (d : Dict κ α) (k : κ) (a : α) : (d.set k a).get? k = some a := by
  rw [get?_set, if_pos rfl]

theorem get?_set_of_ne {k' : κ} (h : k' ≠ k) : (d.set k a).get? k' = d.get? k' := by
  rw [get?_set, if_neg h]

theorem values_set (h : k ∉ d.keys) (a : α) : (d.set k a).values = d.values ++ [a] := by
  unfold values
  rw [set_items h, List.map_append]
  rfl

theorem filterMap_put {β : Type} {g : α → Option β} {items : List (κ × α)} {old : α}
    (h : (items.find? fun item => item.1 = k).map Prod.snd = some old) (hg : g a = g old) :
    ((put k a items).map Prod.snd).filterMap g = (items.map Prod.snd).filterMap g := by
  induction items with
  | nil => cases h
  | cons item items ih =>
    rw [List.find?_cons] at h
    unfold put
    by_cases hk : item.1 = k
    · simp only [hk, decide_true, Option.map_some, Option.some.injEq] at h
      rw [if_pos hk, List.map_cons, List.map_cons, List.filterMap_cons, List.filterMap_cons, hg, h]
    · simp only [hk, decide_false] at h
      rw [if_neg hk, List.map_cons, List.map_cons, List.filterMap_cons, List.filterMap_cons, ih h]

/-- What a set item has in common with the one that it replaces stays in its place. -/
theorem filterMap_values_set {β : Type} {g : α → Option β} {old : α} (h : d.get? k = some old) (hg : g a = g old) :
    (d.set k a).values.filterMap g = d.values.filterMap g := filterMap_put h hg

theorem set_set (d : Dict κ α) (k : κ) (a b : α) : (d.set k a).set k b = d.set k b := by
  have hput : put k b (put k a d.items) = put k b d.items := by
    induction d.items with
    | nil => simp [put]
    | cons item items ih =>
      by_cases hk : item.1 = k
      · simp [hk, put]
      · simp [hk, put, ih]
  unfold set
  simp only [hput]

/-- `self | other`. -/
def union (d other : Dict κ α) : Dict κ α := other.items.foldl (fun d item => d.set item.1 item.2) d

@[simp] theorem get?_empty (k : κ) : (empty : Dict κ α).get? k = none := rfl

theorem get?_foldl_set (items : List (κ × α)) (hnd : (items.map Prod.fst).Nodup) (d : Dict κ α) (k : κ) :
    (items.foldl (fun d item => d.set item.1 item.2) d).get? k =
      ((items.find? fun item => item.1 = k).map Prod.snd).or (d.get? k) := by
  induction items generalizing d with
  | nil => rfl
  | cons item items ih =>
    rw [List.map_cons, List.nodup_cons] at hnd
    rw [List.foldl_cons, ih hnd.2, List.find?_cons, get?_set]
    by_cases hk : item.1 = k
    · have hnone : items.find? (fun item => decide (item.1 = k)) = none := by
        refine List.find?_eq_none.mpr fun other hother => ?_
        rw [decide_eq_true_eq]
        exact fun hkey => hnd.1 (hk.trans hkey.symm ▸ List.mem_map_of_mem hother)
      rw [hnone, if_pos hk.symm, decide_eq_true hk]
      rfl
    · rw [if_neg (Ne.symm hk), decide_eq_false hk]

theorem get?_union (d other : Dict κ α) (k : κ) : (d.union other).get? k = (other.get? k).or (d.get? k) :=
  get?_foldl_set other.items other.nodup d k

theorem mem_keys_union {other : Dict κ α} : k ∈ (d.union other).keys ↔ k ∈ d.keys ∨ k ∈ other.keys := by
  simp only [mem_keys, get?_union]
  cases other.get? k <;> simp

end Dict

/-! ## Groups -/

section Groups

variable {κ α : Type} [DecidableEq κ] {key : α → κ}

/-- `groups[k].append(x)`. -/
def push (k : κ) (x : α) : List (κ × List α) → List (κ × List α)
  | [] => [(k, [x])]
  | group :: groups => if group.1 = k then (k, group.2 ++ [x]) :: groups else group :: push k x groups

/-- The elements of a list by their key, in the order of each key's first element. -/
def group_by (key : α → κ) (l : List α) : List (κ × List α) :=
  l.foldl (fun groups x => push (key x) x groups) []

theorem foldl_push (k : κ) (xs : List α) (groups : List (κ × List α)) (l : List α) :
    l.foldl (fun groups x => push (key x) x groups) ((k, xs) :: groups) =
      (k, xs ++ l.filter fun x => key x = k) ::
        (l.filter fun x => key x ≠ k).foldl (fun groups x => push (key x) x groups) groups := by
  induction l generalizing xs groups with
  | nil => simp
  | cons x l ih =>
    rw [List.foldl_cons, push]
    by_cases hk : k = key x
    · subst hk
      simp [ih]
    · simp [hk, Ne.symm hk, ih]

theorem group_by_cons (x : α) (l : List α) :
    group_by key (x :: l) =
      (key x, x :: l.filter fun y => key y = key x) :: group_by key (l.filter fun y => key y ≠ key x) := by
  unfold group_by
  rw [List.foldl_cons, push, foldl_push, List.singleton_append]

/-- What holds of the groups of a list holds by taking the first group off it. -/
theorem group_by_induction (key : α → κ) {P : List α → Prop} (nil : P [])
    (cons : ∀ x l, P (l.filter fun y => key y ≠ key x) → P (x :: l)) (l : List α) : P l := by
  induction hn : l.length using Nat.strongRecOn generalizing l with
  | ind n ih =>
    cases l with
    | nil => exact nil
    | cons x l =>
      refine cons x l (ih _ ?_ _ rfl)
      rw [← hn]
      exact Nat.lt_succ_of_le (List.length_filter_le _ _)

theorem group_by_flatten (key : α → κ) (l : List α) : ((group_by key l).flatMap Prod.snd).Perm l := by
  induction l using group_by_induction key with
  | nil => exact List.Perm.refl []
  | cons x l ih =>
    rw [group_by_cons, List.flatMap_cons, List.cons_append]
    refine List.Perm.cons x ((List.Perm.append_left _ ih).trans ?_)
    have hsplit := List.filter_append_perm (fun y => decide (key y = key x)) l
    simpa only [decide_not] using hsplit

theorem mem_group_by {l : List α} {group : κ × List α} (h : group ∈ group_by key l) :
    group.2 ≠ [] ∧ group.2 = l.filter fun x => key x = group.1 := by
  induction l using group_by_induction key with
  | nil => exact absurd h List.not_mem_nil
  | cons x l ih =>
    rw [group_by_cons, List.mem_cons] at h
    rcases h with rfl | h
    · simp
    · obtain ⟨hne, heq⟩ := ih h
      refine ⟨hne, ?_⟩
      -- the key of a later group is not the first element's
      have hkey : key x ≠ group.1 := by
        rintro hkey
        rw [List.filter_filter, ← hkey] at heq
        exact hne (heq.trans (by simp))
      rw [heq, List.filter_filter, List.filter_cons_of_neg (by simpa using hkey)]
      refine List.filter_congr fun y _ => ?_
      by_cases hy : key y = group.1
      · simp [hy, Ne.symm hkey]
      · simp [hy]

/-- `groups.get(k, ())`. -/
def members (k : κ) : List (κ × List α) → List α
  | [] => []
  | group :: groups => if group.1 = k then group.2 else members k groups

theorem members_group_by (key : α → κ) (k : κ) (l : List α) :
    members k (group_by key l) = l.filter fun x => key x = k := by
  induction l using group_by_induction key with
  | nil => rfl
  | cons x l ih =>
    rw [group_by_cons, members]
    by_cases hk : key x = k
    · simp [hk]
    · rw [if_neg hk, ih, List.filter_filter, List.filter_cons_of_neg (by simpa using hk)]
      refine List.filter_congr fun y _ => ?_
      by_cases hy : key y = k
      · simp [hy, Ne.symm hk]
      · simp [hy]

/-- Elements of one new key at the end of a list are its last group. -/
theorem group_by_append {k : κ} {l m : List α} (hl : ∀ x ∈ l, key x ≠ k) (hm : ∀ x ∈ m, key x = k) (hne : m ≠ []) :
    group_by key (l ++ m) = group_by key l ++ [(k, m)] := by
  induction l using group_by_induction key with
  | nil =>
    cases m with
    | nil => exact absurd rfl hne
    | cons x m =>
      obtain ⟨hx, hm⟩ := List.forall_mem_cons.mp hm
      subst hx
      have hsame : (m.filter fun y => key y = key x) = m := List.filter_eq_self.mpr fun y hy => by simp [hm y hy]
      have hother : (m.filter fun y => key y ≠ key x) = [] := List.filter_eq_nil_iff.mpr fun y hy => by simp [hm y hy]
      rw [List.nil_append, group_by_cons, hsame, hother]
      rfl
  | cons x l ih =>
    obtain ⟨hx, hl⟩ := List.forall_mem_cons.mp hl
    have hsame : (m.filter fun y => key y = key x) = [] :=
      List.filter_eq_nil_iff.mpr fun y hy => by simp [hm y hy, Ne.symm hx]
    have hother : (m.filter fun y => key y ≠ key x) = m :=
      List.filter_eq_self.mpr fun y hy => by simp [hm y hy, Ne.symm hx]
    rw [List.cons_append, group_by_cons, group_by_cons, List.filter_append, List.filter_append, hsame, hother,
      List.append_nil, ih fun y hy => hl y (List.mem_of_mem_filter hy), List.cons_append]

end Groups

end CommerceAgent.Lib
