import Mathlib.Data.List.Forall2
import Mathlib.Data.List.Nodup
import Mathlib.Data.List.Pairwise
import Mathlib.Data.List.Perm.Basic
import Mathlib.Order.Basic

/-!
# One row for each key

The rows that a query keeps when it takes, for each key, one of the highest rank, and orders them by their keys.
-/

namespace CommerceAgent.Lib

section Forall₂

variable {α β : Type} {P : α → β → Prop} {as : List α} {bs : List β}

theorem exists_forall₂ (h : ∀ a ∈ as, ∃ b, P a b) : ∃ bs, List.Forall₂ P as bs := by
  induction as with
  | nil => exact ⟨[], .nil⟩
  | cons a as ih =>
    obtain ⟨b, hb⟩ := h a List.mem_cons_self
    obtain ⟨bs, hbs⟩ := ih fun a ha => h a (List.mem_cons_of_mem _ ha)
    exact ⟨b :: bs, .cons hb hbs⟩

theorem forall₂_mem_right (h : List.Forall₂ P as bs) : ∀ b ∈ bs, ∃ a ∈ as, P a b := by
  induction h with
  | nil => exact fun _ hb => absurd hb List.not_mem_nil
  | cons hab _ ih =>
    intro b hb
    rcases List.mem_cons.mp hb with rfl | hb
    · exact ⟨_, List.mem_cons_self, hab⟩
    · obtain ⟨a, ha, hP⟩ := ih b hb
      exact ⟨a, List.mem_cons_of_mem _ ha, hP⟩

theorem forall₂_map_eq {γ : Type} {f : α → γ} {g : β → γ} (hsame : ∀ a b, P a b → f a = g b)
    (h : List.Forall₂ P as bs) : bs.map g = as.map f := by
  induction h with
  | nil => rfl
  | cons hab _ ih => rw [List.map_cons, List.map_cons, hsame _ _ hab, ih]

end Forall₂

/-- The candidates of a query, one for each key. Among candidates of one key and rank it may keep any. -/
structure Selects {α κ ρ : Type} [LE ρ] (key : α → κ) (rank : α → ρ) (order : κ → κ → Prop) (candidate : α → Prop)
    (rows : List α) : Prop where
  ordered : (rows.map key).Pairwise order
  distinct : (rows.map key).Nodup
  highest : ∀ row ∈ rows, candidate row ∧ ∀ other, candidate other → key other = key row → rank other ≤ rank row
  complete : ∀ row, candidate row → key row ∈ rows.map key

namespace Selects

variable {α β κ ρ : Type} [PartialOrder ρ] {key : α → κ} {rank : α → ρ} {key' : β → κ} {rank' : β → ρ}
  {order order' : κ → κ → Prop} {candidate : α → Prop} {candidate' : β → Prop} {rows rows' : List α}

/-- Where no two candidates of a key have the same rank, the same rows are kept. -/
theorem mem_of_mem (h : Selects key rank order candidate rows) (h' : Selects key rank order' candidate rows')
    (huntied : ∀ a b, candidate a → candidate b → key a = key b → rank a = rank b → a = b) {row : α}
    (hrow : row ∈ rows) : row ∈ rows' := by
  obtain ⟨hcandidate, hhighest⟩ := h.highest row hrow
  obtain ⟨other, hother, hkey⟩ := List.mem_map.mp (h'.complete row hcandidate)
  obtain ⟨hcandidate', hhighest'⟩ := h'.highest other hother
  have hrank := le_antisymm (hhighest other hcandidate' hkey) (hhighest' row hcandidate hkey.symm)
  exact huntied other row hcandidate' hcandidate hkey hrank ▸ hother

theorem nodup (h : Selects key rank order candidate rows) : rows.Nodup := h.distinct.of_map

theorem reorder (h : Selects key rank order candidate rows)
    (himp : ∀ a b, candidate a → candidate b → order (key a) (key b) → order' (key a) (key b)) :
    Selects key rank order' candidate rows := by
  refine ⟨?_, h.distinct, h.highest, h.complete⟩
  refine List.pairwise_map.mpr ((List.pairwise_map.mp h.ordered).imp_of_mem fun ha hb hab => ?_)
  exact himp _ _ (h.highest _ ha).1 (h.highest _ hb).1 hab

theorem unique (h : Selects key rank order candidate rows) (h' : Selects key rank order candidate rows')
    (hantisymm : ∀ a b, order a b → order b a → a = b)
    (huntied : ∀ a b, candidate a → candidate b → key a = key b → rank a = rank b → a = b) : rows = rows' := by
  have hperm : rows.Perm rows' := (List.perm_ext_iff_of_nodup h.nodup h'.nodup).mpr fun _ =>
    ⟨h.mem_of_mem h' huntied, h'.mem_of_mem h huntied⟩
  refine hperm.eq_of_pairwise ?_ (List.pairwise_map.mp h.ordered) (List.pairwise_map.mp h'.ordered)
  intro a b ha hb hab hba
  exact List.inj_on_of_nodup_map h.distinct ha (hperm.mem_iff.mpr hb) (hantisymm _ _ hab hba)

/-- Rows of one table are selected with the rows that they correspond to in another. -/
theorem transfer {R : α → β → Prop} {others : List β}
    (hsame : ∀ row other, R row other →
      key row = key' other ∧ rank row = rank' other ∧ (candidate row → candidate' other))
    (hfrom : ∀ other, candidate' other → ∃ row, R row other ∧ candidate row)
    (hall : List.Forall₂ R rows others) (h : Selects key rank order candidate rows) :
    Selects key' rank' order candidate' others := by
  have hkeys := forall₂_map_eq (fun row other hR => (hsame row other hR).1) hall
  constructor
  · exact hkeys ▸ h.ordered
  · exact hkeys ▸ h.distinct
  · intro other hother
    obtain ⟨row, hrow, hR⟩ := forall₂_mem_right hall other hother
    obtain ⟨hkey, hrank, hcandidate⟩ := hsame row other hR
    obtain ⟨hchosen, hhighest⟩ := h.highest row hrow
    refine ⟨hcandidate hchosen, ?_⟩
    intro rival hrival hrivalkey
    obtain ⟨row', hR', hchosen'⟩ := hfrom rival hrival
    obtain ⟨hkey', hrank', -⟩ := hsame row' rival hR'
    rw [← hrank, ← hrank']
    exact hhighest row' hchosen' ((hkey'.trans hrivalkey).trans hkey.symm)
  · intro other hother
    obtain ⟨row, hR, hchosen⟩ := hfrom other hother
    rw [hkeys, ← (hsame row other hR).1]
    exact h.complete row hchosen

end Selects

end CommerceAgent.Lib
