import CommerceAgent.Lib.Raising
import Mathlib.Data.List.Induction

/-!
# Scans that fail closed

A scan carries a state from item to item. A step may raise, and it may refuse its item, with which the scan ends.
-/

namespace CommerceAgent.Lib.FailClosed

variable {ε α σ : Type}

/-- The state behind the last item, or nothing when an item is refused. -/
def scan (step : σ → α → Except ε (Option σ)) : σ → List α → Except ε (Option σ)
  | state, [] => .ok (some state)
  | state, a :: as => do
    match ← step state a with
    | none => return none
    | some state => scan step state as

/-- Each item is accepted behind those before it. -/
def Accepted (accepts : List α → α → Prop) (as : List α) : Prop :=
  ∀ front a back, as = front ++ a :: back → accepts front a

/-- No item that the scan reaches raises. -/
def Quiet (accepts raises : List α → α → Prop) (as : List α) : Prop :=
  ∀ front a back, as = front ++ a :: back → Accepted accepts front → ¬ raises front a

/-- What one step does, from a state that `holds` of the items before. -/
structure Steps (step : σ → α → Except ε (Option σ)) (accepts raises : List α → α → Prop)
    (holds : List α → σ → Prop) : Prop where
  error : ∀ {front state a}, holds front state → raises front a → ∃ e, step state a = .error e
  refused : ∀ {front state a}, holds front state → ¬ raises front a → ¬ accepts front a → step state a = .ok none
  next : ∀ {front state a}, holds front state → ¬ raises front a → accepts front a →
    ∃ state', step state a = .ok (some state') ∧ holds (front ++ [a]) state'

/-! ## The last item -/

variable {step : σ → α → Except ε (Option σ)} {accepts raises : List α → α → Prop} {holds : List α → σ → Prop}

theorem split_concat {front back as : List α} {a b : α} (h : as ++ [a] = front ++ b :: back) :
    (front = as ∧ b = a) ∨ ∃ rest, as = front ++ b :: rest := by
  rcases List.eq_nil_or_concat back with rfl | ⟨rest, c, rfl⟩
  · obtain ⟨hfront, hlast⟩ := List.append_inj' h rfl
    exact Or.inl ⟨hfront.symm, (List.cons.inj hlast).1.symm⟩
  · rw [List.concat_eq_append, ← List.cons_append, ← List.append_assoc] at h
    exact Or.inr ⟨rest, (List.append_inj' h rfl).1⟩

theorem accepted_nil : Accepted accepts [] := fun _ _ _ h => absurd h (by simp)

theorem accepted_concat {as : List α} {a : α} :
    Accepted accepts (as ++ [a]) ↔ Accepted accepts as ∧ accepts as a := by
  constructor
  · intro h
    refine ⟨fun front b back has => h front b (back ++ [a]) ?_, h as a [] rfl⟩
    rw [has, List.append_assoc, List.cons_append]
  · rintro ⟨has, ha⟩ front b back h
    rcases split_concat h with ⟨rfl, rfl⟩ | ⟨rest, hrest⟩
    · exact ha
    · exact has front b rest hrest

theorem quiet_concat {as : List α} {a : α} :
    Quiet accepts raises (as ++ [a]) ↔ Quiet accepts raises as ∧ (Accepted accepts as → ¬ raises as a) := by
  constructor
  · intro h
    refine ⟨fun front b back has => h front b (back ++ [a]) ?_, h as a [] rfl⟩
    rw [has, List.append_assoc, List.cons_append]
  · rintro ⟨has, ha⟩ front b back h
    rcases split_concat h with ⟨rfl, rfl⟩ | ⟨rest, hrest⟩
    · exact ha
    · exact has front b rest hrest

theorem scan_append (step : σ → α → Except ε (Option σ)) (state : σ) (as bs : List α) :
    scan step state (as ++ bs) = (do
      match ← scan step state as with
      | none => return none
      | some state => scan step state bs) := by
  induction as generalizing state with
  | nil => rfl
  | cons a as ih =>
    rw [List.cons_append, scan, scan]
    cases step state a with
    | error e => rfl
    | ok next =>
      cases next with
      | none => rfl
      | some next => exact ih next

theorem scan_singleton (step : σ → α → Except ε (Option σ)) (state : σ) (a : α) :
    scan step state [a] = step state a := by
  rw [scan]
  cases step state a with
  | error e => rfl
  | ok next => cases next <;> rfl

/-! ## Whole scans -/

/-- **A scan without an item that raises ends behind its last item, or refuses.** -/
theorem scan_quiet (hstep : Steps step accepts raises holds) {state : σ} (hstart : holds [] state) {as : List α}
    (hquiet : Quiet accepts raises as) :
    (Accepted accepts as → ∃ last, scan step state as = .ok (some last) ∧ holds as last) ∧
      (¬ Accepted accepts as → scan step state as = .ok none) := by
  induction as using List.reverseRecOn with
  | nil => exact ⟨fun _ => ⟨state, rfl, hstart⟩, fun h => absurd accepted_nil h⟩
  | append_singleton as a ih =>
    obtain ⟨hfront, hlast⟩ := quiet_concat.mp hquiet
    obtain ⟨haccepted, hrefused⟩ := ih hfront
    rw [scan_append, accepted_concat]
    by_cases hall : Accepted accepts as
    · obtain ⟨last, hscan, hholds⟩ := haccepted hall
      rw [hscan, ok_bind]
      dsimp only
      rw [scan_singleton]
      refine ⟨fun h => hstep.next hholds (hlast hall) h.2, fun h => ?_⟩
      exact hstep.refused hholds (hlast hall) fun ha => h ⟨hall, ha⟩
    · refine ⟨fun h => absurd h.1 hall, fun _ => ?_⟩
      rw [hrefused hall]
      rfl

theorem scan_loud (hstep : Steps step accepts raises holds) {state : σ} (hstart : holds [] state) {as : List α}
    (hloud : ¬ Quiet accepts raises as) : ∃ e, scan step state as = .error e := by
  induction as using List.reverseRecOn with
  | nil => exact absurd (fun _ _ _ h => absurd h (by simp)) hloud
  | append_singleton as a ih =>
    rw [scan_append]
    by_cases hfront : Quiet accepts raises as
    · rw [quiet_concat] at hloud
      push Not at hloud
      obtain ⟨hall, hraises⟩ := hloud hfront
      obtain ⟨last, hscan, hholds⟩ := (scan_quiet hstep hstart hfront).1 hall
      rw [hscan, ok_bind]
      dsimp only
      rw [scan_singleton]
      exact hstep.error hholds hraises
    · obtain ⟨e, he⟩ := ih hfront
      exact ⟨e, by rw [he]; rfl⟩

end CommerceAgent.Lib.FailClosed
