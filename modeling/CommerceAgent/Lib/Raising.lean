import Mathlib.Data.List.Forall2

/-!
# Code that raises

A sequence of steps that may raise returns when each of them does.
-/

namespace CommerceAgent.Lib

variable {ε α β : Type}

theorem ok_bind (a : α) (f : α → Except ε β) : ((.ok a : Except ε α) >>= f) = f a := rfl

theorem error_bind (e : ε) (f : α → Except ε β) : ((.error e : Except ε α) >>= f) = .error e := rfl

theorem except_bind_ok {x : Except ε α} {f : α → Except ε β} {b : β} (h : x >>= f = .ok b) :
    ∃ a, x = .ok a ∧ f a = .ok b := by
  cases x with
  | error e => cases h
  | ok a => exact ⟨a, rfl, h⟩

theorem except_bind_congr {x : Except ε α} {f g : α → Except ε β} (h : ∀ a, x = .ok a → f a = g a) :
    x >>= f = x >>= g := by
  cases x with
  | error e => rfl
  | ok a => exact h a rfl

theorem mapM_ok {f : α → Except ε β} {g : α → β} {as : List α} (h : ∀ a ∈ as, f a = .ok (g a)) :
    as.mapM f = .ok (as.map g) := by
  induction as with
  | nil => rfl
  | cons a as ih =>
    rw [List.mapM_cons, h a List.mem_cons_self, ih fun b hb => h b (List.mem_cons_of_mem _ hb)]
    rfl

theorem forM_ok {f : α → Except ε Unit} {as : List α} : as.forM f = .ok () ↔ ∀ a ∈ as, f a = .ok () := by
  induction as with
  | nil => exact iff_of_true rfl fun _ h => absurd h List.not_mem_nil
  | cons a as ih =>
    rw [List.forall_mem_cons, ← ih]
    constructor
    · intro h
      obtain ⟨⟨⟩, ha, has⟩ := except_bind_ok h
      exact ⟨ha, has⟩
    · rintro ⟨ha, has⟩
      change f a >>= (fun _ => as.forM f) = _
      rw [ha, ok_bind, has]

theorem mapM_forall₂ {f : α → Except ε β} {P : α → β → Prop} {as : List α}
    (h : ∀ a ∈ as, ∃ b, f a = .ok b ∧ P a b) : ∃ bs, as.mapM f = .ok bs ∧ List.Forall₂ P as bs := by
  induction as with
  | nil => exact ⟨[], rfl, .nil⟩
  | cons a as ih =>
    obtain ⟨b, hb, hP⟩ := h a List.mem_cons_self
    obtain ⟨bs, hbs, hall⟩ := ih fun c hc => h c (List.mem_cons_of_mem _ hc)
    exact ⟨b :: bs, by rw [List.mapM_cons, hb, ok_bind, hbs]; rfl, .cons hP hall⟩

theorem mapM_eq_ok {f : α → Except ε β} {as : List α} {bs : List β} :
    as.mapM f = .ok bs ↔ List.Forall₂ (fun a b => f a = .ok b) as bs := by
  induction as generalizing bs with
  | nil =>
    rw [List.forall₂_nil_left_iff]
    exact ⟨fun h => (Except.ok.inj h).symm, fun h => congrArg Except.ok h.symm⟩
  | cons a as ih =>
    rw [List.mapM_cons, List.forall₂_cons_left_iff]
    constructor
    · intro h
      obtain ⟨b, hb, h⟩ := except_bind_ok h
      obtain ⟨cs, hcs, h⟩ := except_bind_ok h
      exact ⟨b, cs, hb, ih.mp hcs, (Except.ok.inj h).symm⟩
    · rintro ⟨b, cs, hb, hcs, rfl⟩
      rw [hb, ok_bind, ih.mpr hcs]
      rfl

theorem mapM_error {f : α → Except ε β} {as : List α} {a : α} (hmem : a ∈ as) {e : ε} (he : f a = .error e) :
    ∃ b ∈ as, ∃ e, f b = .error e ∧ as.mapM f = .error e := by
  induction as with
  | nil => cases hmem
  | cons b as ih =>
    cases hb : f b with
    | error e => exact ⟨b, List.mem_cons_self, e, hb, by rw [List.mapM_cons, hb]; rfl⟩
    | ok value =>
      rcases List.mem_cons.mp hmem with rfl | hmem
      · rw [he] at hb
        cases hb
      · obtain ⟨c, hc, e, hce, hmap⟩ := ih hmem
        exact ⟨c, List.mem_cons_of_mem _ hc, e, hce, by rw [List.mapM_cons, hb, ok_bind, hmap]; rfl⟩

theorem mapM_eq_some {f : α → Option β} {as : List α} {bs : List β} :
    as.mapM f = some bs ↔ List.Forall₂ (fun a b => f a = some b) as bs := by
  induction as generalizing bs with
  | nil =>
    rw [List.forall₂_nil_left_iff]
    exact ⟨fun h => (Option.some.inj h).symm, fun h => congrArg some h.symm⟩
  | cons a as ih =>
    rw [List.mapM_cons, List.forall₂_cons_left_iff]
    constructor
    · intro h
      obtain ⟨b, hb, h⟩ := Option.bind_eq_some_iff.mp h
      obtain ⟨cs, hcs, h⟩ := Option.bind_eq_some_iff.mp h
      exact ⟨b, cs, hb, ih.mp hcs, (Option.some.inj h).symm⟩
    · rintro ⟨b, cs, hb, hcs, rfl⟩
      rw [hb, ih.mpr hcs]
      rfl

theorem mapM_eq_none {f : α → Option β} {as : List α} : as.mapM f = none ↔ ∃ a ∈ as, f a = none := by
  induction as with
  | nil => simp
  | cons a as ih =>
    rw [List.mapM_cons]
    simp only [List.mem_cons, exists_eq_or_imp]
    cases ha : f a with
    | none => exact iff_of_true rfl (Or.inl rfl)
    | some b =>
      rw [← ih, or_iff_right (by simp)]
      cases as.mapM f with
      | none => exact iff_of_true rfl rfl
      | some bs => exact iff_of_false (by simp) (by simp)

/-! ## Loops that stop -/

/-- The loop reaches the item, as no item before it stops the loop. -/
def Reached (stop : α → Prop) (as : List α) (a : α) : Prop :=
  ∃ before after, as = before ++ a :: after ∧ ∀ b ∈ before, ¬ stop b

theorem reached_cons {stop : α → Prop} {a b : α} {as : List α} :
    Reached stop (a :: as) b ↔ b = a ∨ (¬ stop a ∧ Reached stop as b) := by
  constructor
  · rintro ⟨before, after, has, hgo⟩
    cases before with
    | nil => exact Or.inl (List.cons.inj has).1.symm
    | cons first before =>
      obtain ⟨rfl, hrest⟩ := List.cons.inj has
      exact Or.inr ⟨hgo _ List.mem_cons_self, before, after, hrest, fun c hc => hgo c (List.mem_cons_of_mem _ hc)⟩
  · rintro (rfl | ⟨hgo, before, after, rfl, hbefore⟩)
    · exact ⟨[], as, rfl, fun c hc => by cases hc⟩
    · exact ⟨a :: before, after, rfl, List.forall_mem_cons.mpr ⟨hgo, hbefore⟩⟩

theorem Reached.mem {stop : α → Prop} {as : List α} {a : α} (h : Reached stop as a) : a ∈ as := by
  obtain ⟨before, after, rfl, -⟩ := h
  exact List.mem_append_right _ List.mem_cons_self

theorem reached_of_mem {stop : α → Prop} {as : List α} {a : α} (hgo : ∀ b ∈ as, ¬ stop b) (ha : a ∈ as) :
    Reached stop as a := by
  obtain ⟨before, after, rfl⟩ := List.append_of_mem ha
  exact ⟨before, after, rfl, fun b hb => hgo b (List.mem_append_left _ hb)⟩

/-- Collects until an item has nothing. -/
def collect (f : α → Except ε (Option β)) : List α → Except ε (Option (List β))
  | [] => .ok (some [])
  | a :: as => do
    match ← f a with
    | none => return none
    | some b => return (← collect f as).map (b :: ·)

/-- An item raises, stops the loop, or gives a value. -/
structure Steps (f : α → Except ε (Option β)) (raises stop : α → Prop) (value : α → β) (a : α) : Prop where
  error : raises a → ∃ e, f a = .error e
  none : ¬ raises a → stop a → f a = .ok none
  some : ¬ raises a → ¬ stop a → f a = .ok (some (value a))

variable {f : α → Except ε (Option β)} {raises stop : α → Prop} {value : α → β} {as : List α}

theorem collect_ok [DecidablePred stop] (hf : ∀ a ∈ as, Steps f raises stop value a)
    (h : ∀ a, Reached stop as a → ¬ raises a) :
    collect f as = .ok (if ∃ a ∈ as, stop a then none else some (as.map value)) := by
  induction as with
  | nil => exact congrArg Except.ok (if_neg (by simp)).symm
  | cons a as ih =>
    have hfirst : ¬ raises a := h a (reached_cons.mpr (Or.inl rfl))
    have hstep := hf a List.mem_cons_self
    unfold collect
    by_cases hstop : stop a
    · rw [hstep.none hfirst hstop, ok_bind, if_pos ⟨a, List.mem_cons_self, hstop⟩]
      rfl
    · rw [hstep.some hfirst hstop, ok_bind]
      dsimp only
      rw [ih (fun b hb => hf b (List.mem_cons_of_mem _ hb)) fun b hb => h b (reached_cons.mpr (Or.inr ⟨hstop, hb⟩)),
        ok_bind]
      by_cases hany : ∃ b ∈ as, stop b
      · obtain ⟨b, hb, hstops⟩ := hany
        rw [if_pos ⟨b, hb, hstops⟩, if_pos ⟨b, List.mem_cons_of_mem _ hb, hstops⟩]
        rfl
      · have hcons : ¬ ∃ b ∈ a :: as, stop b := by
          simp only [List.mem_cons, exists_eq_or_imp]
          exact not_or.mpr ⟨hstop, hany⟩
        rw [if_neg hany, if_neg hcons]
        rfl

theorem collect_error (hf : ∀ a ∈ as, Steps f raises stop value a) {a : α} (ha : Reached stop as a)
    (hraises : raises a) :
    ∃ e, collect f as = .error e := by
  induction as with
  | nil => cases ha.mem
  | cons first as ih =>
    have hstep := hf first List.mem_cons_self
    unfold collect
    by_cases hfirst : raises first
    · obtain ⟨e, he⟩ := hstep.error hfirst
      exact ⟨e, by rw [he]; rfl⟩
    · rcases reached_cons.mp ha with rfl | ⟨hgo, ha⟩
      · exact absurd hraises hfirst
      · obtain ⟨e, he⟩ := ih (fun b hb => hf b (List.mem_cons_of_mem _ hb)) ha
        exact ⟨e, by rw [hstep.some hfirst hgo, ok_bind]; dsimp only; rw [he]; rfl⟩

variable {p : α → Except ε Bool} {holds : α → Prop}

theorem anyM_ok [DecidablePred holds] (h : ∀ a, Reached holds as a → p a = .ok (decide (holds a))) :
    as.anyM p = .ok (decide (∃ a ∈ as, holds a)) := by
  induction as with
  | nil => exact congrArg Except.ok (decide_eq_false (by simp)).symm
  | cons a as ih =>
    rw [List.anyM, h a (reached_cons.mpr (Or.inl rfl)), ok_bind]
    by_cases ha : holds a
    · have hcons : ∃ b ∈ a :: as, holds b := ⟨a, List.mem_cons_self, ha⟩
      rw [decide_eq_true ha, decide_eq_true hcons]
      rfl
    · rw [decide_eq_false ha]
      dsimp only
      rw [ih fun b hb => h b (reached_cons.mpr (Or.inr ⟨ha, hb⟩))]
      refine congrArg Except.ok (decide_eq_decide.mpr ?_)
      simp only [List.mem_cons, exists_eq_or_imp]
      exact (or_iff_right ha).symm

theorem anyM_error [DecidablePred holds] (h : ∀ a ∈ as, (∃ e, p a = .error e) ∨ p a = .ok (decide (holds a))) {a : α}
    (ha : Reached holds as a) (hraises : ∃ e, p a = .error e) : ∃ e, as.anyM p = .error e := by
  induction as with
  | nil => cases ha.mem
  | cons first as ih =>
    rw [List.anyM]
    rcases reached_cons.mp ha with rfl | ⟨hgo, ha⟩
    · obtain ⟨e, he⟩ := hraises
      exact ⟨e, by rw [he]; rfl⟩
    · rcases h first List.mem_cons_self with ⟨e, he⟩ | hfirst
      · exact ⟨e, by rw [he]; rfl⟩
      · obtain ⟨e, he⟩ := ih (fun b hb => h b (List.mem_cons_of_mem _ hb)) ha
        exact ⟨e, by rw [hfirst, decide_eq_false hgo, ok_bind]; exact he⟩

end CommerceAgent.Lib
