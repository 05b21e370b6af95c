import CommerceAgent.Lib.Flow

/-!
# What later calls return

What is shown of a call wherever the others may lead holds of each call that starts from here on. Its operations need
nothing: that they keep the contract is known of the pool already.
-/

namespace CommerceAgent.Lib.Contract

variable {σ Req Op Res ω : Type} {Ans : Op → Type} {α β : Type}
variable {body : Req → Flow Op Ans Res} {act : ω → Req → (op : Op) → σ → Ans op × σ} {r : Pool.Rules σ Req Op ω}

/-- The contract with every operation allowed. -/
def anytime (c : Contract σ Req Op) : Contract σ Req Op where
  inv := c.inv
  rely := c.rely
  pre _ _ _ := True

variable {c : Contract σ Req Op} {req : Req}

theorem anytime_mono (h : c.Sound act r) {post : α → σ → Prop} {f : Flow Op Ans α} {s s' : σ}
    (hf : c.anytime.Safe act r req post f s) (hs : c.rely s s') : c.anytime.Safe act r req post f s' := by
  cases f with
  | done a => exact fun s₂ h₂ hi => hf s₂ (h.trans _ _ _ hs h₂) hi
  | ask op k => exact fun s₂ h₂ hi => hf s₂ (h.trans _ _ _ hs h₂) hi

theorem narrow {rely : σ → σ → Prop} (hrely : ∀ s s', rely s s' → c.rely s s') {post : α → σ → Prop}
    {f : Flow Op Ans α} {s : σ} (hf : c.Safe act r req post f s) :
    ({ c with rely := rely } : Contract σ Req Op).Safe act r req post f s := by
  induction f generalizing s with
  | done a => exact fun s' hs hi => hf s' (hrely s s' hs) hi
  | ask op k ih =>
    intro s' hs hi
    obtain ⟨hpre, hnext⟩ := hf s' (hrely s s' hs) hi
    exact ⟨hpre, fun o ho => ih _ (hnext o ho)⟩

theorem anytime_ask {post : α → σ → Prop} {op : Op} {k : Ans op → Flow Op Ans α} {s : σ}
    (hk : ∀ s', c.rely s s' → c.inv s' → ∀ o, r.oracle o req op s' →
      c.anytime.Safe act r req post (k (act o req op s').1) (act o req op s').2) :
    c.anytime.Safe act r req post (.ask op k) s :=
  fun s' hs hi => ⟨trivial, fun o ho => hk s' hs hi o ho⟩

theorem anytime_map {post : α → σ → Prop} {post' : β → σ → Prop} {g : α → β} {f : Flow Op Ans α} {s : σ}
    (hf : c.anytime.Safe act r req post f s) (hpost : ∀ a s, post a s → post' (g a) s) :
    c.anytime.Safe act r req post' (f.bind fun a => .done (g a)) s := by
  induction f generalizing s with
  | done a => exact fun s' hs hi => hpost a s' (hf s' hs hi)
  | ask op k ih => exact anytime_ask fun s' hs hi o ho => ih _ ((hf s' hs hi).2 o ho)

/-- **The rule.** What a call comes to wherever the others may lead, each call of its request that starts from here on
comes to. -/
theorem later_returned (h : c.Sound act r) {post : Req → Res → σ → Prop} (hstart : c.Starts body act r post)
    {p q : Pool σ Req Op Ans Res} (hp : c.Holds act r post p) (hrun : Pool.Reach body act r p q)
    {post' : Res → σ → Prop}
    (hbody : ∀ s, c.rely p.shared s → c.inv s → c.anytime.Safe act r req post' (body req) s) {i : ℕ} {a : Res}
    (hi : p.calls.length ≤ i) (hget : q.calls[i]? = some (req, .done a)) : post' a q.shared := by
  have hcalls : ∀ i f, p.calls.length ≤ i → q.calls[i]? = some (req, f) →
      c.anytime.Safe act r req post' f q.shared := by
    clear hi hget
    induction hrun with
    | init =>
      intro i f hi hget
      rw [List.getElem?_eq_none hi] at hget
      cases hget
    | @step q m hrun hm ih =>
      intro i f hi hget
      obtain ⟨hq, hrely⟩ := sound h hstart hp hrun
      have hnext := (step_holds h hstart m hm hq).2
      cases m with
      | start req' =>
        simp only [Pool.step, List.getElem?_append] at hget
        split at hget
        · exact ih i f hi hget
        · rw [List.getElem?_singleton] at hget
          split at hget
          · obtain ⟨rfl, rfl⟩ := Prod.mk.inj (Option.some.inj hget)
            exact hbody _ hrely hq.1
          · cases hget
      | advance j o =>
        simp only [Pool.step] at hget hnext ⊢
        split at hget
        · rename_i req' op k hj
          simp only [hj] at hnext
          rw [List.getElem?_set] at hget
          split_ifs at hget with hji
          · -- the call itself moves on
            subst hji
            obtain ⟨rfl, rfl⟩ := Prod.mk.inj (Option.some.inj hget)
            exact (ih j _ hi hj _ (h.refl _) hq.1).2 o (hm _ op k hj)
          · -- another call does
            exact anytime_mono h (ih i f hi hget) hnext
        · exact ih i f hi hget
  exact hcalls i _ hi hget _ (h.refl _) (sound h hstart hp hrun).1.1

end CommerceAgent.Lib.Contract
