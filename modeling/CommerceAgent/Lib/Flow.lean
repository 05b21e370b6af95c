import Mathlib.Tactic.Common

/-!
# Calls that share one state

A call is a `Flow`: a result, or an operation on the shared state and what to do with
its answer. Calls run in a `Pool`, one operation at a time, in any order. `Pool.sound`
is the rule for invariants of such runs.
-/

namespace CommerceAgent.Lib

/-- A call in progress. -/
inductive Flow (Op : Type) (Ans : Op → Type) (α : Type) : Type where
  | done (a : α)
  | ask (op : Op) (k : Ans op → Flow Op Ans α)

namespace Flow

variable {Op : Type} {Ans : Op → Type} {α β : Type}

def bind : Flow Op Ans α → (α → Flow Op Ans β) → Flow Op Ans β
  | .done a, f => f a
  | .ask op k, f => .ask op fun b => (k b).bind f

instance : Monad (Flow Op Ans) where
  pure := .done
  bind := bind

/-- One operation, and its answer. -/
def perform (op : Op) : Flow Op Ans (Ans op) := .ask op .done

@[simp] theorem pure_eq (a : α) : (pure a : Flow Op Ans α) = .done a := rfl

@[simp] theorem bind_done (a : α) (f : α → Flow Op Ans β) : (Flow.done a >>= f) = f a := rfl

@[simp] theorem bind_ask (op : Op) (k : Ans op → Flow Op Ans α) (f : α → Flow Op Ans β) :
    (Flow.ask op k >>= f) = .ask op fun b => k b >>= f := rfl

/-- The call alone, from start to end, on a state that no other call touches. -/
def run {σ : Type} (act : (op : Op) → σ → Ans op × σ) : Flow Op Ans α → σ → α × σ
  | .done a, s => (a, s)
  | .ask op k, s => (k (act op s).1).run act (act op s).2

variable {σ : Type} {act : (op : Op) → σ → Ans op × σ}

@[simp] theorem run_done (a : α) (s : σ) : (Flow.done a : Flow Op Ans α).run act s = (a, s) := rfl

@[simp] theorem run_ask (op : Op) (k : Ans op → Flow Op Ans α) (s : σ) :
    (Flow.ask op k).run act s = (k (act op s).1).run act (act op s).2 := rfl

theorem run_bind (m : Flow Op Ans α) (f : α → Flow Op Ans β) (s : σ) :
    (m >>= f).run act s = (f (m.run act s).1).run act (m.run act s).2 := by
  induction m generalizing s with
  | done a => rfl
  | ask op k ih => simp only [bind_ask, run_ask, ih]

/-- Every operation of the call, run alone, is asked in a state that meets `P`. -/
def Along (P : Op → σ → Prop) (act : (op : Op) → σ → Ans op × σ) : Flow Op Ans α → σ → Prop
  | .done _, _ => True
  | .ask op k, s => P op s ∧ Along P act (k (act op s).1) (act op s).2

instance Along.decidable (P : Op → σ → Prop) [∀ op s, Decidable (P op s)] :
    (f : Flow Op Ans α) → (s : σ) → Decidable (f.Along P act s)
  | .done _, _ => inferInstanceAs (Decidable True)
  | .ask op k, s =>
    have := Along.decidable P (k (act op s).1) (act op s).2
    inferInstanceAs (Decidable (P op s ∧ _))

end Flow

/-! ## Pools of calls -/

/-- A shared state and the calls made on it so far, each with its request. -/
structure Pool (σ Req Op : Type) (Ans : Op → Type) (Res : Type) where
  shared : σ
  calls : List (Req × Flow Op Ans Res)

/-- What the scheduler does next: a new call, or one operation of a call in progress. The
oracle `ω` is what the operation reads from outside (a clock, a random source). -/
inductive Move (Req ω : Type) where
  | start (req : Req)
  | advance (i : Nat) (o : ω)
  deriving DecidableEq, Repr

section Pool

variable {σ Req Op Res ω : Type} {Ans : Op → Type}
variable (body : Req → Flow Op Ans Res) (act : ω → Req → (op : Op) → σ → Ans op × σ)

namespace Pool

def step (m : Move Req ω) (p : Pool σ Req Op Ans Res) : Pool σ Req Op Ans Res :=
  match m with
  | .start req => { p with calls := p.calls ++ [(req, body req)] }
  | .advance i o =>
    match p.calls[i]? with
    | some (req, .ask op k) =>
      let (a, s) := act o req op p.shared
      { shared := s, calls := p.calls.set i (req, k a) }
    | _ => p

/-- The moves that a run allows: which requests may arrive, and which oracles may answer. -/
structure Rules (σ Req Op ω : Type) where
  accepts : σ → Req → Prop
  oracle : ω → Req → Op → σ → Prop

def Allowed (r : Rules σ Req Op ω) (p : Pool σ Req Op Ans Res) : Move Req ω → Prop
  | .start req => r.accepts p.shared req
  | .advance i o => ∀ req op k, p.calls[i]? = some (req, .ask op k) → r.oracle o req op p.shared

/-- The runs of a pool. -/
inductive Reach (r : Rules σ Req Op ω) (p₀ : Pool σ Req Op Ans Res) : Pool σ Req Op Ans Res → Prop
  | init : Reach r p₀ p₀
  | step {p} (m : Move Req ω) : Reach r p₀ p → Allowed r p m → Reach r p₀ (step body act m p)

theorem Reach.mono {r r' : Rules σ Req Op ω} {p₀ p : Pool σ Req Op Ans Res}
    (ha : ∀ s req, r.accepts s req → r'.accepts s req)
    (ho : ∀ o req op s, r.oracle o req op s → r'.oracle o req op s)
    (h : Reach body act r p₀ p) : Reach body act r' p₀ p := by
  induction h with
  | init => exact .init
  | step m _ hm ih =>
    refine .step m ih ?_
    cases m with
    | start req => exact ha _ _ hm
    | advance i o => exact fun req op k hk => ho _ _ _ _ (hm req op k hk)

theorem Reach.trans {r : Rules σ Req Op ω} {p₀ p₁ p₂ : Pool σ Req Op Ans Res}
    (h₁ : Reach body act r p₀ p₁) (h₂ : Reach body act r p₁ p₂) : Reach body act r p₀ p₂ := by
  induction h₂ with
  | init => exact h₁
  | step m _ hm ih => exact .step m ih hm

theorem Reach.finish {r : Rules σ Req Op ω} {p₀ : Pool σ Req Op Ans Res} (o : ω) {req : Req}
    {calls : List (Req × Flow Op Ans Res)} {f : Flow Op Ans Res} {s : σ}
    (h : Reach body act r p₀ ⟨s, calls ++ [(req, f)]⟩) (ho : f.Along (r.oracle o req) (act o req) s) :
    Reach body act r p₀ ⟨(f.run (act o req) s).2, calls ++ [(req, .done (f.run (act o req) s).1)]⟩ := by
  induction f generalizing s with
  | done a => exact h
  | ask op k ih =>
    obtain ⟨hop, hnext⟩ := ho
    refine ih _ ?_ hnext
    have hlast : (calls ++ [(req, Flow.ask op k)])[calls.length]? = some (req, .ask op k) := by simp
    have hallowed : Allowed r ⟨s, calls ++ [(req, Flow.ask op k)]⟩ (.advance calls.length o) := by
      intro req' op' k' hk
      obtain ⟨rfl, hflow⟩ := Prod.mk.inj (Option.some.inj (hlast.symm.trans hk))
      obtain ⟨rfl, -⟩ := Flow.ask.inj hflow
      exact hop
    have hnew : Pool.step body act (.advance calls.length o) ⟨s, calls ++ [(req, Flow.ask op k)]⟩ =
        ⟨(act o req op s).2, calls ++ [(req, k (act o req op s).1)]⟩ := by
      simp only [Pool.step, hlast]
      simp
    rw [← hnew]
    exact Reach.step (.advance calls.length o) h hallowed

theorem Reach.call {r : Rules σ Req Op ω} {p₀ p : Pool σ Req Op Ans Res} (o : ω) (req : Req)
    (h : Reach body act r p₀ p) (haccepts : r.accepts p.shared req)
    (ho : (body req).Along (r.oracle o req) (act o req) p.shared) :
    Reach body act r p₀ ⟨((body req).run (act o req) p.shared).2,
      p.calls ++ [(req, .done ((body req).run (act o req) p.shared).1)]⟩ :=
  Reach.finish body act o (Reach.step (.start req) h haccepts) ho

theorem Reach.invariant {r : Rules σ Req Op ω} {I : σ → Prop} {p₀ p : Pool σ Req Op Ans Res}
    (h : Reach body act r p₀ p) (hstep : ∀ o req op s, I s → r.oracle o req op s → I (act o req op s).2)
    (h₀ : I p₀.shared) : I p.shared := by
  induction h with
  | init => exact h₀
  | @step p m _ hm ih =>
    cases m with
    | start req => exact ih
    | advance i o =>
      simp only [Pool.step]
      split
      · rename_i req op k hi
        exact hstep o req op _ ih (hm req op k hi)
      · exact ih

end Pool

/-! ## Rely and guarantee -/

/-- What a proof about a pool fixes: the invariant of the shared state, how the state may
change under the other calls, and what a call may ask. -/
structure Contract (σ Req Op : Type) where
  inv : σ → Prop
  rely : σ → σ → Prop
  pre : Req → Op → σ → Prop

namespace Contract

variable (c : Contract σ Req Op) (r : Pool.Rules σ Req Op ω) {α β : Type}

/-- A call that keeps the contract from here on and ends in `post`, whatever the other calls do. -/
def Safe (req : Req) (post : α → σ → Prop) : Flow Op Ans α → σ → Prop
  | .done a, s => ∀ s', c.rely s s' → c.inv s' → post a s'
  | .ask op k, s => ∀ s', c.rely s s' → c.inv s' →
      c.pre req op s' ∧
        ∀ o, r.oracle o req op s' → Safe req post (k (act o req op s').1) (act o req op s').2

/-- Every operation that is asked within the contract keeps the invariant and the rely. -/
structure Sound : Prop where
  refl : ∀ s, c.rely s s
  trans : ∀ s₁ s₂ s₃, c.rely s₁ s₂ → c.rely s₂ s₃ → c.rely s₁ s₃
  keeps : ∀ o req op s, c.inv s → c.pre req op s → r.oracle o req op s →
    c.inv (act o req op s).2 ∧ c.rely s (act o req op s).2

variable {act c r}

theorem Safe.mono (h : c.Sound act r) {req : Req} {post : α → σ → Prop} {f : Flow Op Ans α} {s s' : σ}
    (hf : c.Safe act r req post f s) (hs : c.rely s s') : c.Safe act r req post f s' := by
  cases f with
  | done a => exact fun s₂ h₂ hi => hf s₂ (h.trans _ _ _ hs h₂) hi
  | ask op k => exact fun s₂ h₂ hi => hf s₂ (h.trans _ _ _ hs h₂) hi

theorem Safe.of_later (h : c.Sound act r) {req : Req} {post : α → σ → Prop} {f : Flow Op Ans α} {s : σ}
    (hf : ∀ s', c.rely s s' → c.inv s' → c.Safe act r req post f s') : c.Safe act r req post f s := by
  cases f with
  | done a => exact fun s₁ h₁ hi => hf s₁ h₁ hi s₁ (h.refl s₁) hi
  | ask op k => exact fun s₁ h₁ hi => hf s₁ h₁ hi s₁ (h.refl s₁) hi

theorem Safe.bind (h : c.Sound act r) {req : Req} {post : α → σ → Prop} {post' : β → σ → Prop}
    {m : Flow Op Ans α} {f : α → Flow Op Ans β} {s : σ} (hm : c.Safe act r req post m s)
    (hf : ∀ a s', c.inv s' → post a s' → c.Safe act r req post' (f a) s') :
    c.Safe act r req post' (m.bind f) s := by
  induction m generalizing s with
  | done a => exact Safe.of_later h fun s' hs hi => hf a s' hi (hm s' hs hi)
  | ask op k ih =>
    intro s' hs hi
    obtain ⟨hpre, hnext⟩ := hm s' hs hi
    exact ⟨hpre, fun o ho => ih _ (hnext o ho)⟩

variable (act r)

/-- The invariant holds, and every call is safe. -/
def Holds (c : Contract σ Req Op) (post : Req → Res → σ → Prop) (p : Pool σ Req Op Ans Res) : Prop :=
  c.inv p.shared ∧ ∀ x ∈ p.calls, c.Safe act r x.1 (post x.1) x.2 p.shared

/-- Every call that may start is safe. -/
def Starts (c : Contract σ Req Op) (post : Req → Res → σ → Prop) : Prop :=
  ∀ req s, c.inv s → r.accepts s req → c.Safe act r req (post req) (body req) s

variable {body act r} {post : Req → Res → σ → Prop}

theorem step_holds (h : c.Sound act r) (hstart : c.Starts body act r post) {p : Pool σ Req Op Ans Res}
    (m : Move Req ω) (hm : Pool.Allowed r p m) (hp : c.Holds act r post p) :
    c.Holds act r post (Pool.step body act m p) ∧ c.rely p.shared (Pool.step body act m p).shared := by
  obtain ⟨hinv, hcalls⟩ := hp
  cases m with
  | start req =>
    refine ⟨⟨hinv, ?_⟩, h.refl _⟩
    intro x hx
    simp only [Pool.step, List.mem_append, List.mem_singleton] at hx
    rcases hx with hx | rfl
    · exact hcalls x hx
    · exact hstart req _ hinv hm
  | advance i o =>
    simp only [Pool.step]
    split
    · rename_i req op k hi
      have hsafe := hcalls _ (List.mem_of_getElem? hi)
      obtain ⟨hpre, hnext⟩ := hsafe _ (h.refl _) hinv
      have ho := hm req op k hi
      obtain ⟨hinv', hrely⟩ := h.keeps o req op _ hinv hpre ho
      refine ⟨⟨hinv', ?_⟩, hrely⟩
      intro x hx
      rcases List.mem_or_eq_of_mem_set hx with hx | rfl
      · exact (hcalls x hx).mono h hrely
      · exact hnext o ho
    · exact ⟨⟨hinv, hcalls⟩, h.refl _⟩

/-- **The rule.** A sound contract holds along every run. -/
theorem sound (h : c.Sound act r) (hstart : c.Starts body act r post) {p₀ p : Pool σ Req Op Ans Res}
    (hp₀ : c.Holds act r post p₀) (hrun : Pool.Reach body act r p₀ p) :
    c.Holds act r post p ∧ c.rely p₀.shared p.shared := by
  induction hrun with
  | init => exact ⟨hp₀, h.refl _⟩
  | step m _ hm ih =>
    obtain ⟨hold, hrely⟩ := step_holds h hstart m hm ih.1
    exact ⟨hold, h.trans _ _ _ ih.2 hrely⟩

theorem Holds.returned (h : c.Sound act r) {p : Pool σ Req Op Ans Res} (hp : c.Holds act r post p)
    {req : Req} {a : Res} (hmem : (req, Flow.done a) ∈ p.calls) : post req a p.shared :=
  hp.2 _ hmem _ (h.refl _) hp.1

/-- A contract that asks for more before an operation. -/
def strengthen (c : Contract σ Req Op) (pre : Req → Op → σ → Prop) : Contract σ Req Op where
  inv := c.inv
  rely := c.rely
  pre req op s := c.pre req op s ∧ pre req op s

theorem Sound.strengthen (h : c.Sound act r) (pre : Req → Op → σ → Prop) : (c.strengthen pre).Sound act r where
  refl := h.refl
  trans := h.trans
  keeps o req op s hinv hpre ho := h.keeps o req op s hinv hpre.1 ho

/-- The calls of one request that start from here on keep a stronger contract, when its body
does so wherever the others may lead. -/
theorem later_calls (h : c.Sound act r) (hstart : c.Starts body act r post) {p q : Pool σ Req Op Ans Res}
    (hp : c.Holds act r post p) (hrun : Pool.Reach body act r p q) {pre : Req → Op → σ → Prop} {req : Req}
    {post' : Res → σ → Prop}
    (hbody : ∀ s, c.rely p.shared s → c.inv s → (c.strengthen pre).Safe act r req post' (body req) s) :
    ∀ i f, p.calls.length ≤ i → q.calls[i]? = some (req, f) →
      (c.strengthen pre).Safe act r req post' f q.shared := by
  have hsound := h.strengthen pre
  induction hrun with
  | init =>
    intro i f hi hget
    rw [List.getElem?_eq_none hi] at hget
    cases hget
  | @step q m hrun hm ih =>
    intro i f hi hget
    obtain ⟨hq, hrely⟩ := sound h hstart hp hrun
    have hnext := (step_holds h hstart m hm hq).2
    cases m with
    | start req' =>
      simp only [Pool.step, List.getElem?_append] at hget
      split at hget
      · exact ih i f hi hget
      · rw [List.getElem?_singleton] at hget
        split at hget
        · obtain ⟨rfl, rfl⟩ := Prod.mk.inj (Option.some.inj hget)
          exact hbody _ hrely hq.1
        · cases hget
    | advance j o =>
      simp only [Pool.step] at hget hnext ⊢
      split at hget
      · rename_i req' op k hj
        simp only [hj] at hnext
        rw [List.getElem?_set] at hget
        split_ifs at hget with hji
        · -- the call itself moves on
          subst hji
          obtain ⟨rfl, rfl⟩ := Prod.mk.inj (Option.some.inj hget)
          exact (ih j _ hi hj _ (h.refl _) hq.1).2 o (hm _ op k hj)
        · -- another call does
          exact (ih i f hi hget).mono hsound hnext
      · exact ih i f hi hget

end Contract

end Pool

end CommerceAgent.Lib
