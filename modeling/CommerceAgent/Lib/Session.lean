import CommerceAgent.Lib.Play

/-!
# Protocols

A protocol has states, and says of each which operations may come next and where their answers lead.
`Conducts` is the rule for a call that keeps to a protocol whatever it is answered.
-/

namespace CommerceAgent.Lib

namespace Flow

variable {Op : Type} {Ans : Op → Type} {Q α β : Type}

structure Protocol (Op : Type) (Ans : Op → Type) (Q : Type) where
  allowed : Q → Op → Prop
  next : Q → (op : Op) → Ans op → Q
  /-- The answers that a call may rely on. -/
  ok : (op : Op) → Ans op → Prop

namespace Protocol

variable (p : Protocol Op Ans Q)

/-- The state behind some events. -/
def after (q : Q) (log : Log Op Ans) : Q := log.foldl (fun q e => p.next q e.op e.answer) q

/-- Each event is allowed in the state behind those before it. -/
def Legal : Q → Log Op Ans → Prop
  | _, [] => True
  | q, e :: log => p.allowed q e.op ∧ Legal (p.next q e.op e.answer) log

variable {p} {q : Q} {log : Log Op Ans}

theorem after_append (q : Q) (front back : Log Op Ans) : p.after q (front ++ back) = p.after (p.after q front) back :=
  List.foldl_append

theorem legal_append {front back : Log Op Ans} :
    p.Legal q (front ++ back) ↔ p.Legal q front ∧ p.Legal (p.after q front) back := by
  induction front generalizing q with
  | nil => exact ⟨fun h => ⟨trivial, h⟩, fun h => h.2⟩
  | cons e front ih =>
    have hnext := ih (q := p.next q e.op e.answer)
    constructor
    · rintro ⟨he, hrest⟩
      exact ⟨⟨he, (hnext.mp hrest).1⟩, (hnext.mp hrest).2⟩
    · rintro ⟨⟨he, hfront⟩, hback⟩
      exact ⟨he, hnext.mpr ⟨hfront, hback⟩⟩

/-- What is said of every operation that is allowed where something holds, as long as it holds. -/
theorem Legal.forall (inv : Q → Prop) {P : Op → Prop} (h : p.Legal q log) (hinv : inv q)
    (hstep : ∀ q op answer, inv q → p.allowed q op → P op ∧ inv (p.next q op answer)) : ∀ e ∈ log, P e.op := by
  induction log generalizing q with
  | nil => exact fun _ he => absurd he List.not_mem_nil
  | cons e log ih =>
    obtain ⟨hop, hnext⟩ := hstep q e.op e.answer hinv h.1
    exact List.forall_mem_cons.mpr ⟨hop, ih h.2 hnext⟩

theorem Legal.at {front back : Log Op Ans} {e : Event Op Ans} (h : p.Legal q (front ++ e :: back)) :
    p.Legal q front ∧ p.allowed (p.after q front) e.op ∧ p.Legal (p.next (p.after q front) e.op e.answer) back :=
  legal_append.mp h

/-- What relates a state to all that was done, if each operation keeps it so. -/
theorem Legal.tracks (R : Q → Log Op Ans → Prop) (front : Log Op Ans) (h : p.Legal q log) (hR : R q front)
    (hstep : ∀ q front op answer, R q front → p.allowed q op → R (p.next q op answer) (front ++ [⟨op, answer⟩])) :
    R (p.after q log) (front ++ log) := by
  induction log generalizing q front with
  | nil => rwa [List.append_nil]
  | cons e log ih =>
    have hnext := ih (front ++ [e]) h.2 (hstep q front e.op e.answer hR h.1)
    rwa [List.append_assoc] at hnext

/-- The protocol whose state is all that was done. -/
def logged (allowed : Log Op Ans → Op → Prop) : Protocol Op Ans (Log Op Ans) where
  allowed := allowed
  next log op answer := log ++ [⟨op, answer⟩]
  ok _ _ := True

theorem after_logged {allowed : Log Op Ans → Op → Prop} (front log : Log Op Ans) :
    (logged allowed).after front log = front ++ log := by
  induction log generalizing front with
  | nil => exact (List.append_nil front).symm
  | cons e log ih =>
    refine (ih (front ++ [e])).trans ?_
    rw [List.append_assoc]
    rfl

theorem after_concat (q : Q) (front : Log Op Ans) (e : Event Op Ans) :
    p.after q (front ++ [e]) = p.next (p.after q front) e.op e.answer := after_append q front [e]

end Protocol

/-- The call keeps to the protocol from a state on, and ends as `post` says. -/
def Conducts (p : Protocol Op Ans Q) (post : α → Q → Prop) : Flow Op Ans α → Q → Prop
  | .done a, q => post a q
  | .ask op k, q => p.allowed q op ∧ ∀ answer, p.ok op answer → Conducts p post (k answer) (p.next q op answer)

variable {p : Protocol Op Ans Q} {post post' : α → Q → Prop} {q : Q}

theorem Conducts.done {a : α} (h : post a q) : (Flow.done a : Flow Op Ans α).Conducts p post q := h

theorem Conducts.ask {op : Op} {k : Ans op → Flow Op Ans α} (hop : p.allowed q op)
    (hk : ∀ answer, p.ok op answer → (k answer).Conducts p post (p.next q op answer)) :
    (Flow.ask op k).Conducts p post q := ⟨hop, hk⟩

theorem Conducts.mono {f : Flow Op Ans α} (h : f.Conducts p post q) (hpost : ∀ a q, post a q → post' a q) :
    f.Conducts p post' q := by
  induction f generalizing q with
  | done a => exact hpost a q h
  | ask op k ih => exact ⟨h.1, fun answer hok => ih answer (h.2 answer hok)⟩

theorem Conducts.bind {post : β → Q → Prop} {m : Flow Op Ans α} {f : α → Flow Op Ans β}
    (h : m.Conducts p (fun a q => (f a).Conducts p post q) q) : (m.bind f).Conducts p post q := by
  induction m generalizing q with
  | done a => exact h
  | ask op k ih => exact ⟨h.1, fun answer hok => ih answer (h.2 answer hok)⟩

/-- **The rule.** What a call does to its end is legal, and it ends as `post` says. -/
theorem Conducts.play {f : Flow Op Ans α} (h : f.Conducts p post q) {env : Env Op Ans}
    (henv : ∀ log op, p.ok op (env log op)) (log : Log Op Ans) :
    ∃ tail, (f.play env log).2 = log ++ tail ∧ p.Legal q tail ∧ post (f.play env log).1 (p.after q tail) := by
  induction f generalizing q log with
  | done a => exact ⟨[], (List.append_nil log).symm, trivial, h⟩
  | ask op k ih =>
    obtain ⟨tail, htail, hlegal, hpost⟩ := ih (env log op) (h.2 _ (henv log op)) (log ++ [⟨op, env log op⟩])
    refine ⟨⟨op, env log op⟩ :: tail, ?_, ⟨h.1, hlegal⟩, hpost⟩
    change (Flow.play env (k (env log op)) (log ++ [⟨op, env log op⟩])).2 = _
    rw [htail, List.append_assoc]
    rfl

theorem Conducts.cut {f : Flow Op Ans α} (h : f.Conducts p post q) {env : Env Op Ans}
    (henv : ∀ log op, p.ok op (env log op)) (n : ℕ) (log : Log Op Ans) :
    ∃ tail, (f.cut env n log).2 = log ++ tail ∧ p.Legal q tail ∧
      ∀ a, (f.cut env n log).1 = some a → post a (p.after q tail) := by
  induction f generalizing q n log with
  | done a =>
    refine ⟨[], ?_, trivial, ?_⟩
    · cases n <;> exact (List.append_nil log).symm
    · intro b hb
      obtain rfl : a = b := by cases n <;> exact Option.some.inj hb
      exact h
  | ask op k ih =>
    cases n with
    | zero => exact ⟨[], (List.append_nil log).symm, trivial, nofun⟩
    | succ n =>
      obtain ⟨tail, htail, hlegal, hpost⟩ := ih (env log op) (h.2 _ (henv log op)) n (log ++ [⟨op, env log op⟩])
      refine ⟨⟨op, env log op⟩ :: tail, ?_, ⟨h.1, hlegal⟩, hpost⟩
      change (Flow.cut env n (k (env log op)) (log ++ [⟨op, env log op⟩])).2 = _
      rw [htail, List.append_assoc]
      rfl

theorem Conducts.weaken {allowed allowed' : Log Op Ans → Op → Prop} {post : α → Log Op Ans → Prop} {f : Flow Op Ans α}
    {log : Log Op Ans} (h : f.Conducts (.logged allowed) post log) (himp : ∀ log op, allowed log op → allowed' log op) :
    f.Conducts (.logged allowed') post log := by
  induction f generalizing log with
  | done a => exact h
  | ask op k ih => exact ⟨himp log op h.1, fun answer hok => ih answer (h.2 answer hok)⟩

theorem Conducts.allowed {allowed : Log Op Ans → Op → Prop} {post : α → Log Op Ans → Prop} {f : Flow Op Ans α}
    (h : f.Conducts (.logged allowed) post []) (env : Env Op Ans) (n : ℕ) :
    (∀ front e back, (f.cut env n []).2 = front ++ e :: back → allowed front e.op) ∧
      ∀ a, (f.cut env n []).1 = some a → post a (f.cut env n []).2 := by
  have hok (log : Log Op Ans) (op : Op) : (Protocol.logged allowed).ok op (env log op) := trivial
  obtain ⟨tail, htail, hlegal, hpost⟩ := h.cut hok n []
  rw [htail, List.nil_append]
  refine ⟨?_, fun a ha => ?_⟩
  · rintro front e back rfl
    have hallowed := (Protocol.Legal.at hlegal).2.1
    rwa [Protocol.after_logged] at hallowed
  · have hend := hpost a ha
    rwa [Protocol.after_logged] at hend

end Flow

end CommerceAgent.Lib
