import CommerceAgent.Lib.Flow

/-!
# Calls against an environment

`cut` runs a call against an environment that answers each operation from all that came
before, and stops it after some operations. `Meets` is what a call does whatever the
answers are, and wherever it is stopped.
-/

namespace CommerceAgent.Lib

/-- An operation and its answer. -/
structure Event (Op : Type) (Ans : Op → Type) where
  op : Op
  answer : Ans op

/-- What happened so far, the first event first. -/
abbrev Log (Op : Type) (Ans : Op → Type) := List (Event Op Ans)

/-- The answers of an environment. -/
abbrev Env (Op : Type) (Ans : Op → Type) := Log Op Ans → (op : Op) → Ans op

namespace Flow

variable {Op : Type} {Ans : Op → Type} {α β ε : Type}

/-- The call to its end. -/
def play (env : Env Op Ans) : Flow Op Ans α → Log Op Ans → α × Log Op Ans
  | .done a, log => (a, log)
  | .ask op k, log => (k (env log op)).play env (log ++ [⟨op, env log op⟩])

theorem play_bind (env : Env Op Ans) (m : Flow Op Ans α) (f : α → Flow Op Ans β) (log : Log Op Ans) :
    (m.bind f).play env log = (f (m.play env log).1).play env (m.play env log).2 := by
  induction m generalizing log with
  | done a => rfl
  | ask op k ih => exact ih (env log op) _

/-- The call stops after `n` operations, if it has not ended before. -/
def cut (env : Env Op Ans) : ℕ → Flow Op Ans α → Log Op Ans → Option α × Log Op Ans
  | _, .done a, log => (some a, log)
  | 0, .ask _ _, log => (none, log)
  | n + 1, .ask op k, log => cut env n (k (env log op)) (log ++ [⟨op, env log op⟩])

/-- Every answer of the environment is one that the call may rely on. -/
def Obeys (ok : Log Op Ans → Event Op Ans → Prop) (env : Env Op Ans) : Prop :=
  ∀ log op, ok log ⟨op, env log op⟩

/-- The call ends in `post (some result)`, and stands in `post none` whenever it asks. -/
def Meets (ok : Log Op Ans → Event Op Ans → Prop) (post : Option α → Log Op Ans → Prop) :
    Flow Op Ans α → Log Op Ans → Prop
  | .done a, log => post (some a) log
  | .ask op k, log => post none log ∧ ∀ answer, ok log ⟨op, answer⟩ → Meets ok post (k answer) (log ++ [⟨op, answer⟩])

variable {ok : Log Op Ans → Event Op Ans → Prop} {post post' : Option α → Log Op Ans → Prop} {log : Log Op Ans}

theorem Meets.mono {f : Flow Op Ans α} (h : f.Meets ok post log) (hpost : ∀ a log, post a log → post' a log) :
    f.Meets ok post' log := by
  induction f generalizing log with
  | done a => exact hpost _ _ h
  | ask op k ih =>
    obtain ⟨hnone, hk⟩ := h
    exact ⟨hpost _ _ hnone, fun answer hok => ih answer (hk answer hok)⟩

theorem Meets.bind {post : Option β → Log Op Ans → Prop} {m : Flow Op Ans α} {f : α → Flow Op Ans β}
    (h : m.Meets ok (fun a log => a.elim (post none log) fun a => (f a).Meets ok post log) log) :
    (m.bind f).Meets ok post log := by
  induction m generalizing log with
  | done a => exact h
  | ask op k ih =>
    obtain ⟨hnone, hk⟩ := h
    exact ⟨hnone, fun answer hok => ih answer (hk answer hok)⟩

/-- **The rule.** Wherever the call is stopped, its postcondition holds. -/
theorem Meets.cut {f : Flow Op Ans α} (h : f.Meets ok post log) {env : Env Op Ans} (henv : Obeys ok env) (n : ℕ) :
    post (f.cut env n log).1 (f.cut env n log).2 := by
  induction f generalizing log n with
  | done a => cases n <;> exact h
  | ask op k ih =>
    obtain ⟨hnone, hk⟩ := h
    cases n with
    | zero => exact hnone
    | succ n => exact ih (env log op) (hk _ (henv log op)) n

theorem Meets.play {f : Flow Op Ans α} (h : f.Meets ok post log) {env : Env Op Ans} (henv : Obeys ok env) :
    post (some (f.play env log).1) (f.play env log).2 := by
  induction f generalizing log with
  | done a => exact h
  | ask op k ih => exact ih (env log op) (h.2 _ (henv log op))

theorem Meets.and {f : Flow Op Ans α} (h : f.Meets ok post log) (h' : f.Meets ok post' log) :
    f.Meets ok (fun a log => post a log ∧ post' a log) log := by
  induction f generalizing log with
  | done a => exact ⟨h, h'⟩
  | ask op k ih =>
    obtain ⟨hnone, hk⟩ := h
    obtain ⟨hnone', hk'⟩ := h'
    exact ⟨⟨hnone, hnone'⟩, fun answer hok => ih answer (hk answer hok) (hk' answer hok)⟩

theorem Meets.grows (ok : Log Op Ans → Event Op Ans → Prop) (f : Flow Op Ans α) (log : Log Op Ans) :
    f.Meets ok (fun _ later => log ⊆ later) log := by
  induction f generalizing log with
  | done a => exact List.Subset.refl log
  | ask op k ih =>
    refine ⟨List.Subset.refl log, fun answer _ => ?_⟩
    exact (ih answer (log ++ [⟨op, answer⟩])).mono fun _ _ h => List.Subset.trans (List.subset_append_left _ _) h

/-- Nothing is asked of a call that is stopped before its end. -/
def Ends (post : α → Log Op Ans → Prop) : Option α → Log Op Ans → Prop := fun r log => ∀ a ∈ r, post a log

variable {ended : α → Log Op Ans → Prop}

theorem Meets.done {a : α} (h : ended a log) : (Flow.done a).Meets ok (Ends ended) log := by
  rintro b ⟨⟩
  exact h

theorem Meets.ask {op : Op} {k : Ans op → Flow Op Ans α}
    (h : ∀ answer, ok log ⟨op, answer⟩ → (k answer).Meets ok (Ends ended) (log ++ [⟨op, answer⟩])) :
    (Flow.ask op k).Meets ok (Ends ended) log :=
  ⟨nofun, h⟩

theorem Meets.seq {ended : β → Log Op Ans → Prop} {m : Flow Op Ans α} {f : α → Flow Op Ans β}
    (h : m.Meets ok (Ends fun a log => (f a).Meets ok (Ends ended) log) log) : (m.bind f).Meets ok (Ends ended) log := by
  refine Meets.bind (h.mono fun a log ha => ?_)
  cases a with
  | none => exact nofun
  | some a => exact ha a rfl

theorem Meets.result {f : Flow Op Ans α} (h : f.Meets ok (Ends ended) log) {env : Env Op Ans} (henv : Obeys ok env) :
    ended (f.play env log).1 (f.play env log).2 := h.play henv _ rfl

-- from here on by these rules only, so that no elaboration runs the call
attribute [irreducible] Meets

/-! ## Runs that are cut short -/

/-- A call that is made again and again, and stopped each time after some operations. -/
def cuts (env : Env Op Ans) (f : Flow Op Ans α) : List ℕ → Log Op Ans → Log Op Ans
  | [], log => log
  | n :: ns, log => cuts env f ns (f.cut env n log).2

theorem cuts_append (env : Env Op Ans) (f : Flow Op Ans α) (ns ms : List ℕ) (log : Log Op Ans) :
    f.cuts env (ns ++ ms) log = f.cuts env ms (f.cuts env ns log) := by
  induction ns generalizing log with
  | nil => rfl
  | cons n ns ih => exact ih _

theorem Meets.cuts {inv : Log Op Ans → Prop} {f : Flow Op Ans α}
    (hstep : ∀ log, inv log → f.Meets ok (fun _ log => inv log) log) {env : Env Op Ans} (henv : Obeys ok env)
    (ns : List ℕ) {log : Log Op Ans} (hinv : inv log) : inv (f.cuts env ns log) := by
  induction ns generalizing log with
  | nil => exact hinv
  | cons n ns ih => exact ih ((hstep log hinv).cut henv n)

/-- At most `n` operations, each of which meets `P`. -/
def Steps (P : Op → Prop) : ℕ → Flow Op Ans α → Prop
  | _, .done _ => True
  | 0, .ask _ _ => False
  | n + 1, .ask op k => P op ∧ ∀ answer, Steps P n (k answer)

variable {P : Op → Prop} {m n : ℕ}

theorem Steps.done {a : α} : (Flow.done a : Flow Op Ans α).Steps P n := by
  cases n <;> trivial

theorem Steps.ask {op : Op} {k : Ans op → Flow Op Ans α} (hop : P op) (hk : ∀ answer, (k answer).Steps P n) :
    (Flow.ask op k).Steps P (n + 1) :=
  ⟨hop, hk⟩

theorem Steps.mono {f : Flow Op Ans α} (h : f.Steps P m) (hle : m ≤ n) : f.Steps P n := by
  induction f generalizing m n with
  | done a => exact Steps.done
  | ask op k ih =>
    cases m with
    | zero => exact h.elim
    | succ m =>
      obtain ⟨hop, hk⟩ := h
      obtain ⟨n, rfl⟩ : ∃ n', n = n' + 1 := ⟨n - 1, by omega⟩
      exact ⟨hop, fun answer => ih answer (hk answer) (by omega)⟩

theorem Steps.bind {f : Flow Op Ans α} {g : α → Flow Op Ans β} (hf : f.Steps P m) (hg : ∀ a, (g a).Steps P n) :
    (f.bind g).Steps P (m + n) := by
  induction f generalizing m with
  | done a => exact (hg a).mono (Nat.le_add_left n m)
  | ask op k ih =>
    cases m with
    | zero => exact hf.elim
    | succ m =>
      obtain ⟨hop, hk⟩ := hf
      rw [Nat.add_right_comm]
      exact ⟨hop, fun answer => ih answer (hk answer)⟩

theorem Steps.cut {f : Flow Op Ans α} (h : f.Steps P n) (env : Env Op Ans) (i : ℕ) (log : Log Op Ans) :
    ∃ tail : Log Op Ans, (f.cut env i log).2 = log ++ tail ∧ tail.length ≤ n ∧ ∀ e ∈ tail, P e.op := by
  induction f generalizing n i log with
  | done a => cases i <;> exact ⟨[], (List.append_nil log).symm, Nat.zero_le _, nofun⟩
  | ask op k ih =>
    cases n with
    | zero => exact h.elim
    | succ n =>
      obtain ⟨hop, hk⟩ := h
      cases i with
      | zero => exact ⟨[], (List.append_nil log).symm, Nat.zero_le _, nofun⟩
      | succ i =>
        obtain ⟨tail, htail, hlength, hops⟩ := ih (env log op) (hk _) i (log ++ [⟨op, env log op⟩])
        refine ⟨⟨op, env log op⟩ :: tail, ?_, Nat.succ_le_succ hlength, ?_⟩
        · change (Flow.cut env i (k (env log op)) (log ++ [⟨op, env log op⟩])).2 = _
          rw [htail, List.append_assoc]
          rfl
        · exact List.forall_mem_cons.mpr ⟨hop, hops⟩

theorem Steps.cut_eq_play {f : Flow Op Ans α} (h : f.Steps P n) (env : Env Op Ans) (log : Log Op Ans) :
    f.cut env n log = (some (f.play env log).1, (f.play env log).2) := by
  induction f generalizing n log with
  | done a => cases n <;> rfl
  | ask op k ih =>
    cases n with
    | zero => exact h.elim
    | succ n => exact ih (env log op) (h.2 _) (log ++ [⟨op, env log op⟩])

/-! ## Exceptions -/

/-- Goes on with a value; an exception ends the call. -/
def onOk (f : α → Flow Op Ans (Except ε β)) : Except ε α → Flow Op Ans (Except ε β)
  | .ok a => f a
  | .error e => .done (.error e)

@[simp] theorem onOk_ok (f : α → Flow Op Ans (Except ε β)) (a : α) : onOk f (.ok a) = f a := rfl

@[simp] theorem onOk_error (f : α → Flow Op Ans (Except ε β)) (e : ε) : onOk f (.error e) = .done (.error e) := rfl

/-! ## Operations that are calls themselves -/

variable {Op' : Type} {Ans' : Op' → Type} {σ : Type}

/-- Each operation of a call becomes a call of another kind, with a state of its own. -/
def handle (h : (op : Op) → σ → Flow Op' Ans' (Ans op × σ)) : Flow Op Ans α → σ → Flow Op' Ans' (α × σ)
  | .done a, s => .done (a, s)
  | .ask op k, s => (h op s).bind fun r => (k r.1).handle h r.2

variable {h : (op : Op) → σ → Flow Op' Ans' (Ans op × σ)}

@[simp] theorem handle_done (a : α) (s : σ) : (Flow.done a : Flow Op Ans α).handle h s = .done (a, s) := rfl

@[simp] theorem handle_ask (op : Op) (k : Ans op → Flow Op Ans α) (s : σ) :
    (Flow.ask op k).handle h s = (h op s).bind fun r => (k r.1).handle h r.2 := rfl

/-- Calls one after another, with a state that goes from each to the next. -/
def each {ι : Type} (f : ι → σ → Flow Op Ans (α × σ)) : List ι → σ → Flow Op Ans (List α × σ)
  | [], s => .done ([], s)
  | i :: is, s => (f i s).bind fun r => (each f is r.2).bind fun rs => .done (r.1 :: rs.1, rs.2)

theorem Meets.each {ι : Type} {f : ι → σ → Flow Op Ans (α × σ)} {inv : σ → Log Op Ans → Prop}
    (hstep : ∀ i s log, inv s log → (f i s).Meets ok (Ends fun r log => inv r.2 log) log) (is : List ι) {s : σ}
    (hinv : inv s log) : (Flow.each f is s).Meets ok (Ends fun r log => inv r.2 log) log := by
  induction is generalizing s log with
  | nil => exact Meets.done hinv
  | cons i is ih =>
    refine Meets.seq ((hstep i s log hinv).mono fun r log hr => ?_)
    intro a hsome
    refine Meets.seq ((ih (hr a hsome)).mono fun rs log hrs => ?_)
    intro as hsome
    exact Meets.done (hrs as hsome)

/-- A call that asks for its operations in the order of a protocol, of which `Q` are the states. -/
def Follows {Q : Type} (allowed : Q → Op → Prop) (next : Q → (op : Op) → Ans op → Q) : Flow Op Ans α → Q → Prop
  | .done _, _ => True
  | .ask op k, q => allowed q op ∧ ∀ answer, Follows allowed next (k answer) (next q op answer)

theorem Follows.bind {Q : Type} {allowed : Q → Op → Prop} {next : Q → (op : Op) → Ans op → Q} {m : Flow Op Ans α}
    {f : α → Flow Op Ans β} {q : Q} (hm : m.Follows allowed next q) (hf : ∀ a q, (f a).Follows allowed next q) :
    (m.bind f).Follows allowed next q := by
  induction m generalizing q with
  | done a => exact hf a q
  | ask op k ih =>
    obtain ⟨hallowed, hk⟩ := hm
    exact ⟨hallowed, fun answer => ih answer (hk answer)⟩

theorem Meets.handle {Q : Type} {allowed : Q → Op → Prop} {next : Q → (op : Op) → Ans op → Q}
    {ok : Log Op' Ans' → Event Op' Ans' → Prop} {inv : Q → σ → Log Op' Ans' → Prop}
    (hstep : ∀ q op s log, allowed q op → inv q s log →
      (h op s).Meets ok (Ends fun r log => inv (next q op r.1) r.2 log) log)
    {f : Flow Op Ans α} {q : Q} (hf : f.Follows allowed next q) {s : σ} {log : Log Op' Ans'} (hinv : inv q s log) :
    (f.handle h s).Meets ok (Ends fun r log => ∃ q, inv q r.2 log) log := by
  induction f generalizing q s log with
  | done a => exact Meets.done ⟨q, hinv⟩
  | ask op k ih =>
    obtain ⟨hallowed, hk⟩ := hf
    refine Meets.seq ((hstep q op s log hallowed hinv).mono ?_)
    intro r log hr a hsome
    exact ih a.1 (hk a.1) (hr a hsome)

end Flow

end CommerceAgent.Lib
