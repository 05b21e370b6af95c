import Mathlib.Data.List.Basic

/-!
# Lines

`splitlines` of Python ends a line at more characters than `"\n"`.
-/

namespace CommerceAgent.Lib

/-- The characters at which `str.splitlines` ends a line. -/
def isLineBreak (c : Char) : Bool :=
  c.toNat ∈ [0x0a, 0x0b, 0x0c, 0x0d, 0x1c, 0x1d, 0x1e, 0x85, 0x2028, 0x2029]

/-- `str.isspace`, of a character. -/
def isSpace (c : Char) : Bool :=
  isLineBreak c || c.toNat ∈ [0x09, 0x1f, 0x20, 0xa0, 0x1680, 0x202f, 0x205f, 0x3000] ||
    (0x2000 ≤ c.toNat && c.toNat ≤ 0x200a)

/-- The lines of a text, after the begun one, which is held in reverse. -/
def splitFrom : List Char → List Char → List (List Char)
  | begun, [] => if begun = [] then [] else [begun.reverse]
  | begun, '\r' :: '\n' :: r => begun.reverse :: splitFrom [] r
  | begun, c :: r => if isLineBreak c then begun.reverse :: splitFrom [] r else splitFrom (c :: begun) r

def splitlines (cs : List Char) : List (List Char) := splitFrom [] cs

/-- The lines that `line.strip()` does not empty. -/
def nonblank (lines : List (List Char)) : List (List Char) := lines.filter fun line => line.any fun c => !isSpace c

def universalNewlines : List Char → List Char
  | [] => []
  | '\r' :: '\n' :: r => '\n' :: universalNewlines r
  | c :: r => (if c = '\r' then '\n' else c) :: universalNewlines r

theorem splitFrom_cons {c : Char} (h : isLineBreak c = false) (begun r : List Char) :
    splitFrom begun (c :: r) = splitFrom (c :: begun) r := by
  have hr : c ≠ '\r' := by
    rintro rfl
    simp [isLineBreak] at h
  rw [splitFrom.eq_3 _ _ _ (fun _ heq _ => absurd heq hr), h]
  rfl

theorem splitFrom_append {xs : List Char} (h : ∀ c ∈ xs, isLineBreak c = false) (begun r : List Char) :
    splitFrom begun (xs ++ r) = splitFrom (xs.reverse ++ begun) r := by
  induction xs generalizing begun with
  | nil => rfl
  | cons x xs ih =>
    rw [List.cons_append, splitFrom_cons (h x List.mem_cons_self), ih fun c hc => h c (List.mem_cons_of_mem _ hc)]
    simp

theorem splitFrom_newline (begun r : List Char) : splitFrom begun ('\n' :: r) = begun.reverse :: splitFrom [] r := by
  rw [splitFrom.eq_3 _ _ _ (fun _ heq _ => by cases heq)]
  rfl

theorem splitFrom_break {c : Char} {r : List Char} (h : isLineBreak c = true) (hr : c = '\r' → r.head? ≠ some '\n')
    (begun : List Char) : splitFrom begun (c :: r) = begun.reverse :: splitFrom [] r := by
  rw [splitFrom.eq_3 _ _ _ (fun _ heq hrest => hr heq (by rw [hrest]; rfl)), if_pos h]

theorem splitFrom_line (xs begun r : List Char) :
    splitFrom begun (xs ++ '\n' :: r) = splitFrom begun (xs ++ ['\n']) ++ splitFrom [] r := by
  induction begun, xs using splitFrom.induct with
  | case1 | case2 => simp [splitFrom_newline, splitFrom]
  | case3 begun xs ih => simp [splitFrom, ih]
  | case4 begun c xs hne hbreak ih =>
    by_cases hlast : c = '\r' ∧ xs = []
    · obtain ⟨rfl, rfl⟩ := hlast
      simp [splitFrom]
    · have hfront (s : List Char) : c = '\r' → (xs ++ '\n' :: s).head? ≠ some '\n' := by
        rintro rfl
        cases xs with
        | nil => exact absurd ⟨rfl, rfl⟩ hlast
        | cons x xs =>
          simp only [List.cons_append, List.head?_cons, ne_eq, Option.some.injEq]
          rintro rfl
          exact hne xs rfl rfl
      rw [List.cons_append, splitFrom_break hbreak (hfront r), ih, List.cons_append, splitFrom_break hbreak (hfront [])]
      rfl
  | case5 begun c xs hne hbreak ih =>
    rw [Bool.not_eq_true] at hbreak
    rw [List.cons_append, splitFrom_cons hbreak, ih, List.cons_append, splitFrom_cons hbreak]

theorem splitFrom_one {xs : List Char} (h : ∀ c ∈ xs, isLineBreak c = false) : splitFrom [] (xs ++ ['\n']) = [xs] := by
  rw [splitFrom_append h, splitFrom_newline]
  simp [splitFrom]

theorem mem_splitFrom {c : Char} (hc : isLineBreak c = false) (begun cs : List Char) (h : c ∈ begun ∨ c ∈ cs) :
    ∃ line ∈ splitFrom begun cs, c ∈ line := by
  have hne {x : Char} (hx : isLineBreak x = true) : c ≠ x := by
    rintro rfl
    rw [hc] at hx
    cases hx
  induction begun, cs using splitFrom.induct with
  | case1 => simp at h
  | case2 begun hbegun =>
    simp only [List.not_mem_nil, or_false] at h
    simp [splitFrom, hbegun, h]
  | case3 begun r ih =>
    unfold splitFrom
    simp only [List.mem_cons, hne (by decide : isLineBreak '\r' = true), hne (by decide : isLineBreak '\n' = true),
      false_or] at h
    rcases h with h | h
    · exact ⟨begun.reverse, List.mem_cons_self, List.mem_reverse.mpr h⟩
    · obtain ⟨line, hline, hmem⟩ := ih (Or.inr h)
      exact ⟨line, List.mem_cons_of_mem _ hline, hmem⟩
  | case4 begun x r hr hbreak ih =>
    rw [splitFrom.eq_3 _ _ _ hr, if_pos hbreak]
    simp only [List.mem_cons, hne hbreak, false_or] at h
    rcases h with h | h
    · exact ⟨begun.reverse, List.mem_cons_self, List.mem_reverse.mpr h⟩
    · obtain ⟨line, hline, hmem⟩ := ih (Or.inr h)
      exact ⟨line, List.mem_cons_of_mem _ hline, hmem⟩
  | case5 begun x r hr hbreak ih =>
    rw [splitFrom.eq_3 _ _ _ hr, if_neg hbreak]
    refine ih ?_
    simp only [List.mem_cons] at h ⊢
    tauto

theorem nonblank_append (xs ys : List (List Char)) : nonblank (xs ++ ys) = nonblank xs ++ nonblank ys :=
  List.filter_append ..

theorem nonblank_cons_of_pos {line : List Char} (h : (line.any fun c => !isSpace c) = true) (lines : List (List Char)) :
    nonblank (line :: lines) = line :: nonblank lines := by
  unfold nonblank
  rw [List.filter_cons, if_pos h]

theorem nonblank_cons_of_neg {line : List Char} (h : ¬ (line.any fun c => !isSpace c) = true)
    (lines : List (List Char)) : nonblank (line :: lines) = nonblank lines := by
  unfold nonblank
  rw [List.filter_cons, if_neg h]

theorem length_nonblank_pos {lines : List (List Char)} {line : List Char} (hline : line ∈ lines) {c : Char}
    (hc : c ∈ line) (hspace : isSpace c = false) : 0 < (nonblank lines).length := by
  refine List.length_pos_of_mem (a := line) (List.mem_filter.mpr ⟨hline, ?_⟩)
  exact List.any_eq_true.mpr ⟨c, hc, by rw [hspace]; rfl⟩

theorem isLineBreak_of_isSpace {c : Char} (h : isSpace c = false) : isLineBreak c = false := by
  unfold isSpace at h
  simp only [Bool.or_eq_false_iff] at h
  exact h.1.1

theorem first_break {text : List Char} (h : ∃ c ∈ text, isLineBreak c = true) :
    ∃ front c back, text = front ++ c :: back ∧ (∀ x ∈ front, isLineBreak x = false) ∧ isLineBreak c = true := by
  induction text with
  | nil => simp at h
  | cons x xs ih =>
    by_cases hx : isLineBreak x = true
    · exact ⟨[], x, xs, rfl, by simp, hx⟩
    · obtain ⟨front, c, back, rfl, hfront, hc⟩ := ih (by simpa [hx] using h)
      exact ⟨x :: front, c, back, rfl, by simpa [hx] using hfront, hc⟩

theorem splitFrom_after {c e : Char} {rest : List Char} (hbreak : isLineBreak c = true) (he : isLineBreak e = false)
    (hrest : e ∈ rest) (begun : List Char) :
    ∃ lines, splitFrom begun (c :: rest) = begun.reverse :: lines ∧ ∃ line ∈ lines, e ∈ line := by
  by_cases hr : c = '\r' → rest.head? ≠ some '\n'
  · exact ⟨_, splitFrom_break hbreak hr begun, mem_splitFrom he [] rest (Or.inr hrest)⟩
  · simp only [Classical.not_imp, not_not] at hr
    obtain ⟨rfl, hhead⟩ := hr
    obtain ⟨back, rfl⟩ := List.head?_eq_some_iff.mp hhead
    have hne : e ≠ '\n' := by
      rintro rfl
      simp [isLineBreak] at he
    exact ⟨_, splitFrom.eq_2 begun back, mem_splitFrom he [] back (Or.inr (by simpa [hne] using hrest))⟩

/-- A line with a break of its own between its ends is more than one. -/
theorem broken_line {d e : Char} {text : List Char} (h : ∃ c ∈ text, isLineBreak c = true) (hd : isSpace d = false)
    (he : isSpace e = false) : 1 < (nonblank (splitFrom [] (d :: text ++ [e] ++ ['\n']))).length := by
  obtain ⟨front, c, back, rfl, hfront, hc⟩ := first_break h
  have hsplit : d :: (front ++ c :: back) ++ [e] ++ ['\n'] = (d :: front) ++ c :: (back ++ [e] ++ ['\n']) := by simp
  have hfront' : ∀ x ∈ d :: front, isLineBreak x = false := by
    simpa [isLineBreak_of_isSpace hd] using hfront
  obtain ⟨lines, hlines, line, hline, hmem⟩ :=
    splitFrom_after hc (isLineBreak_of_isSpace he) (show e ∈ back ++ [e] ++ ['\n'] by simp) ((d :: front).reverse ++ [])
  rw [hsplit, splitFrom_append hfront', hlines]
  have hrest := length_nonblank_pos hline hmem he
  have hfirst := length_nonblank_pos (List.mem_singleton.mpr (rfl : ((d :: front).reverse ++ []).reverse = _))
    (show d ∈ _ by simp) hd
  have happend := congrArg List.length (nonblank_append [((d :: front).reverse ++ []).reverse] lines)
  rw [List.length_append, List.singleton_append] at happend
  omega

theorem universalNewlines_of_not_mem {cs : List Char} (h : '\r' ∉ cs) : universalNewlines cs = cs := by
  induction cs with
  | nil => rfl
  | cons c cs ih =>
    simp only [List.mem_cons, not_or] at h
    have hc : c ≠ '\r' := Ne.symm h.1
    rw [universalNewlines.eq_3 _ _ (fun _ heq _ => absurd heq hc), if_neg hc, ih h.2]

end CommerceAgent.Lib
