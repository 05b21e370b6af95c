import CommerceAgent.Lib.Lines

/-!
# Words

`re.findall(r"\w+|[^\w\s]", text)`: the words of a text and the marks around them. A text can be cut before a
mark and after it.
-/

namespace CommerceAgent.Lib

/-- `\w`, for text: what Unicode calls a letter or a number, and the underscore. -/
structure WordChars where
  isWord : Char → Bool
  ascii : ∀ c, c.toNat < 128 → isWord c = (c.isAlphanum || c = '_')

/-- The word that ends here, held in reverse. -/
def endWord (begun : List Char) : List (List Char) := if begun = [] then [] else [begun.reverse]

/-- What `[^\w\s]` finds at a character that is in no word. -/
def mark (c : Char) : List (List Char) := if isSpace c then [] else [[c]]

namespace WordChars

variable (chars : WordChars)

/-- What is found in a text after the begun word. -/
def findFrom : List Char → List Char → List (List Char)
  | begun, [] => endWord begun
  | begun, c :: r => if chars.isWord c then findFrom (c :: begun) r else endWord begun ++ (mark c ++ findFrom [] r)

def findall (cs : List Char) : List (List Char) := chars.findFrom [] cs

/-- No word goes on at the front of a text. -/
def Breaks (cs : List Char) : Prop := ∀ c ∈ cs.head?, chars.isWord c = false

variable {chars}

theorem findall_mark {c : Char} (h : chars.isWord c = false) (r : List Char) :
    chars.findall (c :: r) = mark c ++ chars.findall r := by
  unfold findall
  rw [findFrom, h]
  rfl

theorem findFrom_append {ys : List Char} (h : chars.Breaks ys) (begun xs : List Char) :
    chars.findFrom begun (xs ++ ys) = chars.findFrom begun xs ++ chars.findall ys := by
  induction xs generalizing begun with
  | nil =>
    cases ys with
    | nil => simp [findFrom, findall, endWord]
    | cons c r =>
      have hc : chars.isWord c = false := h c rfl
      rw [List.nil_append, findall_mark hc, findFrom, findFrom, hc]
      rfl
  | cons x xs ih =>
    rw [List.cons_append, findFrom, findFrom]
    split_ifs
    · exact ih (x :: begun)
    · rw [ih, List.append_assoc, List.append_assoc]

theorem findall_append {ys : List Char} (h : chars.Breaks ys) (xs : List Char) :
    chars.findall (xs ++ ys) = chars.findall xs ++ chars.findall ys :=
  findFrom_append h [] xs

end WordChars

/-- The words of ASCII alone. -/
def WordChars.plain : WordChars where
  isWord c := c.isAlphanum || c = '_'
  ascii _ _ := rfl

end CommerceAgent.Lib
