import CipherString.Text.Blank

/-!
The tokens of an expression: the longest stretches without a separator. There is no escaping, so a
token never holds a separator, and the pieces of a token are what stands between its plus signs.
-/

namespace CipherString.Token

def isSeparator (c : Char) : Bool :=
  c == ':' || c == ',' || Text.isBlank c

/-- A word in front of a list of words; an empty one is none. -/
def consWord (word : List Char) (words : List (List Char)) : List (List Char) :=
  if word.isEmpty then words else word :: words

/-- The stretch of characters at the head of a text up to the first separator, possibly empty, and
the words after it. -/
def headAndWords : List Char → List Char × List (List Char)
  | [] => ([], [])
  | c :: cs =>
    let (word, words) := headAndWords cs
    if isSeparator c then ([], consWord word words) else (c :: word, words)

def words (cs : List Char) : List (List Char) :=
  consWord (headAndWords cs).1 (headAndWords cs).2

theorem consWord_append (word : List Char) (l m : List (List Char)) :
    consWord word l ++ m = consWord word (l ++ m) := by
  cases word <;> rfl

theorem headAndWords_append_separator {c : Char} (hc : isSeparator c = true)
    (xs ys : List Char) :
    headAndWords (xs ++ c :: ys) =
      ((headAndWords xs).1, (headAndWords xs).2 ++ words ys) := by
  induction xs with
  | nil => simp [headAndWords, words, hc]
  | cons x xs ih =>
    cases hx : isSeparator x with
    | true => simp [headAndWords, ih, hx, consWord_append]
    | false => simp [headAndWords, ih, hx]

/-- The words before a separator and those after it do not depend on each other. -/
theorem words_append_separator {c : Char} (hc : isSeparator c = true) (xs ys : List Char) :
    words (xs ++ c :: ys) = words xs ++ words ys := by
  rw [words, headAndWords_append_separator hc, ← consWord_append]
  rfl

theorem words_of_forall_not_isSeparator {xs : List Char}
    (h : ∀ c ∈ xs, isSeparator c = false) : words xs = consWord xs [] := by
  have key : headAndWords xs = (xs, []) := by
    induction xs with
    | nil => rfl
    | cons x xs ih =>
      simp [headAndWords, ih fun c hc => h c (List.mem_cons_of_mem _ hc), h x (by simp)]
  rw [words, key]

def scan (expression : String) : List String :=
  (words expression.toList).map String.ofList

def consChar (c : Char) : List (List Char) → List (List Char)
  | [] => [[c]]
  | word :: words => (c :: word) :: words

/-- What stands between the plus signs of a text, empty texts included. -/
def splitAtPlus : List Char → List (List Char)
  | [] => [[]]
  | c :: cs => if c = '+' then [] :: splitAtPlus cs else consChar c (splitAtPlus cs)

theorem consChar_ne_nil (c : Char) (l : List (List Char)) : consChar c l ≠ [] := by
  cases l <;> simp [consChar]

theorem consChar_append (c : Char) {l : List (List Char)} (hl : l ≠ []) (m : List (List Char)) :
    consChar c (l ++ m) = consChar c l ++ m := by
  obtain ⟨word, words, rfl⟩ := List.exists_cons_of_ne_nil hl
  rfl

theorem splitAtPlus_ne_nil (cs : List Char) : splitAtPlus cs ≠ [] := by
  cases cs with
  | nil => simp [splitAtPlus]
  | cons c cs =>
    rw [splitAtPlus]
    split
    · simp
    · exact consChar_ne_nil c _

theorem splitAtPlus_append_plus (xs ys : List Char) :
    splitAtPlus (xs ++ '+' :: ys) = splitAtPlus xs ++ splitAtPlus ys := by
  induction xs with
  | nil => simp [splitAtPlus]
  | cons x xs ih =>
    by_cases hx : x = '+'
    · simp [splitAtPlus, hx, ih]
    · simp [splitAtPlus, hx, ih, consChar_append x (splitAtPlus_ne_nil xs)]

def pieces (token : String) : List String :=
  (splitAtPlus token.toList).map String.ofList

end CipherString.Token
