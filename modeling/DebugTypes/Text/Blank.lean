/-!
# Blank characters, trimming and words

A character is *blank* when it has the Unicode property `White_Space`.  Fields of a document are
trimmed of blanks before they are read as numbers, and lists of tokens are separated by them.

## Main definitions

* `isBlank c` — `c` has the property `White_Space`.
* `trim cs` — `cs` without the blanks at its two ends.
* `words cs` — the maximal blank-free pieces of `cs`, in order; none of them is empty.
-/

namespace DebugTypes.Text

/-- The property `White_Space`: twenty-five code points, six of them ASCII. -/
def isBlank (c : Char) : Bool :=
  let n := c.toNat
  (0x09 ≤ n && n ≤ 0x0D) || n == 0x20 || n == 0x85 || n == 0xA0 || n == 0x1680 ||
    (0x2000 ≤ n && n ≤ 0x200A) || n == 0x2028 || n == 0x2029 || n == 0x202F || n == 0x205F ||
    n == 0x3000

/-- The text from its first character that is not blank on. -/
def trimStart (cs : List Char) : List Char := cs.dropWhile isBlank

/-- The text without the blanks at its two ends. -/
def trim (cs : List Char) : List Char := (trimStart (trimStart cs).reverse).reverse

@[simp] theorem trimStart_nil : trimStart [] = [] := rfl

theorem trimStart_cons_of_blank {c : Char} (h : isBlank c = true) (cs : List Char) :
    trimStart (c :: cs) = trimStart cs := by simp [trimStart, List.dropWhile, h]

theorem trimStart_cons_of_not_blank {c : Char} (h : isBlank c = false) (cs : List Char) :
    trimStart (c :: cs) = c :: cs := by simp [trimStart, List.dropWhile, h]

/-- The words of `cs`, where `word` holds the characters of the word being read, last one first. -/
def wordsFrom (word : List Char) : List Char → List (List Char)
  | [] => if word.isEmpty then [] else [word.reverse]
  | c :: cs =>
    if isBlank c then
      if word.isEmpty then wordsFrom [] cs else word.reverse :: wordsFrom [] cs
    else wordsFrom (c :: word) cs

/-- The maximal blank-free pieces of a text, in order. -/
def words (cs : List Char) : List (List Char) := wordsFrom [] cs

@[simp] theorem words_nil : words [] = [] := rfl

/-- The words of a string. -/
def wordsOf (s : String) : List String := (words s.toList).map String.ofList

end DebugTypes.Text
