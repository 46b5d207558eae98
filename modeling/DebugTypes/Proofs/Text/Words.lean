import DebugTypes.Text.Blank

/-!
# Words put together and taken apart

Words with single spaces between them are read back as these words.

## Main definitions

* `Text.BlankFree cs` — no character of `cs` is blank.
* `Text.IsWord s` — `s` is not empty and free of blanks.

## Main statement

* `Text.wordsOf_intercalate` — the words of words with spaces between them.
-/

namespace DebugTypes.Text

/-- A text without blanks. -/
def BlankFree (cs : List Char) : Prop := ∀ c ∈ cs, isBlank c = false

instance (cs : List Char) : Decidable (BlankFree cs) :=
  List.decidableBAll (fun c => isBlank c = false) cs

/-- A string that is one word. -/
structure IsWord (s : String) : Prop where
  ne_nil : s.toList ≠ []
  blankFree : BlankFree s.toList

instance (s : String) : Decidable (IsWord s) :=
  decidable_of_iff (s.toList ≠ [] ∧ BlankFree s.toList) ⟨fun h => ⟨h.1, h.2⟩, fun h => ⟨h.1, h.2⟩⟩

theorem BlankFree.tail {c : Char} {cs : List Char} (h : BlankFree (c :: cs)) : BlankFree cs :=
  fun c' hc' => h c' (List.mem_cons_of_mem c hc')

theorem BlankFree.trimStart_eq {cs : List Char} (h : BlankFree cs) : trimStart cs = cs := by
  cases cs with
  | nil => rfl
  | cons c cs => exact trimStart_cons_of_not_blank (h c List.mem_cons_self) cs

/-- Trimming leaves a text without blanks as it is. -/
theorem BlankFree.trim_eq {cs : List Char} (h : BlankFree cs) : trim cs = cs := by
  have hr : BlankFree cs.reverse := fun c hc => h c (List.mem_reverse.1 hc)
  rw [trim, h.trimStart_eq, hr.trimStart_eq, List.reverse_reverse]

/-- Blanks around a text make no difference to what is left when it is trimmed. -/
theorem trim_append_append {before after : List Char} (hbefore : ∀ c ∈ before, isBlank c = true)
    (hafter : ∀ c ∈ after, isBlank c = true) (cs : List Char) :
    trim (before ++ cs ++ after) = trim cs := by
  have hreverse : ∀ c ∈ after.reverse, isBlank c = true :=
    fun c hc => hafter c (List.mem_reverse.1 hc)
  have hnil : (after ++ []).dropWhile isBlank = [] := List.dropWhile_append_of_pos hafter
  rw [List.append_nil] at hnil
  unfold trim trimStart
  rw [List.append_assoc, List.dropWhile_append_of_pos hbefore, List.dropWhile_append]
  by_cases hempty : (cs.dropWhile isBlank).isEmpty = true
  · rw [if_pos hempty, hnil, List.isEmpty_iff.1 hempty]
  · rw [if_neg hempty, List.reverse_append, List.dropWhile_append_of_pos hreverse]

/-- Characters that are not blank go to the word that is being read. -/
theorem wordsFrom_append {cs : List Char} (h : BlankFree cs) (word rest : List Char) :
    wordsFrom word (cs ++ rest) = wordsFrom (cs.reverse ++ word) rest := by
  induction cs generalizing word with
  | nil => rfl
  | cons c cs ih =>
      rw [List.cons_append, wordsFrom, if_neg (by simp [h c List.mem_cons_self]), ih h.tail,
        List.reverse_cons, List.append_assoc, List.singleton_append]

/-- A text without blanks that is not empty is one word. -/
theorem words_of_blankFree {cs : List Char} (h : BlankFree cs) (hne : cs ≠ []) :
    words cs = [cs] := by
  have hcs := wordsFrom_append h [] []
  rw [List.append_nil, List.append_nil, wordsFrom, if_neg (by simpa using hne),
    List.reverse_reverse] at hcs
  exact hcs

/-- A blank ends the word in front of it. -/
theorem words_append_cons {cs : List Char} (h : BlankFree cs) (hne : cs ≠ []) {c : Char}
    (hc : isBlank c = true) (rest : List Char) : words (cs ++ c :: rest) = cs :: words rest := by
  rw [words, wordsFrom_append h, List.append_nil, wordsFrom, if_pos hc,
    if_neg (by simpa using hne), List.reverse_reverse, words]

theorem words_intercalate {pieces : List (List Char)} (h : ∀ cs ∈ pieces, cs ≠ [] ∧ BlankFree cs) :
    words ([' '].intercalate pieces) = pieces := by
  induction pieces with
  | nil => rfl
  | cons cs rest ih =>
      obtain ⟨hne, hfree⟩ := h cs List.mem_cons_self
      have ih := ih fun cs' hmem => h cs' (List.mem_cons_of_mem cs hmem)
      cases rest with
      | nil => rw [List.intercalate_singleton, words_of_blankFree hfree hne]
      | cons next rest =>
          rw [List.intercalate_cons_cons, List.append_assoc, List.singleton_append,
            words_append_cons hfree hne (by decide), ih]

/-- Words with single spaces between them are read back. -/
theorem wordsOf_intercalate {tokens : List String} (h : ∀ token ∈ tokens, IsWord token) :
    wordsOf (" ".intercalate tokens) = tokens := by
  have hpieces : ∀ cs ∈ tokens.map String.toList, cs ≠ [] ∧ BlankFree cs := by
    intro cs hmem
    obtain ⟨token, htoken, rfl⟩ := List.mem_map.1 hmem
    exact ⟨(h token htoken).ne_nil, (h token htoken).blankFree⟩
  have hspace : " ".toList = [' '] := rfl
  rw [wordsOf, String.toList_intercalate, hspace, words_intercalate hpieces, List.map_map]
  simp [Function.comp_def]

end DebugTypes.Text
