import LineShell.Proofs.Token.Spelling
import Mathlib.Data.List.Count
import Mathlib.Data.List.Flatten

/-!
# Words that stand for themselves

Which words can be written into a line as they are. Reading a line makes nothing up: the characters
of its tokens, put together, are characters of the line, in their order
(`flatMap_toList_tokenize_sublist`). A character with a meaning of its own that begins a piece is
not among them, since no piece gives its first character if that is a backslash, a quote or a space.

So a word with such a character loses it when it is read, and a space that is written after the word
cannot make up for the loss (`tokenize_append_space_eq_self_iff`).
-/

namespace LineShell

/-! ## What reading keeps -/

theorem unescaped_sublist (cs : List Char) : (unescaped cs).Sublist cs := by
  induction cs using unescaped.induct with
  | case1 => exact .refl _
  | case2 cs ih | case3 cs ih | case4 cs ih | case5 cs ih => exact (ih.cons_cons _).cons _
  | case6 c cs hslash hdollar hquote hbreak ih =>
    rw [unescaped]
    · exact ih.cons_cons c
    all_goals assumption

namespace Piece

variable {piece : Piece} {c : Char} {text : List Char}

/-- A piece does not give its first character if that has a meaning of its own. -/
theorem SpelledBy.value_sublist_of_mem (h : piece.SpelledBy (c :: text))
    (hc : c ∈ ['\\', '"', '\'', ' ']) : piece.value.Sublist text := by
  cases h with
  | escaped => exact .refl _
  | single => exact List.sublist_append_left _ _
  | double => exact (unescaped_sublist _).trans (List.sublist_append_left _ _)
  | separator => exact .refl _
  | plain hplain => exact absurd hc hplain

theorem SpelledBy.value_sublist (h : piece.SpelledBy text) : piece.value.Sublist text := by
  obtain ⟨c, text, rfl⟩ := List.exists_cons_of_ne_nil h.ne_nil
  by_cases hc : c ∈ ['\\', '"', '\'', ' ']
  · exact (h.value_sublist_of_mem hc).cons c
  · cases h with
    | escaped | single | double | separator => exact absurd (by simp) hc
    | plain => exact .refl _

theorem EndsLine.value_sublist (h : piece.EndsLine (c :: text)) : piece.value.Sublist text := by
  cases h with
  | dangling => exact .refl _
  | single => exact .refl _
  | double => exact unescaped_sublist _

end Piece

namespace Reads

variable {line : List Char} {pieces : List Piece}

theorem flatMap_value_sublist (h : Reads line pieces) :
    (pieces.flatMap Piece.value).Sublist line := by
  induction h with
  | nil => exact .refl _
  | last hpiece =>
    rw [List.flatMap_singleton]
    cases hpiece with
    | dangling => exact List.nil_sublist _
    | single hcontents => exact (Piece.EndsLine.single hcontents).value_sublist.cons _
    | double hcontents => exact (Piece.EndsLine.double hcontents).value_sublist.cons _
  | cons hpiece _ ih =>
    rw [List.flatMap_cons]
    exact hpiece.value_sublist.append ih

/-- A first character with a meaning of its own is not kept. -/
theorem flatMap_value_sublist_of_mem {c : Char} {rest : List Char} (h : Reads (c :: rest) pieces)
    (hc : c ∈ ['\\', '"', '\'', ' ']) : (pieces.flatMap Piece.value).Sublist rest := by
  generalize hline : c :: rest = line at h
  cases h with
  | nil => contradiction
  | last hpiece =>
    subst hline
    rw [List.flatMap_singleton]
    exact hpiece.value_sublist
  | @cons piece text later pieces hpiece hlater =>
    obtain ⟨first, text, rfl⟩ := List.exists_cons_of_ne_nil hpiece.ne_nil
    obtain ⟨rfl, rfl⟩ := List.cons.inj hline
    rw [List.flatMap_cons]
    exact (hpiece.value_sublist_of_mem hc).append hlater.flatMap_value_sublist

/-- A line that begins with the text of a piece has this piece as its first one. -/
theorem exists_eq_cons {piece : Piece} {text rest : List Char} (h : Reads (text ++ rest) pieces)
    (hpiece : piece.SpelledBy text) :
    ∃ others, pieces = piece :: others ∧ Reads rest others := by
  obtain ⟨others, hothers⟩ := exists_reads rest
  exact ⟨others, h.unique (.cons hpiece hothers), hothers⟩

end Reads

theorem flatten_spelledWords (pieces : List Piece) :
    (spelledWords pieces).flatten = pieces.flatMap Piece.value := by
  induction pieces with
  | nil => rfl
  | cons piece pieces ih =>
    rw [List.flatMap_cons, ← ih]
    by_cases hpiece : piece = .separator
    · rw [hpiece, spelledWords_separator]
      rfl
    · rw [spelledWords_cons hpiece]
      cases hwords : spelledWords pieces with
      | nil => simp [spelledWords] at hwords
      | cons word words => simp

theorem flatMap_toList_tokensOfWords (words : List (List Char)) :
    (tokensOfWords words).flatMap String.toList = words.flatten := by
  rw [tokensOfWords, List.flatMap_map, ← List.flatten_filter_ne_nil (L := words), List.flatMap_def]
  simp

theorem Reads.flatMap_toList_tokenize {line : String} {pieces : List Piece}
    (h : Reads line.toList pieces) :
    (tokenize line).flatMap String.toList = pieces.flatMap Piece.value := by
  rw [tokenize, h.tokenized_eq, flatMap_toList_tokensOfWords, flatten_spelledWords]

/-- **Tokens make nothing up.** The characters of the tokens of a line are characters of the line,
in their order. -/
theorem flatMap_toList_tokenize_sublist (line : String) :
    ((tokenize line).flatMap String.toList).Sublist line.toList := by
  obtain ⟨pieces, hpieces⟩ := exists_reads line.toList
  rw [hpieces.flatMap_toList_tokenize]
  exact hpieces.flatMap_value_sublist

/-! ## Words before a space -/

/-- If reading keeps all characters before a space, none of them has a meaning of its own. -/
theorem Reads.notMem_of_flatMap_value_eq {cs : List Char} {pieces : List Piece}
    (h : Reads (cs ++ [' ']) pieces) (hvalue : pieces.flatMap Piece.value = cs) :
    ∀ c ∈ cs, c ∉ ['\\', '"', '\'', ' '] := by
  induction cs generalizing pieces with
  | nil => nofun
  | cons c cs ih =>
    by_cases hc : c ∈ ['\\', '"', '\'', ' ']
    · have hkept : (c :: cs).Sublist (cs ++ [' ']) := hvalue ▸ h.flatMap_value_sublist_of_mem hc
      -- The first character is lost, and the last one is a space, so all of them are spaces.
      have hspace : c = ' ' := by
        by_contra hne
        have hnone : [' '].count c = 0 := List.count_eq_zero.mpr (by simpa using hne)
        have hcount := hkept.count_le c
        rw [List.count_append, List.count_cons_self, hnone] at hcount
        omega
      have hshift : c :: cs = cs ++ [' '] := hkept.eq_of_length (by simp)
      rw [List.cons_append, ← hshift, ← List.singleton_append, hspace] at h
      obtain ⟨others, rfl, hothers⟩ := h.exists_eq_cons .separator
      have hlength := (hothers.flatMap_value_sublist_of_mem (by simp)).length_le
      rw [List.flatMap_cons, Piece.value, List.nil_append] at hvalue
      rw [hvalue, List.length_cons] at hlength
      omega
    · rw [List.cons_append, ← List.singleton_append] at h
      obtain ⟨others, rfl, hothers⟩ := h.exists_eq_cons (.plain hc)
      rw [List.flatMap_cons, Piece.value, List.singleton_append] at hvalue
      exact List.forall_mem_cons.mpr ⟨hc, ih hothers (List.cons.inj hvalue).2⟩

/-- **Words that stand for themselves.** A word with a space after it is read as this word alone
exactly if it has characters and none of them is a backslash, a quote or a space. -/
theorem tokenize_append_space_eq_self_iff {word : String} :
    tokenize (word ++ " ") = [word] ↔
      word ≠ "" ∧ ∀ c ∈ word.toList, c ∉ ['\\', '"', '\'', ' '] := by
  have hline : (word ++ " ").toList = word.toList ++ [' '] := String.toList_append
  constructor
  · intro h
    refine ⟨ne_empty_of_mem_tokenize (h ▸ List.mem_singleton_self word), ?_⟩
    obtain ⟨pieces, hpieces⟩ := exists_reads (word ++ " ").toList
    have hvalue := hpieces.flatMap_toList_tokenize
    rw [h, List.flatMap_singleton] at hvalue
    exact (hline ▸ hpieces).notMem_of_flatMap_value_eq hvalue.symm
  · rintro ⟨hne, hplain⟩
    have hword : SpellsWord (word.toList ++ []) (word.toList ++ []) := .cons (.bare hplain) .nil
    rw [List.append_nil] at hword
    have hspelled : SpellsLine [word] (word ++ " ").toList := by
      rw [hline]
      exact .word hne hword (Or.inr ⟨[], rfl⟩) (.space .nil)
    have hend : tokenized (word ++ " ") = ⟨.none, false, "", [] ++ [word]⟩ := hspelled.finish_run []
    rw [tokenize, hend]
    rfl

end LineShell
