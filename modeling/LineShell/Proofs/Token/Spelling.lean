import LineShell.Proofs.Token.Grammar

/-!
# The spellings of words

The ways to write a list of words as a line. A word is cut into parts anywhere, and each part is
spelled in a style of its own: as it is, with a backslash before every character, between single
quotes or between double quotes. Empty quotes spell a part without characters, so they may stand
anywhere in a word, and a word that consists of nothing else is no word of the list.

## Writing against reading

The grammar of lines cuts a line where the tokenizer does: a part in quotes is one piece of it, and
a part in another style as many pieces as it has characters. None of this is known to the one who
writes. That the styles do not disturb each other where they touch comes from the invariant of the
grammar: at the end of every part the tokenizer is at rest again, with the part added to the word
that is being read (`Spells.run`).

Writing is not determined by the words, and not everything that can be read is written here: a
backslash between double quotes is always doubled, though most of them could do without.
-/

namespace LineShell

/-! ## Spelling -/

/-- The spellings of a text between double quotes. A backslash and a double quote are escaped, and a
dollar sign and a line feed may be. -/
inductive SpellsEnclosed : List Char → List Char → Prop
  | nil : SpellsEnclosed [] []
  | escaped {c : Char} {value text : List Char} : c ∈ ['\\', '"', '$', '\n'] →
      SpellsEnclosed value text → SpellsEnclosed (c :: value) ('\\' :: c :: text)
  | plain {c : Char} {value text : List Char} : c ≠ '\\' → c ≠ '"' →
      SpellsEnclosed value text → SpellsEnclosed (c :: value) (c :: text)

/-- The spellings of a part of a word. -/
inductive Spells : List Char → List Char → Prop
  | bare {value : List Char} : (∀ c ∈ value, c ∉ ['\\', '"', '\'', ' ']) → Spells value value
  | slashed (value : List Char) : Spells value (value.flatMap fun c ↦ ['\\', c])
  | single {value : List Char} : '\'' ∉ value → Spells value ('\'' :: (value ++ ['\'']))
  | double {value text : List Char} : SpellsEnclosed value text →
      Spells value ('"' :: (text ++ ['"']))

/-- The spellings of a word, part by part. -/
inductive SpellsWord : List Char → List Char → Prop
  | nil : SpellsWord [] []
  | cons {value text rest line : List Char} : Spells value text → SpellsWord rest line →
      SpellsWord (value ++ rest) (text ++ line)

/-- Whether a word can end before a text: at a space or at the end of the line. -/
def EndsWord (line : List Char) : Prop :=
  line = [] ∨ ∃ rest, line = ' ' :: rest

/-- The spellings of a list of words as a line, with spaces and empty quotes between them. -/
inductive SpellsLine : List String → List Char → Prop
  | nil : SpellsLine [] []
  | space {words : List String} {line : List Char} : SpellsLine words line →
      SpellsLine words (' ' :: line)
  | word {word : String} {words : List String} {text line : List Char} : word ≠ "" →
      SpellsWord word.toList text → EndsWord line → SpellsLine words line →
      SpellsLine (word :: words) (text ++ line)
  | quotes {words : List String} {text line : List Char} : SpellsWord [] text →
      EndsWord line → SpellsLine words line → SpellsLine words (text ++ line)

/-! ## Reading a spelling -/

/-- Characters that are spelled one by one, each as a piece, are read together. -/
theorem Tokenizer.run_flatMap {spell : Char → List Char} {value : List Char}
    (h : ∀ c ∈ value, ∃ piece : Piece,
      piece.SpelledBy (spell c) ∧ piece ≠ .separator ∧ piece.value = [c])
    (word : String) (tokens : List String) :
    run ⟨.none, false, word, tokens⟩ (value.flatMap spell)
      = ⟨.none, false, word ++ String.ofList value, tokens⟩ := by
  induction value generalizing word with
  | nil => simp
  | cons c value ih =>
    obtain ⟨piece, hspelled, hpiece, hvalue⟩ := h c List.mem_cons_self
    rw [List.flatMap_cons, run_append, hspelled.run hpiece, hvalue,
      ih fun d hd ↦ h d (List.mem_cons_of_mem c hd), String.append_assoc, ← String.ofList_append]
    rfl

theorem SpellsEnclosed.enclosed {value text : List Char} (h : SpellsEnclosed value text) :
    Enclosed text := by
  induction h with
  | nil => exact .nil
  | escaped _ _ ih => exact .pair _ ih
  | plain hslash hquote _ ih => exact .char hslash hquote ih

theorem SpellsEnclosed.unescaped_eq {value text : List Char} (h : SpellsEnclosed value text) :
    unescaped text = value := by
  induction h with
  | nil => rfl
  | @escaped c value text hc _ ih =>
    have hmem : c ∈ Tokenizer.doubleQuoteEscapes := by
      simp only [List.mem_cons, List.not_mem_nil, or_false] at hc
      rcases hc with rfl | rfl | rfl | rfl <;> decide
    rw [Tokenizer.unescaped_pair, if_pos hmem, ih]
    rfl
  | plain hslash _ _ ih => rw [Tokenizer.unescaped_char hslash, ih]

/-- **Reading a part.** At rest, a part adds what it spells to the word that is being read. -/
theorem Spells.run {value text : List Char} (h : Spells value text) (word : String)
    (tokens : List String) :
    Tokenizer.run ⟨.none, false, word, tokens⟩ text
      = ⟨.none, false, word ++ String.ofList value, tokens⟩ := by
  cases h with
  | bare hplain =>
    have hrun := @Tokenizer.run_flatMap (fun c ↦ [c]) _
      (fun c hc ↦ ⟨_, .plain (hplain c hc), Piece.noConfusion, rfl⟩) word tokens
    rwa [List.flatMap_singleton'] at hrun
  | slashed =>
    exact Tokenizer.run_flatMap
      (fun c _ ↦ ⟨_, .escaped c, Piece.noConfusion, rfl⟩) word tokens
  | single hbody => exact (Piece.SpelledBy.single hbody).run Piece.noConfusion word tokens
  | double hbody =>
    rw [(Piece.SpelledBy.double hbody.enclosed).run Piece.noConfusion, Piece.value,
      hbody.unescaped_eq]

theorem SpellsWord.run {value text : List Char} (h : SpellsWord value text) (word : String)
    (tokens : List String) :
    Tokenizer.run ⟨.none, false, word, tokens⟩ text
      = ⟨.none, false, word ++ String.ofList value, tokens⟩ := by
  induction h generalizing word with
  | nil => simp
  | cons hpart _ ih =>
    rw [Tokenizer.run_append, hpart.run, ih, String.ofList_append, String.append_assoc]

/-- Where a word can end, it ends. -/
theorem EndsWord.finish_run {line : List Char} (h : EndsWord line) (word : String)
    (tokens : List String) :
    (Tokenizer.run ⟨.none, false, word, tokens⟩ line).finish
      = (Tokenizer.run ⟨.none, false, "", tokens ++ tokensOfWords [word.toList]⟩ line).finish := by
  rcases h with rfl | ⟨rest, rfl⟩
  · rw [Tokenizer.run_nil, Tokenizer.run_nil, Tokenizer.finish_eq, Tokenizer.finish_eq]
    simp [tokensOfWords]
  · rw [← List.singleton_append, Tokenizer.run_append, Tokenizer.run_append, Piece.run_separator,
      Piece.run_separator]
    simp [tokensOfWords]

/-- **Reading a spelled line.** The tokenizer finds the words that were spelled. -/
theorem SpellsLine.finish_run {words : List String} {line : List Char} (h : SpellsLine words line)
    (tokens : List String) :
    (Tokenizer.run ⟨.none, false, "", tokens⟩ line).finish
      = ⟨.none, false, "", tokens ++ words⟩ := by
  induction h generalizing tokens with
  | nil =>
    rw [Tokenizer.run_nil, Tokenizer.finish_eq]
    simp [tokensOfWords]
  | space _ ih =>
    rw [Tokenizer.run_cons]
    exact ih tokens
  | @word word words text line hne hword hends _ ih =>
    have htokens : tokensOfWords [("" ++ String.ofList word.toList).toList] = [word] := by
      simp [tokensOfWords, hne]
    rw [Tokenizer.run_append, hword.run, hends.finish_run, ih, htokens, List.append_assoc]
    rfl
  | quotes hword hends _ ih =>
    have htokens : tokensOfWords [("" ++ String.ofList []).toList] = [] := rfl
    rw [Tokenizer.run_append, hword.run, hends.finish_run, ih, htokens, List.append_nil]

/-- Every list of words has a spelling if no word is empty. -/
theorem exists_spellsLine {words : List String} (h : ∀ word ∈ words, word ≠ "") :
    ∃ line, SpellsLine words line := by
  induction words with
  | nil => exact ⟨[], .nil⟩
  | cons word words ih =>
    obtain ⟨hword, hwords⟩ := List.forall_mem_cons.mp h
    obtain ⟨line, hline⟩ := ih hwords
    have hspelled : SpellsWord (word.toList ++ []) (_ ++ []) := .cons (.slashed word.toList) .nil
    rw [List.append_nil, List.append_nil] at hspelled
    exact ⟨_, .word hword hspelled (Or.inr ⟨line, rfl⟩) (.space hline)⟩

theorem SpellsLine.ne_empty {words : List String} {line : List Char} (h : SpellsLine words line) :
    ∀ word ∈ words, word ≠ "" := by
  induction h with
  | nil => nofun
  | space _ ih => exact ih
  | word hne _ _ _ ih => exact List.forall_mem_cons.mpr ⟨hne, ih⟩
  | quotes _ _ _ ih => exact ih

/-- **Spellings.** The lists of words that can be spelled are those without an empty word, and the
tokens of every spelling are the words again, with no quotes left open. -/
theorem tokenize_of_spellsLine (words : List String) :
    ((∃ line : String, SpellsLine words line.toList) ↔ ∀ word ∈ words, word ≠ "") ∧
      ∀ line : String, SpellsLine words line.toList →
        tokenize line = words ∧ (tokenized line).quoting = .none := by
  refine ⟨⟨fun ⟨line, h⟩ ↦ h.ne_empty, fun h ↦ ?_⟩, fun line h ↦ ?_⟩
  · obtain ⟨line, hline⟩ := exists_spellsLine h
    exact ⟨String.ofList line, by rwa [String.toList_ofList]⟩
  · have hend : tokenized line = ⟨.none, false, "", [] ++ words⟩ := h.finish_run []
    rw [tokenize, hend]
    exact ⟨rfl, rfl⟩

/-- A word in all four styles with empty quotes before it, and empty quotes by themselves. -/
theorem tokenize_mixed_spelling :
    let line := " ''a\\ 'b'\"\\\"$\"  \"\""
    SpellsLine ["a b\"$"] line.toList ∧ tokenize line = ["a b\"$"] := by
  intro line
  have hquotes : Spells [] ['\'', '\''] := .single (by decide)
  have hbare : Spells ['a'] ['a'] := .bare (List.forall_mem_singleton.mpr (by decide))
  have hslashed : Spells [' '] ['\\', ' '] := .slashed [' ']
  have hsingle : Spells ['b'] ['\'', 'b', '\''] := .single (by decide)
  have hdouble : Spells ['"', '$'] ['"', '\\', '"', '$', '"'] :=
    .double (.escaped (by decide) (.plain (by decide) (by decide) .nil))
  have hword : SpellsWord "a b\"$".toList _ :=
    .cons hquotes (.cons hbare (.cons hslashed (.cons hsingle (.cons hdouble .nil))))
  have hempty : SpellsWord [] _ := .cons (.double .nil) .nil
  have hchars : line.toList = [' ', '\'', '\'', 'a', '\\', ' ', '\'', 'b', '\'', '"', '\\', '"',
      '$', '"', ' ', ' ', '"', '"'] := by
    decide
  have hline : SpellsLine ["a b\"$"] line.toList := by
    rw [hchars]
    exact .space (.word (by decide) hword (Or.inr ⟨_, rfl⟩)
      (.space (.space (.quotes hempty (Or.inl rfl) .nil))))
  exact ⟨hline, ((tokenize_of_spellsLine ["a b\"$"]).2 line hline).1⟩

end LineShell
