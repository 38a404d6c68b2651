import LineShell.Proofs.Token.Grammar
import Mathlib.Data.List.Induction

/-!
# Lines put together

A text that is appended to a line is read in the state that the line ends in: some quotes are open
or none are, and a backslash is pending or none is. Two questions about lines come down to that
state. A space cuts a line in two parts that mean what they mean alone, if no quotes are open before
it and no backslash takes it (`tokenize_append_space`). And quotes that are open at the end of a
line can be closed there without changing what the line means, but not by the quote alone where a
backslash would take it (`closes_quotes`).

## The last backslash

Whether a backslash is pending can be seen from the end of a line. Backslashes do not open or close
quotes, so all that stand together at the end are read in the same quotes: between single quotes
none of them escapes anything, and elsewhere each second one is escaped by the one before it. So the
last one is pending if their number is odd (`Tokenizer.escaping_run_iff`).
-/

namespace LineShell

/-! ## The last backslash -/

/-- The number of backslashes that stand together at the end of a text. -/
def slashesAtEnd (cs : List Char) : Nat :=
  (cs.reverse.takeWhile (· = '\\')).length

/-- Whether a line ends in a backslash that no backslash before it escapes. -/
def EndsInSlash (line : String) : Prop :=
  slashesAtEnd line.toList % 2 = 1

instance (line : String) : Decidable (EndsInSlash line) :=
  inferInstanceAs (Decidable (_ = _))

theorem slashesAtEnd_append_slash (cs : List Char) :
    slashesAtEnd (cs ++ ['\\']) = slashesAtEnd cs + 1 := by
  simp [slashesAtEnd]

theorem slashesAtEnd_append_of_ne {c : Char} (h : c ≠ '\\') (cs : List Char) :
    slashesAtEnd (cs ++ [c]) = 0 := by
  simp [slashesAtEnd, h]

namespace Tokenizer

/-! ### A pending backslash -/

theorem quoting_step_slash (t : Tokenizer) : (t.step '\\').quoting = t.quoting := by
  rcases t with ⟨_ | _ | _, _ | _, word, tokens⟩ <;> rfl

/-- A backslash is pending once it is read, unless it is escaped itself or stands between single
quotes. -/
theorem escaping_step_slash (t : Tokenizer) :
    (t.step '\\').escaping = true ↔ t.quoting ≠ .single ∧ t.escaping = false := by
  rcases t with ⟨_ | _ | _, _ | _, word, tokens⟩ <;> simp [step, readEscaped, readPlain, push,
    doubleQuoteEscapes]

@[simp] theorem escaping_flush (t : Tokenizer) : t.flush.escaping = t.escaping := by
  rw [flush]
  split_ifs <;> rfl

/-- No other character leaves a backslash pending. -/
theorem escaping_step_of_ne {c : Char} (h : c ≠ '\\') (t : Tokenizer) :
    (t.step c).escaping = false := by
  rw [step]
  split_ifs with hescaping
  · rw [readEscaped]
    dsimp only
    split_ifs <;> rfl
  · rw [Bool.not_eq_true] at hescaping
    rw [readPlain.eq_def]
    split
    · exact absurd rfl h
    · exact hescaping
    · exact hescaping
    · rw [escaping_flush, hescaping]
    · exact hescaping
    · exact absurd rfl h
    · exact hescaping
    · exact hescaping

/-- **The last backslash.** A backslash is pending at the end of a text exactly if single quotes are
not open there and the text ends in an odd number of backslashes. -/
theorem escaping_run_iff (cs : List Char) :
    (run {} cs).escaping = true ↔ (run {} cs).quoting ≠ .single ∧ slashesAtEnd cs % 2 = 1 := by
  induction cs using List.reverseRecOn with
  | nil => decide
  | append_singleton cs c ih =>
    rw [run_append, run_cons, run_nil]
    by_cases hslash : c = '\\'
    · subst hslash
      rw [escaping_step_slash, quoting_step_slash, slashesAtEnd_append_slash, ← Bool.not_eq_true,
        ih]
      refine and_congr_right fun hquoting ↦ ?_
      rw [and_iff_right hquoting]
      omega
    · rw [slashesAtEnd_append_of_ne hslash, escaping_step_of_ne hslash]
      simp

/-! ### The end of a line -/

@[simp] theorem quoting_finish (t : Tokenizer) : t.finish.quoting = t.quoting := by
  rcases t with ⟨quoting, _ | _, word, tokens⟩
  · rw [finish_eq]
  · cases quoting with
    | double => rw [finish_double_slash]
    | none | single => rw [finish, if_neg (by simp), flush_eq]

end Tokenizer

theorem tokenized_append (line text : String) :
    tokenized (line ++ text) = ((Tokenizer.run {} line.toList).run text.toList).finish := by
  rw [tokenized, String.toList_append, Tokenizer.run_append]

/-- The state before the end of a line where no backslash is pending. -/
theorem exists_run_eq {line : String}
    (h : (tokenized line).quoting = .single ∨ ¬EndsInSlash line) :
    ∃ word tokens, Tokenizer.run {} line.toList = ⟨(tokenized line).quoting, false, word, tokens⟩ ∧
      tokenize line = tokens ++ tokensOfWords [word.toList] := by
  have hescaping : (Tokenizer.run {} line.toList).escaping = false := by
    rw [← Bool.not_eq_true, Tokenizer.escaping_run_iff, ← Tokenizer.quoting_finish]
    exact fun hpending ↦ h.elim hpending.1 (· hpending.2)
  rw [tokenize, tokenized, Tokenizer.quoting_finish]
  generalize Tokenizer.run {} line.toList = t at hescaping
  obtain ⟨quoting, escaping, word, tokens⟩ := t
  obtain rfl : escaping = false := hescaping
  exact ⟨word, tokens, rfl, by rw [Tokenizer.finish_eq]⟩

/-- The state before the end of a line between double quotes where a backslash is pending. -/
theorem exists_run_eq_of_endsInSlash {line : String} (hquoting : (tokenized line).quoting = .double)
    (h : EndsInSlash line) :
    ∃ word tokens, Tokenizer.run {} line.toList = ⟨.double, true, word, tokens⟩ ∧
      tokenize line = tokens ++ tokensOfWords [word.toList ++ ['\\']] := by
  rw [tokenized, Tokenizer.quoting_finish] at hquoting
  have hescaping : (Tokenizer.run {} line.toList).escaping = true :=
    (Tokenizer.escaping_run_iff _).mpr ⟨by rw [hquoting]; simp, h⟩
  rw [tokenize, tokenized]
  generalize Tokenizer.run {} line.toList = t at hescaping hquoting
  obtain ⟨quoting, escaping, word, tokens⟩ := t
  obtain rfl : escaping = true := hescaping
  obtain rfl : quoting = .double := hquoting
  exact ⟨word, tokens, rfl, by rw [Tokenizer.finish_double_slash]⟩

/-! ## Spaces between lines -/

namespace Tokenizer

/-- Spaces end the word that is being read, and all but the first of them do nothing. -/
theorem run_spaces (count : Nat) (word : String) (tokens : List String) :
    run ⟨.none, false, word, tokens⟩ (List.replicate (count + 1) ' ')
      = ⟨.none, false, "", tokens ++ tokensOfWords [word.toList]⟩ := by
  induction count generalizing word tokens with
  | zero => exact Piece.run_separator word tokens
  | succ count ih =>
    have hstep : step ⟨.none, false, word, tokens⟩ ' ' = _ := Piece.run_separator word tokens
    rw [List.replicate_succ, run_cons, hstep, ih]
    simp [tokensOfWords]

/-- Tokens that are complete stay in front of those of the rest. -/
theorem finish_run_of_complete (tokens : List String) (line : String) :
    (run ⟨.none, false, "", tokens⟩ line.toList).finish
      = { tokenized line with tokens := tokens ++ tokenize line } := by
  obtain ⟨pieces, hreads⟩ := exists_reads line.toList
  rw [tokenize, hreads.tokenized_eq, hreads.finish_run, String.toList_empty, modifyHead_nil_append]

end Tokenizer

/-- The line that consists of spaces. -/
def spaces (count : Nat) : String :=
  String.ofList (List.replicate count ' ')

theorem tokenized_append_spaces {first second : String} (hquoting : (tokenized first).quoting = .none)
    (hslash : ¬EndsInSlash first) (count : Nat) :
    tokenized (first ++ spaces (count + 1) ++ second)
      = { tokenized second with tokens := tokenize first ++ tokenize second } := by
  obtain ⟨word, tokens, hrun, htokens⟩ := exists_run_eq (Or.inr hslash)
  rw [String.append_assoc, tokenized_append, hrun, hquoting, String.toList_append,
    Tokenizer.run_append, spaces, String.toList_ofList, Tokenizer.run_spaces, ← htokens,
    Tokenizer.finish_run_of_complete]

/-- **A space between lines.** If a line ends outside of quotes and not in a backslash that escapes,
then a space cuts it off from what follows: the tokens of both parts are found, the quotes left open
are those of the second part, and any number of spaces does the same as one. -/
theorem tokenize_append_space {first second : String} (hquoting : (tokenized first).quoting = .none)
    (hslash : ¬EndsInSlash first) :
    tokenize (first ++ " " ++ second) = tokenize first ++ tokenize second ∧
      (tokenized (first ++ " " ++ second)).quoting = (tokenized second).quoting ∧
      ∀ count, tokenized (first ++ spaces (count + 1) ++ second)
        = tokenized (first ++ " " ++ second) := by
  have hjoined : ∀ count, tokenized (first ++ spaces (count + 1) ++ second) = _ :=
    tokenized_append_spaces hquoting hslash
  have hspace : spaces (0 + 1) = " " := rfl
  rw [← hspace, tokenize, hjoined 0]
  exact ⟨rfl, rfl, hjoined⟩

/-- A line that ends in an escaped backslash, and one that ends between quotes. -/
theorem tokenize_across_space :
    let first := "echo 'a b'\\\\"
    let second := "\"c d"
    (tokenized first).quoting = .none ∧ ¬EndsInSlash first ∧
      tokenize (first ++ " " ++ second) = ["echo", "a b\\", "c d"] ∧
      (tokenized (first ++ "  " ++ second)).quoting = .double := by
  intro first second
  have hquoting : (tokenized first).quoting = .none := by decide
  have hslash : ¬EndsInSlash first := by decide
  obtain ⟨htokens, hopen, hspaces⟩ := @tokenize_append_space first second hquoting hslash
  refine ⟨hquoting, hslash, htokens.trans (by decide), ?_⟩
  have htwo : spaces (1 + 1) = "  " := rfl
  rw [← htwo, hspaces, hopen]
  decide

/-- A space after a backslash does not separate. -/
example : tokenize "echo a\\ b" = ["echo", "a b"] := by decide

/-! ## Closing quotes -/

/-- Whether a text that is appended to a line closes the quotes that are open at its end and does
nothing else. -/
def Closes (line ending : String) : Prop :=
  tokenize (line ++ ending) = tokenize line ∧ (tokenized (line ++ ending)).quoting = .none

/-- A text closes the quotes of a line if it leaves nothing pending and no token is lost. -/
theorem closes_of_run {line ending word : String} {tokens : List String}
    (hrun : (Tokenizer.run {} line.toList).run ending.toList = ⟨.none, false, word, tokens⟩)
    (htokens : tokenize line = tokens ++ tokensOfWords [word.toList]) : Closes line ending := by
  have hend : tokenized (line ++ ending) = ⟨.none, false, "", tokenize line⟩ := by
    rw [tokenized_append, hrun, Tokenizer.finish_eq, htokens]
  rw [Closes, tokenize, hend]
  exact ⟨rfl, rfl⟩

/-- **Closing quotes.** A line whose quotes are open at its end means the same as the line with the
quotes closed there: single quotes by a single quote, double quotes by a double quote or, where a
backslash would take that one, by a backslash and a double quote. -/
theorem closes_quotes (line : String) :
    ((tokenized line).quoting = .single → Closes line "'") ∧
      ((tokenized line).quoting = .double → ¬EndsInSlash line → Closes line "\"") ∧
      ((tokenized line).quoting = .double → EndsInSlash line → Closes line "\\\"") := by
  refine ⟨fun hquoting ↦ ?_, fun hquoting hslash ↦ ?_, fun hquoting hslash ↦ ?_⟩
  · obtain ⟨word, tokens, hrun, htokens⟩ := exists_run_eq (Or.inl hquoting)
    rw [hquoting] at hrun
    refine closes_of_run ?_ htokens
    rw [hrun]
    exact Tokenizer.run_close_single word tokens
  · obtain ⟨word, tokens, hrun, htokens⟩ := exists_run_eq (Or.inr hslash)
    rw [hquoting] at hrun
    refine closes_of_run ?_ htokens
    rw [hrun]
    exact Tokenizer.run_close_double word tokens
  · obtain ⟨word, tokens, hrun, htokens⟩ := exists_run_eq_of_endsInSlash hquoting hslash
    -- The second backslash is escaped by the first, and the word gets the one that it stands for.
    rw [← String.toList_push] at htokens
    refine closes_of_run ?_ htokens
    rw [hrun]
    rfl

/-- A line for each way to close one. In all three a backslash stands before the end. -/
theorem closes_after_backslash :
    let single := "echo 'a\\"
    let double := "echo \"a\\\\"
    let pending := "echo \"a\\"
    ((tokenized single).quoting = .single ∧ Closes single "'") ∧
      ((tokenized double).quoting = .double ∧ ¬EndsInSlash double ∧ Closes double "\"") ∧
      ((tokenized pending).quoting = .double ∧ EndsInSlash pending ∧ Closes pending "\\\"") := by
  intro single double pending
  have hsingle : (tokenized single).quoting = .single := by decide
  have hdouble : (tokenized double).quoting = .double ∧ ¬EndsInSlash double := by decide
  have hpending : (tokenized pending).quoting = .double ∧ EndsInSlash pending := by decide
  exact ⟨⟨hsingle, (closes_quotes single).1 hsingle⟩,
    ⟨hdouble.1, hdouble.2, (closes_quotes double).2.1 hdouble.1 hdouble.2⟩,
    ⟨hpending.1, hpending.2, (closes_quotes pending).2.2 hpending.1 hpending.2⟩⟩

/-- A quote after a backslash does not close. -/
example : ¬Closes "echo \"a\\" "\"" := by
  rw [Closes]
  decide

end LineShell
