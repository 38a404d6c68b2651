import LineShell.Token
import Mathlib.Data.List.Basic

/-!
# The quoting language

What the tokenizer accepts, written as a grammar that knows no states. Outside of quotes a line is
a sequence of *pieces*: a backslash with the character it escapes, a span between quotes, a space
that separates, or any other character. A backslash without a character, or a quote without its
partner, is a piece only at the end of a line.

## Spans against states

The tokenizer goes character by character and remembers which quotes are open; the grammar takes a
quoted span as a whole and gives its value by a function of its contents. Both are joined piece by
piece: at rest, outside of quotes, reading the text of a piece adds the value of the piece to the
word that is being read and leaves the tokenizer at rest (`Piece.SpelledBy.run`). So the only
invariant needed is that the tokenizer is at rest between two pieces.

Every line has exactly one reading, so the grammar determines the tokens of every line.
-/

namespace LineShell

/-! ## The grammar -/

/-- A piece of a line. -/
inductive Piece where
  /-- A backslash and the character that it escapes. -/
  | escaped (c : Char)
  /-- A backslash at the end of a line. -/
  | dangling
  /-- A span between single quotes, and whether it is closed. -/
  | single (contents : List Char) (closed : Bool)
  /-- A span between double quotes, and whether it is closed. -/
  | double (contents : List Char) (closed : Bool)
  /-- A space that separates. -/
  | separator
  /-- Any other character. -/
  | plain (c : Char)
  deriving DecidableEq, Repr

/-- Text that can stand between double quotes that close: a backslash takes the next character with
it, and a double quote stands only after one. -/
inductive Enclosed : List Char → Prop
  | nil : Enclosed []
  | pair (c : Char) {cs : List Char} : Enclosed cs → Enclosed ('\\' :: c :: cs)
  | char {c : Char} {cs : List Char} : c ≠ '\\' → c ≠ '"' → Enclosed cs → Enclosed (c :: cs)

/-- Text that can stand after a double quote that is not closed: it may end in a backslash. -/
inductive Unclosed : List Char → Prop
  | nil : Unclosed []
  | slash : Unclosed ['\\']
  | pair (c : Char) {cs : List Char} : Unclosed cs → Unclosed ('\\' :: c :: cs)
  | char {c : Char} {cs : List Char} : c ≠ '\\' → c ≠ '"' → Unclosed cs → Unclosed (c :: cs)

/-- What the contents of double quotes mean: four pairs lose their backslash. -/
def unescaped : List Char → List Char
  | [] => []
  | '\\' :: '\\' :: cs => '\\' :: unescaped cs
  | '\\' :: '$' :: cs => '$' :: unescaped cs
  | '\\' :: '"' :: cs => '"' :: unescaped cs
  | '\\' :: '\n' :: cs => '\n' :: unescaped cs
  | c :: cs => c :: unescaped cs

namespace Piece

/-- The characters that a piece adds to a word. -/
def value : Piece → List Char
  | escaped c => [c]
  | dangling => []
  | single contents _ => contents
  | double contents _ => unescaped contents
  | separator => []
  | plain c => [c]

/-- The quotes that a piece leaves open. -/
def leavesOpen : Piece → Quoting
  | single _ false => .single
  | double _ false => .double
  | _ => .none

/-- The texts of the pieces that can stand anywhere in a line. -/
inductive SpelledBy : Piece → List Char → Prop
  | escaped (c : Char) : SpelledBy (escaped c) ['\\', c]
  | single {contents : List Char} : '\'' ∉ contents →
      SpelledBy (single contents true) ('\'' :: (contents ++ ['\'']))
  | double {contents : List Char} : Enclosed contents →
      SpelledBy (double contents true) ('"' :: (contents ++ ['"']))
  | separator : SpelledBy separator [' ']
  | plain {c : Char} : c ∉ ['\\', '"', '\'', ' '] → SpelledBy (plain c) [c]

/-- The texts of the pieces that only the end of a line closes. -/
inductive EndsLine : Piece → List Char → Prop
  | dangling : EndsLine dangling ['\\']
  | single {contents : List Char} : '\'' ∉ contents →
      EndsLine (single contents false) ('\'' :: contents)
  | double {contents : List Char} : Unclosed contents →
      EndsLine (double contents false) ('"' :: contents)

end Piece

/-- The readings of a line, from left to right. -/
inductive Reads : List Char → List Piece → Prop
  | nil : Reads [] []
  | last {piece : Piece} {text : List Char} : piece.EndsLine text → Reads text [piece]
  | cons {piece : Piece} {text rest : List Char} {pieces : List Piece} :
      piece.SpelledBy text → Reads rest pieces → Reads (text ++ rest) (piece :: pieces)

/-- What stands between the separators of a reading. -/
def spelledWords (pieces : List Piece) : List (List Char) :=
  (pieces.splitOn .separator).map fun word ↦ word.flatMap Piece.value

/-- The tokens among words: those that are not empty. -/
def tokensOfWords (words : List (List Char)) : List String :=
  (words.filter fun word ↦ word ≠ []).map String.ofList

/-- The quotes that a reading leaves open. -/
def openAfter (pieces : List Piece) : Quoting :=
  (pieces.getLast?.map Piece.leavesOpen).getD .none

/-! ## Every line has exactly one reading

Where a span ends is settled by its text: the first single quote closes single quotes, and the first
double quote that no backslash takes along closes double quotes. -/

theorem Piece.SpelledBy.ne_nil {piece : Piece} {text : List Char} (h : piece.SpelledBy text) :
    text ≠ [] := by
  cases h <;> simp

theorem enclosed_or_unclosed (cs : List Char) :
    (∃ body rest, Enclosed body ∧ cs = body ++ '"' :: rest) ∨ Unclosed cs := by
  -- A backslash takes two characters at once, so the induction is on the length.
  induction hn : cs.length using Nat.strongRecOn generalizing cs with
  | ind n ih =>
    rcases cs with _ | ⟨c, cs⟩
    · exact Or.inr .nil
    by_cases hslash : c = '\\'
    · subst hslash
      rcases cs with _ | ⟨d, cs⟩
      · exact Or.inr .slash
      · rcases ih cs.length (by simp at hn; omega) cs rfl with ⟨body, rest, hbody, rfl⟩ | hcs
        · exact Or.inl ⟨_, rest, .pair d hbody, rfl⟩
        · exact Or.inr (.pair d hcs)
    · by_cases hquote : c = '"'
      · subst hquote
        exact Or.inl ⟨[], cs, .nil, rfl⟩
      · rcases ih cs.length (by simp at hn; omega) cs rfl with ⟨body, rest, hbody, rfl⟩ | hcs
        · exact Or.inl ⟨_, rest, .char hslash hquote hbody, rfl⟩
        · exact Or.inr (.char hslash hquote hcs)

theorem Enclosed.append_quote_inj {a b r s : List Char} (ha : Enclosed a) (hb : Enclosed b)
    (h : a ++ '"' :: r = b ++ '"' :: s) : a = b ∧ r = s := by
  induction ha generalizing b with
  | nil =>
    cases hb with
    | nil => exact ⟨rfl, (List.cons.inj h).2⟩
    | pair d _ => simp at h
    | char _ hquote _ => exact absurd (List.cons.inj h).1.symm hquote
  | pair c _ ih =>
    cases hb with
    | nil => simp at h
    | pair d hb =>
      simp only [List.cons_append, List.cons.injEq, true_and] at h
      obtain ⟨rfl, rfl⟩ := ih hb h.2
      exact ⟨by rw [h.1], rfl⟩
    | char hslash _ _ => exact absurd (List.cons.inj h).1.symm hslash
  | char hslash hquote _ ih =>
    cases hb with
    | nil => exact absurd (List.cons.inj h).1 hquote
    | pair d _ => exact absurd (List.cons.inj h).1 hslash
    | char _ _ hb =>
      simp only [List.cons_append, List.cons.injEq] at h
      obtain ⟨rfl, rfl⟩ := ih hb h.2
      exact ⟨by rw [h.1], rfl⟩

theorem Enclosed.not_unclosed {a r line : List Char} (ha : Enclosed a)
    (hline : a ++ '"' :: r = line) : ¬Unclosed line := by
  intro h
  induction ha generalizing line with
  | nil =>
    cases h with
    | nil | slash | pair => simp at hline
    | char _ hquote _ => exact hquote (List.cons.inj hline).1.symm
  | pair c _ ih =>
    cases h with
    | nil | slash => simp at hline
    | pair _ h => exact ih (List.cons.inj (List.cons.inj hline).2).2 h
    | char hslash _ _ => exact hslash (List.cons.inj hline).1.symm
  | char hslash _ _ ih =>
    cases h with
    | nil => simp at hline
    | slash | pair => exact hslash (List.cons.inj hline).1
    | char _ _ h => exact ih (List.cons.inj hline).2 h

theorem exists_reads (line : List Char) : ∃ pieces, Reads line pieces := by
  induction hn : line.length using Nat.strongRecOn generalizing line with
  | ind n ih =>
    -- A first piece that closes itself leaves a shorter line, which has a reading already.
    have goOn : ∀ {piece : Piece} {text : List Char} (rest : List Char), piece.SpelledBy text →
        line = text ++ rest → ∃ pieces, Reads line pieces := by
      rintro piece text rest hpiece rfl
      have hlength : rest.length < n := by
        have htext : 0 < text.length := List.length_pos_iff.mpr hpiece.ne_nil
        rw [List.length_append] at hn
        omega
      obtain ⟨pieces, hrest⟩ := ih rest.length hlength rest rfl
      exact ⟨piece :: pieces, .cons hpiece hrest⟩
    rcases line with _ | ⟨c, cs⟩
    · exact ⟨[], .nil⟩
    by_cases hspecial : c ∈ ['\\', '"', '\'', ' ']
    · simp only [List.mem_cons, List.not_mem_nil, or_false] at hspecial
      rcases hspecial with rfl | rfl | rfl | rfl
      · rcases cs with _ | ⟨d, cs⟩
        · exact ⟨_, .last .dangling⟩
        · exact goOn cs (.escaped d) rfl
      · rcases enclosed_or_unclosed cs with ⟨body, rest, hbody, rfl⟩ | hcs
        · exact goOn rest (.double hbody) (by simp)
        · exact ⟨_, .last (.double hcs)⟩
      · by_cases hquote : '\'' ∈ cs
        · obtain ⟨body, rest, rfl, hbody⟩ := List.eq_append_cons_of_mem hquote
          exact goOn rest (.single hbody) (by simp)
        · exact ⟨_, .last (.single hquote)⟩
      · exact goOn cs .separator rfl
    · exact goOn cs (.plain hspecial) rfl

/-- Text before the first occurrence of a character is settled by the whole. -/
private theorem append_cons_inj_of_notMem_left {q : Char} {a b r s : List Char} (ha : q ∉ a)
    (hb : q ∉ b) (h : a ++ q :: r = b ++ q :: s) : a = b ∧ r = s := by
  induction a generalizing b with
  | nil =>
    cases b with
    | nil => exact ⟨rfl, (List.cons.inj h).2⟩
    | cons d b => exact absurd ((List.cons.inj h).1 ▸ List.mem_cons_self) hb
  | cons c a ih =>
    cases b with
    | nil => exact absurd ((List.cons.inj h).1 ▸ List.mem_cons_self) ha
    | cons d b =>
      obtain ⟨rfl, hrest⟩ := List.cons.inj h
      obtain ⟨rfl, rfl⟩ :=
        ih (List.not_mem_of_not_mem_cons ha) (List.not_mem_of_not_mem_cons hb) hrest
      exact ⟨rfl, rfl⟩

namespace Piece

/-- Two pieces that begin the same line are the same piece. -/
theorem SpelledBy.unique {p q : Piece} {s t rest rest' : List Char} (hp : p.SpelledBy s)
    (hq : q.SpelledBy t) (h : s ++ rest = t ++ rest') : p = q ∧ rest = rest' := by
  cases hp with
  | escaped c =>
    cases hq with
    | escaped d => simp_all
    | single | double | separator => simp at h
    | plain hd => exact absurd ((List.cons.inj h).1 ▸ hd) (by simp)
  | single hbody =>
    cases hq with
    | escaped | double | separator => simp at h
    | single hbody' =>
      simp only [List.cons_append, List.append_assoc, List.cons.injEq, true_and,
        List.nil_append] at h
      obtain ⟨rfl, rfl⟩ := append_cons_inj_of_notMem_left hbody hbody' h
      exact ⟨rfl, rfl⟩
    | plain hd => exact absurd ((List.cons.inj h).1 ▸ hd) (by simp)
  | double hbody =>
    cases hq with
    | escaped | single | separator => simp at h
    | double hbody' =>
      simp only [List.cons_append, List.append_assoc, List.cons.injEq, true_and,
        List.nil_append] at h
      obtain ⟨rfl, rfl⟩ := hbody.append_quote_inj hbody' h
      exact ⟨rfl, rfl⟩
    | plain hd => exact absurd ((List.cons.inj h).1 ▸ hd) (by simp)
  | separator =>
    cases hq with
    | escaped | single | double => simp at h
    | separator => exact ⟨rfl, (List.cons.inj h).2⟩
    | plain hd => exact absurd ((List.cons.inj h).1 ▸ hd) (by simp)
  | plain hc =>
    cases hq with
    | escaped | single | double | separator => exact absurd ((List.cons.inj h).1 ▸ hc) (by simp)
    | plain hd => simp_all

/-- A piece that only the end of a line closes does not begin like one that closes itself. -/
theorem SpelledBy.not_endsLine {p q : Piece} {text rest : List Char} (hp : p.SpelledBy text) :
    ¬q.EndsLine (text ++ rest) := by
  generalize hline : text ++ rest = line
  intro hq
  cases hp with
  | escaped c => cases hq <;> simp at hline
  | single hbody =>
    cases hq with
    | dangling | double => simp at hline
    | single hcontents =>
      rw [← (List.cons.inj hline).2] at hcontents
      simp at hcontents
  | double hbody =>
    cases hq with
    | dangling | single => simp at hline
    | double hcontents =>
      exact hbody.not_unclosed (by simpa using (List.cons.inj hline).2) hcontents
  | separator => cases hq <;> simp at hline
  | plain hc =>
    cases hq <;> exact absurd ((List.cons.inj hline).1 ▸ hc) (by simp)

theorem EndsLine.unique {p q : Piece} {text : List Char} (hp : p.EndsLine text)
    (hq : q.EndsLine text) : p = q := by
  cases hp <;> cases hq <;> rfl

end Piece

theorem Reads.unique {line : List Char} {pieces others : List Piece} (h : Reads line pieces)
    (h' : Reads line others) : pieces = others := by
  induction h generalizing others with
  | nil =>
    -- The line is named here and below, since the readings of a composed text have no cases.
    generalize hline : ([] : List Char) = line at h'
    cases h' with
    | nil => rfl
    | last hpiece => cases hpiece <;> simp at hline
    | cons hpiece _ => exact absurd (List.append_eq_nil_iff.mp hline.symm).1 hpiece.ne_nil
  | last hpiece =>
    rename_i piece text
    generalize hline : text = line at h'
    cases h' with
    | nil => cases hpiece <;> simp at hline
    | last hother => rw [hpiece.unique (hline ▸ hother)]
    | cons hother _ => exact absurd (hline ▸ hpiece) hother.not_endsLine
  | cons hpiece _ ih =>
    rename_i piece text rest pieces _
    generalize hline : text ++ rest = line at h'
    cases h' with
    | nil => exact absurd (List.append_eq_nil_iff.mp hline).1 hpiece.ne_nil
    | last hother => exact absurd (hline ▸ hother) hpiece.not_endsLine
    | cons hother hothers =>
      obtain ⟨rfl, rfl⟩ := hpiece.unique hother hline
      rw [ih hothers]

/-! ## Reading a piece

The tokenizer at rest has no quotes open and no backslash pending. What it reads between quotes goes
to the word that is being read. -/

namespace Tokenizer

variable (word : String) (tokens : List String)

theorem flush_eq (quoting : Quoting) (escaping : Bool) :
    flush ⟨quoting, escaping, word, tokens⟩
      = ⟨quoting, escaping, "", tokens ++ tokensOfWords [word.toList]⟩ := by
  by_cases h : word = ""
  · subst h
    simp [flush, tokensOfWords]
  · have hne : word.toList ≠ [] := by simpa using h
    simp [flush, tokensOfWords, h]

/-- Closing a line where no backslash is pending. -/
theorem finish_eq (quoting : Quoting) :
    finish ⟨quoting, false, word, tokens⟩
      = ⟨quoting, false, "", tokens ++ tokensOfWords [word.toList]⟩ := by
  rw [finish, if_neg (by simp), flush_eq]

/-- A backslash at the end of a line stands for nothing outside of quotes. -/
theorem finish_slash :
    finish ⟨.none, true, word, tokens⟩
      = ⟨.none, false, "", tokens ++ tokensOfWords [word.toList]⟩ := by
  rw [finish, if_neg (by simp), flush_eq]

/-- A backslash at the end of a line stands for itself between double quotes. -/
theorem finish_double_slash :
    finish ⟨.double, true, word, tokens⟩
      = ⟨.double, false, "", tokens ++ tokensOfWords [word.toList ++ ['\\']]⟩ := by
  rw [finish, if_pos (by simp), push, flush_eq, String.toList_push]

/-! ### Quotes -/

theorem run_cons_single (cs : List Char) :
    run ⟨.none, false, word, tokens⟩ ('\'' :: cs) = run ⟨.single, false, word, tokens⟩ cs := rfl

theorem run_cons_double (cs : List Char) :
    run ⟨.none, false, word, tokens⟩ ('"' :: cs) = run ⟨.double, false, word, tokens⟩ cs := rfl

theorem run_close_single :
    run ⟨.single, false, word, tokens⟩ ['\''] = ⟨.none, false, word, tokens⟩ := rfl

theorem run_close_double :
    run ⟨.double, false, word, tokens⟩ ['"'] = ⟨.none, false, word, tokens⟩ := rfl

/-- Pushing one character and then more is pushing them all. -/
theorem push_append_ofList (c : Char) (cs : List Char) :
    word.push c ++ String.ofList cs = word ++ String.ofList (c :: cs) := by
  rw [← String.toList_inj]
  simp

theorem step_single {c : Char} (hc : c ≠ '\'') :
    step ⟨.single, false, word, tokens⟩ c = ⟨.single, false, word.push c, tokens⟩ := by
  simp [step, readPlain, push, hc]

theorem run_single {cs : List Char} (h : '\'' ∉ cs) :
    run ⟨.single, false, word, tokens⟩ cs
      = ⟨.single, false, word ++ String.ofList cs, tokens⟩ := by
  induction cs generalizing word with
  | nil => simp
  | cons c cs ih =>
    obtain ⟨hc, hcs⟩ := List.ne_and_not_mem_of_not_mem_cons h
    rw [run_cons, step_single word tokens hc.symm, ih _ hcs, push_append_ofList]

theorem step_double {c : Char} (hslash : c ≠ '\\') (hquote : c ≠ '"') :
    step ⟨.double, false, word, tokens⟩ c = ⟨.double, false, word.push c, tokens⟩ := by
  simp [step, readPlain, push, hslash, hquote]

/-- A backslash between double quotes disappears before four characters and stays before others. -/
theorem unescaped_pair (c : Char) (cs : List Char) :
    unescaped ('\\' :: c :: cs)
      = (if c ∈ doubleQuoteEscapes then [c] else ['\\', c]) ++ unescaped cs := by
  by_cases h : c ∈ doubleQuoteEscapes
  · rw [if_pos h]
    simp only [doubleQuoteEscapes, List.mem_cons, List.not_mem_nil, or_false] at h
    rcases h with rfl | rfl | rfl | rfl <;> rfl
  · rw [if_neg h]
    simp only [doubleQuoteEscapes, List.mem_cons, List.not_mem_nil, or_false, not_or] at h
    obtain ⟨hslash, hdollar, hquote, hbreak⟩ := h
    -- The last equation of the definition applies once the other four are ruled out.
    rw [unescaped, unescaped]
    · rfl
    all_goals simp_all

theorem unescaped_char {c : Char} (h : c ≠ '\\') (cs : List Char) :
    unescaped (c :: cs) = c :: unescaped cs := by
  rw [unescaped] <;> simp_all

/-- A backslash between double quotes and the character after it. -/
theorem step_step_double (c : Char) :
    step (step ⟨.double, false, word, tokens⟩ '\\') c
      = ⟨.double, false,
          word ++ String.ofList (if c ∈ doubleQuoteEscapes then [c] else ['\\', c]), tokens⟩ := by
  have hstep : step ⟨.double, false, word, tokens⟩ '\\' = ⟨.double, true, word, tokens⟩ := rfl
  rw [hstep, step, if_pos rfl, readEscaped]
  by_cases h : c ∈ doubleQuoteEscapes
  · simp [h, push]
  · rw [if_neg h, if_pos ⟨rfl, h⟩, ← push_append_ofList, ← push_append_ofList]
    simp [push]

theorem run_double {cs : List Char} (h : Enclosed cs) :
    run ⟨.double, false, word, tokens⟩ cs
      = ⟨.double, false, word ++ String.ofList (unescaped cs), tokens⟩ := by
  induction h generalizing word with
  | nil => simp [unescaped]
  | pair c _ ih =>
    rw [run_cons, run_cons, step_step_double, ih, unescaped_pair, String.ofList_append,
      String.append_assoc]
  | char hslash hquote _ ih =>
    rw [run_cons, step_double word tokens hslash hquote, ih, unescaped_char hslash,
      push_append_ofList]

/-- A line that ends between double quotes ends in the word that is being read. -/
theorem finish_run_double {cs : List Char} (h : Unclosed cs) :
    (run ⟨.double, false, word, tokens⟩ cs).finish
      = ⟨.double, false, "", tokens ++ tokensOfWords [word.toList ++ unescaped cs]⟩ := by
  induction h generalizing word with
  | nil => rw [run_nil, finish_eq, unescaped, List.append_nil]
  | slash =>
    have hrun : run ⟨.double, false, word, tokens⟩ ['\\'] = ⟨.double, true, word, tokens⟩ := rfl
    rw [hrun, finish_double_slash]
    rfl
  | pair c _ ih =>
    rw [run_cons, run_cons, step_step_double, ih, unescaped_pair, String.toList_append,
      String.toList_ofList, List.append_assoc]
  | char hslash hquote _ ih =>
    rw [run_cons, step_double word tokens hslash hquote, ih, unescaped_char hslash]
    simp

end Tokenizer

/-! ## Reading a line -/

@[simp] theorem spelledWords_nil : spelledWords [] = [[]] := rfl

theorem spelledWords_separator (pieces : List Piece) :
    spelledWords (.separator :: pieces) = [] :: spelledWords pieces := by
  rw [spelledWords, List.splitOn_cons_eq_if_modifyHead, if_pos (by simp)]
  rfl

theorem spelledWords_cons {piece : Piece} (h : piece ≠ .separator) (pieces : List Piece) :
    spelledWords (piece :: pieces) = (spelledWords pieces).modifyHead (piece.value ++ ·) := by
  rw [spelledWords, List.splitOn_cons_eq_if_modifyHead, if_neg (by simpa using h), spelledWords]
  cases pieces.splitOn .separator <;> rfl

/-- Putting nothing in front of the first word changes nothing. -/
theorem modifyHead_nil_append (words : List (List Char)) :
    words.modifyHead ([] ++ ·) = words := by
  cases words <;> rfl

theorem tokensOfWords_append (xs ys : List (List Char)) :
    tokensOfWords (xs ++ ys) = tokensOfWords xs ++ tokensOfWords ys := by
  rw [tokensOfWords, List.filter_append, List.map_append]
  rfl

theorem openAfter_cons {piece : Piece} (h : piece.leavesOpen = .none) (pieces : List Piece) :
    openAfter (piece :: pieces) = openAfter pieces := by
  cases pieces with
  | nil => simpa [openAfter] using h
  | cons next pieces => rw [openAfter, List.getLast?_cons_cons, openAfter]

namespace Piece

theorem SpelledBy.leavesOpen_eq_none {piece : Piece} {text : List Char}
    (h : piece.SpelledBy text) : piece.leavesOpen = .none := by
  cases h <;> rfl

/-- **Reading a piece.** At rest, the text of a piece adds the value of the piece to the word that
is being read. -/
theorem SpelledBy.run {piece : Piece} {text : List Char} (h : piece.SpelledBy text)
    (hpiece : piece ≠ .separator) (word : String) (tokens : List String) :
    Tokenizer.run ⟨.none, false, word, tokens⟩ text
      = ⟨.none, false, word ++ String.ofList piece.value, tokens⟩ := by
  cases h with
  | escaped c => simp [value, Tokenizer.step, Tokenizer.readPlain, Tokenizer.readEscaped,
      Tokenizer.push]
  | @single contents hbody =>
    rw [Tokenizer.run_cons_single, Tokenizer.run_append, Tokenizer.run_single _ _ hbody,
      Tokenizer.run_close_single, value]
  | @double contents hbody =>
    rw [Tokenizer.run_cons_double, Tokenizer.run_append, Tokenizer.run_double _ _ hbody,
      Tokenizer.run_close_double, value]
  | separator => exact absurd rfl hpiece
  | @plain c hc =>
    simp only [List.mem_cons, List.not_mem_nil, or_false, not_or] at hc
    simp [value, Tokenizer.step, Tokenizer.readPlain, Tokenizer.push, hc]

/-- A separator ends the word that is being read. -/
theorem run_separator (word : String) (tokens : List String) :
    Tokenizer.run ⟨.none, false, word, tokens⟩ [' ']
      = ⟨.none, false, "", tokens ++ tokensOfWords [word.toList]⟩ :=
  Tokenizer.flush_eq word tokens .none false

theorem EndsLine.ne_separator {piece : Piece} {text : List Char} (h : piece.EndsLine text) :
    piece ≠ .separator := by
  cases h <;> simp

/-- A piece that only the end of a line closes ends the last word and may leave quotes open. -/
theorem EndsLine.finish_run {piece : Piece} {text : List Char} (h : piece.EndsLine text)
    (word : String) (tokens : List String) :
    (Tokenizer.run ⟨.none, false, word, tokens⟩ text).finish
      = ⟨piece.leavesOpen, false, "",
          tokens ++ tokensOfWords [word.toList ++ piece.value]⟩ := by
  cases h with
  | dangling =>
    have hrun : Tokenizer.run ⟨.none, false, word, tokens⟩ ['\\']
        = ⟨.none, true, word, tokens⟩ := rfl
    rw [hrun, Tokenizer.finish_slash, value, List.append_nil]
    rfl
  | single hcontents =>
    rw [Tokenizer.run_cons_single, Tokenizer.run_single _ _ hcontents, Tokenizer.finish_eq,
      String.toList_append, String.toList_ofList]
    rfl
  | double hcontents =>
    rw [Tokenizer.run_cons_double, Tokenizer.finish_run_double _ _ hcontents]
    rfl

end Piece

/-- **Reading a line.** What the tokenizer finds from rest is what a reading says, with the word
that was begun before it put in front. -/
theorem Reads.finish_run {line : List Char} {pieces : List Piece} (h : Reads line pieces)
    (word : String) (tokens : List String) :
    (Tokenizer.run ⟨.none, false, word, tokens⟩ line).finish
      = ⟨openAfter pieces, false, "",
          tokens ++ tokensOfWords ((spelledWords pieces).modifyHead (word.toList ++ ·))⟩ := by
  induction h generalizing word tokens with
  | nil =>
    rw [Tokenizer.run_nil, Tokenizer.finish_eq]
    simp [openAfter]
  | @last piece text hpiece =>
    rw [hpiece.finish_run, spelledWords_cons hpiece.ne_separator, spelledWords_nil]
    simp [openAfter]
  | @cons piece text rest pieces hpiece _ ih =>
    rw [Tokenizer.run_append, openAfter_cons hpiece.leavesOpen_eq_none]
    -- A separator hands over the word that was begun, and the rest begins with a new one.
    by_cases hseparator : piece = .separator
    · subst hseparator
      cases hpiece
      rw [Piece.run_separator, ih, spelledWords_separator, String.toList_empty,
        modifyHead_nil_append, List.append_assoc, ← tokensOfWords_append]
      simp
    · rw [hpiece.run hseparator, ih, spelledWords_cons hseparator, List.modifyHead_modifyHead]
      simp [Function.comp_def]

theorem Reads.tokenized_eq {line : String} {pieces : List Piece} (h : Reads line.toList pieces) :
    tokenized line = ⟨openAfter pieces, false, "", tokensOfWords (spelledWords pieces)⟩ := by
  have hend := h.finish_run "" []
  rwa [String.toList_empty, modifyHead_nil_append, List.nil_append] at hend

/-- No token is empty. -/
theorem ne_empty_of_mem_tokenize {line token : String} (h : token ∈ tokenize line) :
    token ≠ "" := by
  obtain ⟨pieces, hreads⟩ := exists_reads line.toList
  rw [tokenize, hreads.tokenized_eq, tokensOfWords] at h
  obtain ⟨word, hword, rfl⟩ := List.mem_map.mp h
  simpa using (List.mem_filter.mp hword).2

/-- **The quoting language.** Every line has exactly one reading, and the tokenizer ends with the
tokens and the open quotes of that reading. -/
theorem tokenized_eq_of_reads (line : String) :
    (∃! pieces, Reads line.toList pieces) ∧
      ∀ pieces, Reads line.toList pieces →
        tokenize line = tokensOfWords (spelledWords pieces) ∧
          (tokenized line).quoting = openAfter pieces := by
  refine ⟨?_, fun pieces h ↦ ?_⟩
  · obtain ⟨pieces, h⟩ := exists_reads line.toList
    exact ⟨pieces, h, fun _ h' ↦ h'.unique h⟩
  · rw [tokenize, h.tokenized_eq]
    exact ⟨rfl, rfl⟩

example : tokenize "echo 'a \\'\"\\$b\"c '' \\" = ["echo", "a \\$bc"] := by decide

end LineShell
