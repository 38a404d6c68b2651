import LineShell.Command
import LineShell.Proofs.Redirection.Arguments
import LineShell.Proofs.Token.Grammar

/-!
# Commands written as lines

Which commands a line can give, and a line for each of them. Since quoting is forgotten once a line
is cut into tokens, every word of a command may be written between double quotes, operators
included. What cannot be written around is the second reading: a token that begins with an operator
is taken for a redirection wherever it stands, except for an operator at the very end. A command
that avoids such arguments is *well formed*, and well-formed commands are exactly those that lines
give.

The written line puts the redirections first, each as an operator and its target, so that no
operator is left over before the arguments.
-/

namespace LineShell

/-! ## Quoting words -/

/-- The contents of double quotes that mean a text. -/
def escaped : List Char → List Char
  | [] => []
  | c :: cs => if c = '\\' ∨ c = '"' then '\\' :: c :: escaped cs else c :: escaped cs

/-- A word between double quotes. -/
def quoted (word : String) : List Char :=
  '"' :: (escaped word.toList ++ ['"'])

/-- Words between double quotes, with a space between each two. -/
def quotedLine (words : List String) : String :=
  String.ofList ([' '].intercalate (words.map quoted))

theorem enclosed_escaped (cs : List Char) : Enclosed (escaped cs) := by
  induction cs with
  | nil => exact .nil
  | cons c cs ih =>
    rw [escaped]
    split
    · exact .pair c ih
    · next h =>
      push Not at h
      exact .char h.1 h.2 ih

theorem unescaped_escaped (cs : List Char) : unescaped (escaped cs) = cs := by
  induction cs with
  | nil => rfl
  | cons c cs ih =>
    rw [escaped]
    split
    · next h => rcases h with rfl | rfl <;> rw [unescaped, ih]
    · next h =>
      push Not at h
      rw [Tokenizer.unescaped_char h.1, ih]

/-- The pieces of a line of quoted words. -/
def quotedPieces : List String → List Piece
  | [] => []
  | [word] => [.double (escaped word.toList) true]
  | word :: words => .double (escaped word.toList) true :: .separator :: quotedPieces words

theorem reads_quotedLine (words : List String) :
    Reads (quotedLine words).toList (quotedPieces words) := by
  rw [quotedLine, String.toList_ofList]
  induction words with
  | nil => exact .nil
  | cons word words ih =>
    have hword := Piece.SpelledBy.double (enclosed_escaped word.toList)
    cases words with
    | nil => simpa [quotedPieces, quoted] using Reads.cons hword .nil
    | cons next words =>
      simpa [quotedPieces, quoted] using Reads.cons hword (Reads.cons .separator ih)

theorem spelledWords_quotedPieces {words : List String} (h : words ≠ []) :
    spelledWords (quotedPieces words) = words.map String.toList := by
  induction words with
  | nil => exact absurd rfl h
  | cons word words ih =>
    have hvalue : (Piece.double (escaped word.toList) true).value = word.toList :=
      unescaped_escaped _
    have hpiece : Piece.double (escaped word.toList) true ≠ .separator := by simp
    cases words with
    | nil =>
      rw [quotedPieces, spelledWords_cons hpiece, spelledWords_nil, hvalue]
      simp
    | cons next words =>
      have hpieces : quotedPieces (word :: next :: words)
          = .double (escaped word.toList) true :: .separator :: quotedPieces (next :: words) := rfl
      rw [hpieces, spelledWords_cons hpiece, spelledWords_separator, ih (by simp), hvalue]
      simp

/-- **Quoted words.** A line of quoted words has these words as its tokens. -/
theorem tokenize_quotedLine {words : List String} (h : ∀ word ∈ words, word ≠ "") :
    tokenize (quotedLine words) = words := by
  rw [tokenize, (reads_quotedLine words).tokenized_eq]
  by_cases hwords : words = []
  · subst hwords
    rfl
  · have hkept : (words.map String.toList).filter (fun word ↦ word ≠ [])
        = words.map String.toList := by
      rw [List.filter_eq_self]
      intro cs hcs
      obtain ⟨word, hword, rfl⟩ := List.mem_map.mp hcs
      simpa using h word hword
    rw [spelledWords_quotedPieces hwords, tokensOfWords, hkept, List.map_map]
    simp [Function.comp_def]

/-! ## Writing commands -/

namespace Redirection

/-- The operator that sends a stream to a file, without a number where none is needed. -/
def operatorFor : Stream → WriteMode → Operator
  | .stdout, .truncate => ⟨">", .stdout, .truncate⟩
  | .stdout, .append => ⟨">>", .stdout, .append⟩
  | .stderr, .truncate => ⟨"2>", .stderr, .truncate⟩
  | .stderr, .append => ⟨"2>>", .stderr, .append⟩

/-- The words of a redirection that stands alone. -/
def standalone (stream : Stream) (target : Target) : List String :=
  [(operatorFor stream target.mode).symbol, target.path]

/-- The words of the redirections of a plan. -/
def Plan.words (plan : Plan) : List String :=
  (plan.stdout.toList.flatMap (standalone .stdout))
    ++ plan.stderr.toList.flatMap (standalone .stderr)

end Redirection

namespace Command

/-- The tokens of a command, its redirections first. -/
def words (command : Command) : List String :=
  command.name :: (command.plan.words ++ command.args)

/-- A line that gives a command. -/
def render (command : Command) : String :=
  quotedLine command.words

/-- What a line can give: no word is empty, and no argument begins with an operator unless it is one
and stands last. -/
structure WellFormed (command : Command) : Prop where
  name_ne_empty : command.name ≠ ""
  arg_ne_empty : ∀ arg ∈ command.args, arg ≠ ""
  arg_literal : ∀ front arg back, command.args = front ++ arg :: back →
    Redirection.BeginsWithOperator arg → Redirection.IsOperator arg ∧ back = []
  target_ne_empty : ∀ target ∈ command.plan.targets, target.path ≠ ""

end Command

/-! ## Reading a written command -/

namespace Redirection

theorem operatorFor_mem (stream : Stream) (mode : WriteMode) :
    operatorFor stream mode ∈ operators := by
  cases stream <;> cases mode <;> decide

theorem symbol_operatorFor_ne_empty (stream : Stream) (mode : WriteMode) :
    (operatorFor stream mode).symbol ≠ "" := by
  cases stream <;> cases mode <;> decide

theorem mem_words {plan : Plan} {word : String} (h : word ∈ plan.words) :
    ∃ stream target, plan.target? stream = some target ∧ word ∈ standalone stream target := by
  rcases List.mem_append.mp h with h | h <;>
    obtain ⟨target, htarget, hword⟩ := List.mem_flatMap.mp h
  · exact ⟨.stdout, target, Option.mem_toList.mp htarget, hword⟩
  · exact ⟨.stderr, target, Option.mem_toList.mp htarget, hword⟩

theorem extract_standalone_append (stream : Stream) (target : Target) (rest : List String) :
    extract (standalone stream target ++ rest)
      = ((extract rest).1,
          (extract rest).2.addEarlier (operatorFor stream target.mode) target.path) := by
  rw [standalone, List.cons_append, List.cons_append, List.nil_append,
    extract_cons_of_leading (leading?_of_mem (operatorFor_mem stream target.mode) _ rest)]
  rfl

/-- The redirections of a plan in front of arguments give the plan back. -/
theorem extract_words_append {args : List String} (h : Literal args) (plan : Plan) :
    extract (plan.words ++ args) = (args, plan) := by
  have hstream : ∀ stream mode, (operatorFor stream mode).stream = stream := by
    rintro (_ | _) (_ | _) <;> rfl
  have hmode : ∀ stream mode, (operatorFor stream mode).mode = mode := by
    rintro (_ | _) (_ | _) <;> rfl
  -- One redirection for each stream at most, so none of them hides another.
  rcases plan with ⟨_ | out, _ | err⟩ <;>
    simp [Plan.words, extract_standalone_append, extract_of_literal h, Plan.addEarlier, hstream,
      hmode]

end Redirection

namespace Command

theorem parse?_eq_some_iff {line : String} {command : Command} :
    parse? line = some command ↔ ∃ rest, tokenize line = command.name :: rest ∧
      Redirection.extract rest = (command.args, command.plan) := by
  rw [parse?]
  rcases command with ⟨name, args, plan⟩
  cases htokens : tokenize line with
  | nil => simp [ofTokens?]
  | cons first rest =>
    simp only [ofTokens?, Option.some.injEq, mk.injEq, List.cons.injEq]
    constructor
    · rintro ⟨rfl, rfl, rfl⟩
      exact ⟨rest, ⟨rfl, rfl⟩, rfl⟩
    · rintro ⟨_, ⟨rfl, rfl⟩, hextract⟩
      rw [hextract]
      exact ⟨rfl, rfl, rfl⟩

/-- A line gives a name by itself exactly if the name is all that there is on it. -/
theorem parse?_eq_name_iff {line name : String} :
    parse? line = some ⟨name, [], {}⟩ ↔ tokenize line = [name] := by
  rw [parse?_eq_some_iff]
  constructor
  · rintro ⟨rest, htokens, hrest⟩
    rw [htokens, Redirection.extract_eq_nothing_iff.mp hrest]
  · exact fun h ↦ ⟨[], h, rfl⟩

theorem wellFormed_of_parse? {line : String} {command : Command}
    (h : parse? line = some command) : command.WellFormed := by
  obtain ⟨rest, htokens, hextract⟩ := parse?_eq_some_iff.mp h
  have htoken : ∀ word ∈ command.name :: rest, word ≠ "" := fun word hword ↦
    ne_empty_of_mem_tokenize (htokens ▸ hword)
  have hrest : ∀ word ∈ rest, word ≠ "" := fun word hword ↦
    htoken word (List.mem_cons_of_mem _ hword)
  have hargs : (Redirection.extract rest).1 = command.args := by rw [hextract]
  have hplan : (Redirection.extract rest).2 = command.plan := by rw [hextract]
  refine ⟨htoken _ List.mem_cons_self, fun arg harg ↦ ?_, ?_, ?_⟩
  · exact hrest arg ((Redirection.extract_sublist rest).subset (hargs ▸ harg))
  · exact Redirection.literal_iff.mp (hargs ▸ Redirection.literal_extract rest)
  · exact hplan ▸ Redirection.target_ne_empty_of_mem_extract hrest

theorem WellFormed.ne_empty_of_mem_words {command : Command} (h : command.WellFormed) :
    ∀ word ∈ command.words, word ≠ "" := by
  intro word hword
  rcases List.mem_cons.mp hword with rfl | hword
  · exact h.name_ne_empty
  rcases List.mem_append.mp hword with hword | hword
  · obtain ⟨stream, target, htarget, hword⟩ := Redirection.mem_words hword
    rcases List.mem_pair.mp hword with rfl | rfl
    · exact Redirection.symbol_operatorFor_ne_empty stream target.mode
    · exact h.target_ne_empty target (Redirection.mem_targets_iff.mpr ⟨stream, htarget⟩)
  · exact h.arg_ne_empty word hword

theorem WellFormed.parse?_render {command : Command} (h : command.WellFormed) :
    parse? command.render = some command := by
  refine parse?_eq_some_iff.mpr ⟨_, tokenize_quotedLine h.ne_empty_of_mem_words, ?_⟩
  exact Redirection.extract_words_append (Redirection.literal_iff.mpr h.arg_literal) command.plan

/-- **The commands that lines give, and a line for each.** A command is given by some line exactly
if it is well formed, and then the line written for it gives it back. -/
theorem exists_parse?_iff_and_parse?_render :
    (∀ command, (∃ line, parse? line = some command) ↔ command.WellFormed) ∧
      (∀ command, command.WellFormed → parse? command.render = some command) ∧
      ∀ line, tokenize line ≠ [] → ∃ command,
        parse? line = some command ∧ parse? command.render = parse? line := by
  refine ⟨fun command ↦ ⟨?_, ?_⟩, fun command h ↦ h.parse?_render, fun line h ↦ ?_⟩
  · rintro ⟨line, hline⟩
    exact wellFormed_of_parse? hline
  · exact fun h ↦ ⟨command.render, h.parse?_render⟩
  · obtain ⟨name, rest, htokens⟩ := List.exists_cons_of_ne_nil h
    have hline : parse? line = some ⟨name, (Redirection.extract rest).1,
        (Redirection.extract rest).2⟩ := parse?_eq_some_iff.mpr ⟨rest, htokens, rfl⟩
    exact ⟨_, hline, (wellFormed_of_parse? hline).parse?_render.trans hline.symm⟩

example : parse? (render ⟨"echo", ["a \"b", ">"], { stderr := some ⟨">>", .append⟩ }⟩)
    = some ⟨"echo", ["a \"b", ">"], { stderr := some ⟨">>", .append⟩ }⟩ := by decide

end Command

end LineShell
