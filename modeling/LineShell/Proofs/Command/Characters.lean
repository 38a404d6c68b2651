import LineShell.Shell.Exec
import LineShell.Proofs.Redirection.Arguments

/-!
# The characters of a command

Cutting a text into lines, a line into tokens and the tokens into a name, arguments and targets
never makes up a character: what a command consists of was in its text (`Command.mem_of_parse?`).
So whatever a character may cause further on, such as a NUL character in a path, it is enough to
keep it out of the text.

The tokenizer is the one place where this takes an invariant. A backslash that was read is not yet
in any word, but it may still come to stand in one, if the character after it is not one that it
escapes.
-/

namespace LineShell

/-! ## Lines -/

namespace Text

theorem mem_consFirst {c d : Char} {piece : List Char} {rest : List (List Char)}
    (hpiece : piece ∈ consFirst c rest) (hd : d ∈ piece) :
    d = c ∨ ∃ other ∈ rest, d ∈ other := by
  cases rest with
  | nil =>
    rw [consFirst, List.mem_singleton] at hpiece
    rw [hpiece, List.mem_singleton] at hd
    exact Or.inl hd
  | cons first more =>
    rcases List.mem_cons.mp hpiece with rfl | hpiece
    · rcases List.mem_cons.mp hd with hd | hd
      · exact Or.inl hd
      · exact Or.inr ⟨first, List.mem_cons_self, hd⟩
    · exact Or.inr ⟨piece, List.mem_cons_of_mem first hpiece, hd⟩

/-- The characters of the lines of a text are in the text. -/
theorem mem_of_mem_lines {cs piece : List Char} {d : Char} (hpiece : piece ∈ lines cs)
    (hd : d ∈ piece) : d ∈ cs := by
  induction cs using lines.induct generalizing piece with
  | case1 => contradiction
  | case2 rest ih =>
    rcases List.mem_cons.mp hpiece with rfl | hpiece
    · contradiction
    · exact List.mem_cons_of_mem _ (List.mem_cons_of_mem _ (ih hpiece hd))
  | case3 c rest hpair hbreak ih =>
    rw [lines.eq_3 _ _ hpair, if_pos hbreak] at hpiece
    rcases List.mem_cons.mp hpiece with rfl | hpiece
    · contradiction
    · exact List.mem_cons_of_mem c (ih hpiece hd)
  | case4 c rest hpair hbreak ih =>
    rw [lines.eq_3 _ _ hpair, if_neg hbreak] at hpiece
    rcases mem_consFirst hpiece hd with rfl | ⟨other, hother, hd⟩
    · exact List.mem_cons_self
    · exact List.mem_cons_of_mem c (ih hother hd)

end Text

theorem Shell.mem_of_mem_lines {text line : String} {c : Char} (hline : line ∈ Shell.lines text)
    (hc : c ∈ line.toList) : c ∈ text.toList := by
  obtain ⟨piece, hpiece, rfl⟩ := List.mem_map.mp hline
  rw [String.toList_ofList] at hc
  exact Text.mem_of_mem_lines hpiece hc

/-! ## Tokens -/

namespace Tokenizer

/-- Whether everything that a tokenizer holds is made of characters with a property, also the
backslash that it may hold back. -/
structure MadeOf (p : Char → Prop) (t : Tokenizer) : Prop where
  word : ∀ c ∈ t.word.toList, p c
  tokens : ∀ token ∈ t.tokens, ∀ c ∈ token.toList, p c
  backslash : t.escaping = true → p '\\'

namespace MadeOf

variable {p : Char → Prop} {t : Tokenizer} {c : Char}

theorem push (h : t.MadeOf p) (hc : p c) : (t.push c).MadeOf p where
  word := by
    intro d hd
    rw [Tokenizer.push, String.toList_push] at hd
    rcases List.mem_append.mp hd with hd | hd
    · exact h.word d hd
    · rw [List.mem_singleton.mp hd]
      exact hc
  tokens := h.tokens
  backslash := h.backslash

theorem flush (h : t.MadeOf p) : t.flush.MadeOf p := by
  rw [Tokenizer.flush]
  split_ifs
  · exact h
  · refine ⟨fun d hd ↦ absurd hd List.not_mem_nil, fun token htoken ↦ ?_, h.backslash⟩
    rcases List.mem_append.mp htoken with htoken | htoken
    · exact h.tokens token htoken
    · rw [List.mem_singleton.mp htoken]
      exact h.word

theorem readPlain (h : t.MadeOf p) (hc : p c) : (t.readPlain c).MadeOf p := by
  rw [Tokenizer.readPlain.eq_def]
  split
  · exact ⟨h.word, h.tokens, fun _ ↦ hc⟩
  · exact ⟨h.word, h.tokens, h.backslash⟩
  · exact ⟨h.word, h.tokens, h.backslash⟩
  · exact h.flush
  · exact ⟨h.word, h.tokens, h.backslash⟩
  · exact ⟨h.word, h.tokens, fun _ ↦ hc⟩
  · exact ⟨h.word, h.tokens, h.backslash⟩
  · exact h.push hc

theorem readEscaped (h : t.MadeOf p) (hescaping : t.escaping = true) (hc : p c) :
    (t.readEscaped c).MadeOf p := by
  have hread : MadeOf p { t with escaping := false } := ⟨h.word, h.tokens, nofun⟩
  rw [Tokenizer.readEscaped]
  dsimp only
  split_ifs
  · -- The character is not one that is escaped, so the backslash stands for itself.
    exact (hread.push (h.backslash hescaping)).push hc
  · exact hread.push hc

theorem step (h : t.MadeOf p) (hc : p c) : (t.step c).MadeOf p := by
  rw [Tokenizer.step]
  split_ifs with hescaping
  · exact h.readEscaped hescaping hc
  · exact h.readPlain hc

theorem run {cs : List Char} (h : t.MadeOf p) (hcs : ∀ c ∈ cs, p c) : (t.run cs).MadeOf p := by
  induction cs generalizing t with
  | nil => exact h
  | cons c cs ih =>
    rw [run_cons]
    exact ih (h.step (hcs c List.mem_cons_self)) fun d hd ↦ hcs d (List.mem_cons_of_mem c hd)

theorem finish (h : t.MadeOf p) : t.finish.MadeOf p := by
  have hclosed : MadeOf p { t with escaping := false } := ⟨h.word, h.tokens, nofun⟩
  rw [Tokenizer.finish]
  split_ifs with hbackslash
  · exact (hclosed.push (h.backslash (Bool.and_eq_true_iff.mp hbackslash).1)).flush
  · exact hclosed.flush

end MadeOf

end Tokenizer

/-- The characters of the tokens of a line are in the line. -/
theorem mem_of_mem_tokenize {line token : String} {c : Char} (htoken : token ∈ tokenize line)
    (hc : c ∈ token.toList) : c ∈ line.toList := by
  have hempty : Tokenizer.MadeOf (· ∈ line.toList) {} := ⟨nofun, nofun, nofun⟩
  exact (hempty.run fun _ hd ↦ hd).finish.tokens token htoken c hc

/-! ## Commands -/

namespace Command

/-- The texts that a command consists of: its name, its arguments and the paths of its targets. -/
def texts (command : Command) : List String :=
  command.name :: command.args ++ command.plan.targets.map Redirection.Target.path

/-- **Nothing is made up.** The characters of a command are in its line. -/
theorem mem_of_parse? {line text : String} {command : Command} {c : Char}
    (h : parse? line = some command) (htext : text ∈ command.texts) (hc : c ∈ text.toList) :
    c ∈ line.toList := by
  rw [parse?] at h
  have htokens : ∀ token ∈ tokenize line, ∀ d ∈ token.toList, d ∈ line.toList :=
    fun token htoken d hd ↦ mem_of_mem_tokenize htoken hd
  cases hline : tokenize line with
  | nil =>
    rw [hline] at h
    contradiction
  | cons name rest =>
    rw [hline] at h htokens
    obtain rfl := Option.some.inj h
    have hrest : ∀ token ∈ rest, ∀ d ∈ token.toList, d ∈ line.toList :=
      fun token htoken ↦ htokens token (List.mem_cons_of_mem name htoken)
    -- Arguments are tokens. The path of a target may be only the end of one, as in `>f`.
    rcases List.mem_append.mp htext with htext | htext
    · rcases List.mem_cons.mp htext with rfl | harg
      · exact htokens _ List.mem_cons_self c hc
      · exact hrest text ((Redirection.extract_sublist rest).subset harg) c hc
    · obtain ⟨target, htarget, rfl⟩ := List.mem_map.mp htext
      obtain ⟨word, hword, hsuffix⟩ := Redirection.exists_suffix_of_mem_extract htarget
      exact hrest word hword c (hsuffix.subset hc)

end Command

end LineShell
