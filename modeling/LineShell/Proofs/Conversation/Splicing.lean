import LineShell.Proofs.Completion.Editing
import LineShell.Proofs.Conversation.Listings

/-!
# What a press makes of the line

Two parties edit the line at a press of the completion key. The engine takes the whole line, finds
its first word and replaces it; that is the line that it remembers. The line editor splits the line
at the cursor into what stands before the word, the text of the word up to the cursor, and the rest,
asks for something to put in the place of the text, and puts the answer between the two ends.

The answer is meant for the whole word, and the line editor is not told so. Both lines are the same
only if the text is the first word as a whole (`LineEditor.press_splices_iff`): not if the cursor
stands within the word, whose rest then stays behind the answer, and not if blanks that do not
separate words for the line editor belong to the text.
-/

namespace LineShell

/-! ## Splicing an answer -/

/-- A text that does not begin with a blank has no blanks in front of anything. -/
private theorem eq_nil_of_cons_eq_append {c : Char} {rest gap others : List Char}
    (hc : Text.isBlank c = false) (hgap : ∀ b ∈ gap, Text.isBlank b = true)
    (h : c :: rest = gap ++ others) : gap = [] := by
  cases gap with
  | nil => rfl
  | cons b gap =>
    obtain rfl : c = b := (List.cons.inj h).1
    rw [hgap c List.mem_cons_self] at hc
    contradiction

/-- An answer that goes on from the first word of a line can be put in the place of another part of
the line, behind blanks, only if that part is the first word itself. -/
theorem StandsFirst.splice_iff {front word back : List Char} (h : StandsFirst front word back)
    {before text after answer : List Char} (hbefore : ∀ c ∈ before, Text.isBlank c = true)
    (hline : before ++ text ++ after = front ++ word ++ back) (hanswer : word <+: answer) :
    before ++ answer ++ after = front ++ answer ++ back ↔ StandsFirst before text after := by
  constructor
  · intro hspliced
    obtain ⟨c, word, rfl⟩ := List.exists_cons_of_ne_nil h.ne_nil
    obtain ⟨more, rfl⟩ := hanswer
    have hc : Text.isBlank c = false := h.not_blank c List.mem_cons_self
    -- If one of the two ends of blanks were longer, a blank of it would be the first character of
    -- the word in the line before, or of the answer in the line after.
    have hfront : before = front := by
      rw [List.append_assoc, List.append_assoc] at hline hspliced
      rcases List.append_eq_append_iff.mp hline with ⟨gap, rfl, hgap⟩ | ⟨gap, rfl, hgap⟩
      · rw [List.append_assoc, List.append_assoc, List.append_cancel_left_eq] at hspliced
        have hblank : ∀ b ∈ gap, Text.isBlank b = true := fun b hb ↦
          h.before_blank b (List.mem_append_right before hb)
        rw [eq_nil_of_cons_eq_append hc hblank hspliced, List.append_nil]
      · have hblank : ∀ b ∈ gap, Text.isBlank b = true := fun b hb ↦
          hbefore b (List.mem_append_right front hb)
        rw [eq_nil_of_cons_eq_append hc hblank hgap, List.append_nil]
    subst hfront
    obtain rfl : after = back := List.append_cancel_left hspliced
    obtain rfl : text = c :: word := List.append_cancel_left (List.append_cancel_right hline)
    exact h
  · intro hfirst
    obtain rfl : text = word := by
      rw [← hfirst.firstWord_eq, hline, h.firstWord_eq]
    have haround := hfirst.around?_eq
    rw [hline, h.around?_eq] at haround
    obtain ⟨rfl, rfl⟩ := Prod.mk.inj (Option.some.inj haround)
    rfl

/-! ## Answers to a press -/

theorem textBefore_length (before rest : List Char) :
    textBefore (before ++ rest) before.length = before := by
  rw [textBefore, if_neg (by omega), Int.toNat_natCast, List.take_left]

namespace LineEditor

variable {editor : LineEditor} {shell : Shell} {state : State}

/-- An answer is what a completion of the whole line puts in. -/
theorem exists_replace_of_press {press : Press} {answer : String}
    (h : (editor.press shell state press).1 = .ok (some answer)) :
    press.isAnswered = true ∧ ∃ word names,
      (shell.complete state editor.engine press.buffer).1 = .ok (.replace word answer names) ∧
      (editor.press shell state press).2.1.engine
        = (shell.complete state editor.engine press.buffer).2 := by
  cases hanswered : press.isAnswered with
  | false =>
    rw [press_of_not_isAnswered editor shell state hanswered] at h
    exact absurd (Except.ok.inj h) (by simp)
  | true =>
    rw [press_of_isAnswered editor shell state hanswered] at h ⊢
    refine ⟨rfl, ?_⟩
    rcases hcomplete : shell.complete state editor.engine press.buffer with
      ⟨fault | completion, engine⟩
    · rw [hcomplete] at h
      contradiction
    · rw [hcomplete] at h
      have hanswer : LineEditor.answer completion = some answer := Except.ok.inj h
      cases completion with
      | replace word replacement names =>
        obtain rfl : replacement = answer := Option.some.inj hanswer
        exact ⟨word, names, rfl, rfl⟩
      | nothing | bell | list => contradiction

/-- **When the line editor and the engine agree.** Whatever was pressed before: if there is an
answer, only blanks stand before the text, and the answer is what the engine puts into the whole
line, which it remembers so. Put in the place of the text, the answer makes the same line exactly if
the text is the first word, from the blanks before it to the blank or the end behind it. -/
theorem press_splices_iff (editor : LineEditor) (shell : Shell) (state : State)
    {before text after answer : String}
    (hpress : (editor.press shell state
      { buffer := before ++ text ++ after, start := before.length }).1 = .ok (some answer)) :
    (∀ c ∈ before.toList, Text.isBlank c = true) ∧ ∃ completion,
      (shell.complete state editor.engine (before ++ text ++ after)).1 = .ok completion ∧
      completion.replacement = answer ∧
      (editor.press shell state
        { buffer := before ++ text ++ after, start := before.length }).2.1.engine.lastLine
          = some (completion.apply (before ++ text ++ after)) ∧
      (before ++ answer ++ after = completion.apply (before ++ text ++ after) ↔
        StandsFirst before.toList text.toList after.toList) := by
  obtain ⟨hanswered, word, names, hcomplete, hengine⟩ := exists_replace_of_press hpress
  -- A press is answered only if nothing but blanks stands before the text.
  have hbefore : ∀ c ∈ before.toList, Text.isBlank c = true := by
    have hpast : (textBefore (before ++ text ++ after).toList before.length).any
        (fun c ↦ !Text.isBlank c) = false := by
      simpa [Press.isAnswered, Press.isPastCommand] using hanswered
    rw [String.append_assoc, String.toList_append, ← String.length_toList, textBefore_length]
      at hpast
    simpa using hpast
  refine ⟨hbefore, _, hcomplete, rfl, ?_, ?_⟩
  · rw [hengine, Shell.lastLine_complete hcomplete]
  cases Shell.answers_of_complete hcomplete with
  | replace hword _ hextends =>
    obtain ⟨front, back, hline, hfirst⟩ := exists_standsFirst hword
    have hparts : before.toList ++ text.toList ++ after.toList
        = front ++ (commandWord (before ++ text ++ after)).toList ++ back := by
      rw [← hline, String.toList_append, String.toList_append]
    rw [Completion.apply, hline, hfirst.replaceFirst_eq, ← String.toList_inj,
      String.toList_ofList, String.toList_append, String.toList_append]
    exact hfirst.splice_iff hbefore hparts hextends.begins

/-- The cursor at the end of a command that arguments follow. -/
theorem press_splices_before_arguments :
    let shell : Shell := { launcher := fun host _ ↦ (.ok {}, host) }
    let state : State := { session := { cwd := "/", searchPath := [], home := "/" } }
    let editor : LineEditor := { prompt := "$ " }
    let line := " \t" ++ "ec" ++ " -n ec"
    let completion : Completion := .replace "ec" "echo " ["echo"]
    (editor.press shell state { buffer := line, start := " \t".length }).1 = .ok (some "echo ") ∧
      (shell.complete state editor.engine line).1 = .ok completion ∧
      " \t" ++ "echo " ++ " -n ec" = completion.apply line := by
  intro shell state editor line completion
  have hpress : (editor.press shell state { buffer := line, start := " \t".length }).1
      = .ok (some "echo ") := by decide
  have hcomplete : (shell.complete state editor.engine line).1 = .ok completion := by decide
  obtain ⟨-, other, hother, -, -, hsame⟩ := editor.press_splices_iff shell state hpress
  obtain rfl : completion = other := Except.ok.inj (hcomplete.symm.trans hother)
  exact ⟨hpress, hcomplete, hsame.mpr (by decide)⟩

/-- The cursor within a word, whose last letter stays behind the answer; and a blank that the line
editor takes for a part of the word, and that the answer does without. -/
theorem press_splices_differently :
    let shell : Shell := { launcher := fun host _ ↦ (.ok {}, host) }
    let state : State := {
      session := { cwd := "/", searchPath := ["/bin"], home := "/" }
      host := { tree := ⟨[(["bin"], .directory), (["bin", "nana1"], .file [] true),
        (["bin", "nana2"], .file [] true)]⟩ } }
    let editor : LineEditor := { prompt := "$ " }
    let within : Completion := .replace "na" "nana" ["nana1", "nana2"]
    let blank : Completion := .replace "ec" "echo " ["echo"]
    ((editor.press shell state { buffer := "" ++ "n" ++ "a" }).1 = .ok (some "nana") ∧
      (shell.complete state editor.engine ("" ++ "n" ++ "a")).1 = .ok within ∧
      "" ++ "nana" ++ "a" ≠ within.apply ("" ++ "n" ++ "a")) ∧
    (editor.press shell state { buffer := "" ++ "\u2003ec" ++ "" }).1 = .ok (some "echo ") ∧
      (shell.complete state editor.engine ("" ++ "\u2003ec" ++ "")).1 = .ok blank ∧
      "" ++ "echo " ++ "" ≠ blank.apply ("" ++ "\u2003ec" ++ "") := by
  decide +kernel

end LineEditor

end LineShell
