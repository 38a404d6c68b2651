import LineShell.Redirection
import Mathlib.Data.List.Basic

/-!
# Arguments among redirections

Which words survive extraction. A word is left among the arguments when no redirection begins with
it (`leading?`), and that depends on the word alone with one exception: an operator with nothing
after it is left too. The exception is what keeps the arguments stable. Extraction removes words
only, so an operator that was last among all words is last among the arguments, and the arguments
read once more are the same arguments (`literal_extract`).
-/

namespace LineShell.Redirection

/-! ## Operators at the start of a word -/

/-- Whether a word is an operator. -/
def IsOperator (word : String) : Prop :=
  ∃ op ∈ operators, op.symbol = word

/-- Whether a word begins with an operator. -/
def BeginsWithOperator (word : String) : Prop :=
  ∃ op ∈ operators, op.symbol.toList <+: word.toList

theorem IsOperator.beginsWithOperator {word : String} (h : IsOperator word) :
    BeginsWithOperator word := by
  obtain ⟨op, hop, rfl⟩ := h
  exact ⟨op, hop, List.prefix_refl _⟩

theorem operator?_eq_none_iff {word : String} : operator? word = none ↔ ¬IsOperator word := by
  simp [operator?, IsOperator]

/-- The symbol of an operator is read as that operator. -/
theorem operator?_symbol {op : Operator} (h : op ∈ operators) : operator? op.symbol = some op := by
  revert op
  decide

theorem attached?_eq_none_iff {word : String} (h : ¬IsOperator word) :
    attached? word = none ↔ ¬BeginsWithOperator word := by
  rw [attached?, List.findSome?_eq_none_iff]
  constructor
  · rintro hnone ⟨op, hop, rest, hrest⟩
    refine h ⟨op, hop, ?_⟩
    have hempty : rest = [] := by simpa [← hrest] using hnone op hop
    rw [hempty, List.append_nil] at hrest
    exact String.toList_inj.mp hrest
  · intro hnot op hop
    have hstarts : ¬op.symbol.toList <+: word.toList := fun hstarts ↦ hnot ⟨op, hop, hstarts⟩
    simp [hstarts]

/-- A word that goes on after an operator is put together from both. -/
theorem eq_append_of_attached? {word path : String} {op : Operator}
    (h : attached? word = some (op, path)) :
    op ∈ operators ∧ path ≠ "" ∧ word = op.symbol ++ path := by
  rw [attached?] at h
  obtain ⟨found, hfound, hsome⟩ := List.exists_of_findSome?_eq_some h
  simp only [List.isPrefixOf_iff_prefix, ne_eq] at hsome
  split at hsome
  · next hboth =>
    obtain ⟨rfl, rfl⟩ := Prod.mk.inj (Option.some.inj hsome)
    obtain ⟨⟨rest, hrest⟩, hne⟩ := hboth
    rw [← hrest, List.drop_left] at hne ⊢
    refine ⟨hfound, by simpa using hne, ?_⟩
    rw [← String.toList_inj, ← hrest, String.toList_append, String.toList_ofList]
  · contradiction

/-- **When no redirection begins.** The word begins with no operator, or is one that stands last. -/
theorem leading?_eq_none_iff {word : String} {rest : List String} :
    leading? word rest = none
      ↔ ¬BeginsWithOperator word ∨ (IsOperator word ∧ rest = []) := by
  by_cases h : IsOperator word
  · obtain ⟨op, hop⟩ := Option.ne_none_iff_exists'.mp (mt operator?_eq_none_iff.mp (not_not.mpr h))
    have hbegins := h.beginsWithOperator
    cases rest <;> simp [leading?, hop, h, hbegins]
  · have hop := operator?_eq_none_iff.mpr h
    simp [leading?, hop, h, attached?_eq_none_iff h]

/-- An operator takes the word after it as its target, whatever the word looks like. -/
theorem leading?_of_mem {op : Operator} (h : op ∈ operators) (path : String)
    (rest : List String) : leading? op.symbol (path :: rest) = some ⟨op, path, 2⟩ := by
  simp only [leading?, operator?_symbol h]

/-- **When a redirection begins.** The word is an operator and another word follows it, or it is no
operator and goes on after one. -/
theorem leading?_eq_some_cases {word : String} {rest : List String} {found : Found}
    (h : leading? word rest = some found) :
    (∃ op path later, op ∈ operators ∧ op.symbol = word ∧ rest = path :: later ∧
        found = ⟨op, path, 2⟩) ∨
      (¬IsOperator word ∧ ∃ op path, attached? word = some (op, path) ∧ found = ⟨op, path, 1⟩) := by
  by_cases hword : IsOperator word
  · obtain ⟨op, hop, rfl⟩ := hword
    cases rest with
    | nil => simp [leading?, operator?_symbol hop] at h
    | cons path later =>
      rw [leading?_of_mem hop] at h
      exact Or.inl ⟨op, path, later, hop, rfl, rfl, (Option.some.inj h).symm⟩
  · simp only [leading?, operator?_eq_none_iff.mpr hword] at h
    obtain ⟨⟨op, path⟩, hattached, rfl⟩ := Option.map_eq_some_iff.mp h
    exact Or.inr ⟨hword, op, path, hattached, rfl⟩

/-! ## Literal words -/

/-- Whether no redirection begins with any of the words. -/
def Literal : List String → Prop
  | [] => True
  | word :: rest => leading? word rest = none ∧ Literal rest

/-- **Literal words by position.** A word that begins with an operator is one, and stands last. -/
theorem literal_iff {words : List String} :
    Literal words ↔ ∀ front word back, words = front ++ word :: back →
      BeginsWithOperator word → IsOperator word ∧ back = [] := by
  induction words with
  | nil => simp [Literal]
  | cons first rest ih =>
    rw [Literal, leading?_eq_none_iff, ih]
    -- The first word is the case of an empty front, and the others have it in their front.
    constructor
    · rintro ⟨hfirst, hrest⟩ front word back hsplit hbegins
      cases front with
      | nil =>
        obtain ⟨rfl, rfl⟩ := List.cons.inj hsplit
        exact hfirst.resolve_left (not_not.mpr hbegins)
      | cons _ front => exact hrest front word back (List.cons.inj hsplit).2 hbegins
    · intro h
      refine ⟨?_, fun front word back hsplit ↦ h (first :: front) word back (by rw [hsplit]; rfl)⟩
      by_cases hbegins : BeginsWithOperator first
      · exact Or.inr (h [] first rest rfl hbegins)
      · exact Or.inl hbegins

/-- Extraction leaves literal words as they are. -/
theorem extract_of_literal {words : List String} (h : Literal words) :
    extract words = (words, {}) := by
  induction words with
  | nil => rfl
  | cons word rest ih => rw [extract_cons_of_leading_eq_none h.1, ih h.2]

/-! ## Induction along an extraction

Extraction takes one word at a time, or an operator together with its target. -/

theorem extract_induction {motive : List String → Prop} (nil : motive [])
    (argument : ∀ word rest, leading? word rest = none → motive rest → motive (word :: rest))
    (redirection : ∀ word rest found, leading? word rest = some found →
      motive (rest.drop (found.consumed - 1)) → motive (word :: rest))
    (words : List String) : motive words := by
  induction hn : words.length using Nat.strongRecOn generalizing words with
  | ind n ih =>
    cases words with
    | nil => exact nil
    | cons word rest =>
      rw [List.length_cons] at hn
      cases hleading : leading? word rest with
      | none => exact argument word rest hleading (ih rest.length (by omega) rest rfl)
      | some found =>
        refine redirection word rest found hleading (ih _ ?_ _ rfl)
        rw [List.length_drop]
        omega

/-- The arguments are words that were there, in order. -/
theorem extract_sublist (words : List String) : (extract words).1.Sublist words := by
  induction words using extract_induction with
  | nil => exact List.Sublist.refl _
  | argument word rest hleading ih =>
    rw [extract_cons_of_leading_eq_none hleading]
    exact ih.cons_cons word
  | redirection word rest found hleading ih =>
    rw [extract_cons_of_leading hleading]
    exact (ih.trans (List.drop_sublist _ _)).cons word

/-- **Arguments are literal.** An operator that is left was the last of all words. -/
theorem literal_extract (words : List String) : Literal (extract words).1 := by
  induction words using extract_induction with
  | nil => trivial
  | argument word rest hleading ih =>
    rw [extract_cons_of_leading_eq_none hleading]
    refine ⟨leading?_eq_none_iff.mpr ?_, ih⟩
    -- Whether anything follows the word may differ before and after, but not if nothing did before.
    rcases leading?_eq_none_iff.mp hleading with hbegins | ⟨hoperator, rfl⟩
    · exact Or.inl hbegins
    · exact Or.inr ⟨hoperator, rfl⟩
  | redirection word rest found hleading ih =>
    rw [extract_cons_of_leading hleading]
    exact ih

/-! ## Targets -/

theorem target_ne_empty_of_leading {word : String} {rest : List String} {found : Found}
    (h : leading? word rest = some found) (hrest : ∀ next ∈ rest, next ≠ "") :
    found.target ≠ "" := by
  rcases leading?_eq_some_cases h with
    ⟨op, path, later, -, -, rfl, rfl⟩ | ⟨-, op, path, hattached, rfl⟩
  · exact hrest path List.mem_cons_self
  · exact (eq_append_of_attached? hattached).2.1

/-- The stream of an operator keeps the target that it has and gets one if it has none. -/
theorem target?_addEarlier (plan : Plan) (op : Operator) (path : String) (stream : Stream) :
    (plan.addEarlier op path).target? stream
      = if op.stream = stream then (plan.target? stream).or (some ⟨path, op.mode⟩)
        else plan.target? stream := by
  rcases op with ⟨symbol, _ | _, mode⟩ <;> cases stream <;>
    simp [Plan.addEarlier, Plan.target?]

/-- Only where there are no words are there neither arguments nor targets. -/
theorem extract_eq_nothing_iff {words : List String} :
    extract words = ([], {}) ↔ words = [] := by
  constructor
  · intro h
    cases words with
    | nil => rfl
    | cons word rest =>
      cases hleading : leading? word rest with
      | none =>
        rw [extract_cons_of_leading_eq_none hleading] at h
        exact absurd (Prod.mk.inj h).1 (List.cons_ne_nil _ _)
      | some found =>
        rw [extract_cons_of_leading hleading] at h
        have htarget := target?_addEarlier (extract (rest.drop (found.consumed - 1))).2
          found.operator found.target found.operator.stream
        rw [(Prod.mk.inj h).2, if_pos rfl] at htarget
        cases hstream : found.operator.stream <;> simp [hstream, Plan.target?] at htarget
  · rintro rfl
    rfl

theorem mem_targets_iff {plan : Plan} {target : Target} :
    target ∈ plan.targets ↔ ∃ stream, plan.target? stream = some target := by
  constructor
  · intro h
    rcases List.mem_append.mp h with h | h
    · exact ⟨.stdout, Option.mem_toList.mp h⟩
    · exact ⟨.stderr, Option.mem_toList.mp h⟩
  · rintro ⟨_ | _, h⟩
    · exact List.mem_append_left _ (Option.mem_toList.mpr h)
    · exact List.mem_append_right _ (Option.mem_toList.mpr h)

theorem mem_targets_addEarlier {plan : Plan} {op : Operator} {path : String} {target : Target}
    (h : target ∈ (plan.addEarlier op path).targets) :
    target ∈ plan.targets ∨ target.path = path := by
  obtain ⟨stream, hstream⟩ := mem_targets_iff.mp h
  rw [target?_addEarlier] at hstream
  split at hstream
  · rcases Option.or_eq_some_iff.mp hstream with hlater | ⟨-, hnew⟩
    · exact Or.inl (mem_targets_iff.mpr ⟨stream, hlater⟩)
    · exact Or.inr (by rw [← Option.some.inj hnew])
  · exact Or.inl (mem_targets_iff.mpr ⟨stream, hstream⟩)

/-- A target is found at the start of some words that were there. -/
theorem exists_leading_of_mem_extract {words : List String} {target : Target}
    (h : target ∈ (extract words).2.targets) :
    ∃ word rest found, word :: rest <:+ words ∧ leading? word rest = some found ∧
      target.path = found.target := by
  induction words using extract_induction with
  | nil => contradiction
  | argument word rest hleading ih =>
    rw [extract_cons_of_leading_eq_none hleading] at h
    obtain ⟨first, later, found, hsuffix, hfound⟩ := ih h
    exact ⟨first, later, found, hsuffix.trans (List.suffix_cons word rest), hfound⟩
  | redirection word rest found hleading ih =>
    rw [extract_cons_of_leading hleading] at h
    rcases mem_targets_addEarlier h with hlater | hpath
    · obtain ⟨first, later, found', hsuffix, hfound⟩ := ih hlater
      have hdropped : rest.drop (found.consumed - 1) <:+ word :: rest :=
        (List.drop_suffix _ _).trans (List.suffix_cons word rest)
      exact ⟨first, later, found', hsuffix.trans hdropped, hfound⟩
    · exact ⟨word, rest, found, List.suffix_refl _, hleading, hpath⟩

/-- If no word is empty, no target is. -/
theorem target_ne_empty_of_mem_extract {words : List String} (h : ∀ word ∈ words, word ≠ "") :
    ∀ target ∈ (extract words).2.targets, target.path ≠ "" := by
  intro target htarget
  obtain ⟨word, rest, found, hsuffix, hleading, hpath⟩ := exists_leading_of_mem_extract htarget
  rw [hpath]
  exact target_ne_empty_of_leading hleading fun next hnext ↦
    h next (hsuffix.subset (List.mem_cons_of_mem word hnext))

/-! ## Characters of targets -/

/-- A target is the end of a word that was there, or the whole of it. -/
theorem exists_suffix_of_mem_extract {words : List String} {target : Target}
    (h : target ∈ (extract words).2.targets) :
    ∃ word ∈ words, target.path.toList <:+ word.toList := by
  obtain ⟨word, rest, found, hsuffix, hleading, hpath⟩ := exists_leading_of_mem_extract h
  rw [hpath]
  rcases leading?_eq_some_cases hleading with
    ⟨op, path, later, -, -, rfl, rfl⟩ | ⟨-, op, path, hattached, rfl⟩
  · exact ⟨path, hsuffix.subset (List.mem_cons_of_mem word List.mem_cons_self),
      List.suffix_refl _⟩
  · obtain ⟨-, -, rfl⟩ := eq_append_of_attached? hattached
    refine ⟨_, hsuffix.subset List.mem_cons_self, ?_⟩
    rw [String.toList_append]
    exact List.suffix_append _ _

end LineShell.Redirection
