import LineShell.Text.Integer
import Mathlib.Data.List.Basic
import Mathlib.Tactic.SplitIfs

/-!
# Reading decimal numbers

An integer may be written in many ways, with blanks around it, a sign, underscores, leading zeros
and digits of many scripts. Here is read the one way in which integers are printed: a minus if there
must be one, and decimal digits without anything between them. Such a text is read as the number
that was printed unless it is too long (`Text.integer?_toString`).
-/

namespace LineShell.Text

/-! ## Digits -/

theorem toNat_of_isDigit {c : Char} (h : c.isDigit = true) : 48 ≤ c.toNat ∧ c.toNat ≤ 57 := by
  simp only [Char.isDigit, Bool.and_eq_true, decide_eq_true_eq, UInt32.le_iff_toNat_le] at h
  exact h

theorem digitValue?_of_isDigit {c : Char} (h : c.isDigit = true) :
    digitValue? c = some (c.toNat - 48) := by
  obtain ⟨hlower, hupper⟩ := toNat_of_isDigit h
  -- The digits without a script of their own come first in the table.
  obtain ⟨others, hzeros⟩ : ∃ others, digitZeros = 48 :: others := ⟨_, rfl⟩
  have hfits : (decide (48 ≤ c.toNat) && decide (c.toNat < 48 + 10)) = true := by
    simp only [Bool.and_eq_true, decide_eq_true_eq]
    omega
  simp only [digitValue?, hzeros, List.find?_cons, hfits, Option.map_some]

theorem moreDigits?_of_forall_isDigit {cs : List Char} (h : ∀ c ∈ cs, c.isDigit = true) :
    moreDigits? cs = some (cs.map fun c ↦ c.toNat - 48) := by
  induction cs with
  | nil => rfl
  | cons c rest ih =>
    obtain ⟨hc, hrest⟩ := List.forall_mem_cons.mp h
    rw [moreDigits?, digitValue?_of_isDigit hc, ih hrest]
    · rfl
    · rintro _ _ rfl
      contradiction

theorem digits?_of_forall_isDigit {cs : List Char} (hne : cs ≠ [])
    (h : ∀ c ∈ cs, c.isDigit = true) : digits? cs = some (cs.map fun c ↦ c.toNat - 48) := by
  obtain ⟨c, rest, rfl⟩ := List.exists_cons_of_ne_nil hne
  obtain ⟨hc, hrest⟩ := List.forall_mem_cons.mp h
  rw [digits?, digitValue?_of_isDigit hc, moreDigits?_of_forall_isDigit hrest]
  rfl

/-- The digits of a number stand for it. -/
theorem digitsToNat_map_toDigits (number : Nat) :
    digitsToNat ((Nat.toDigits 10 number).map fun c ↦ c.toNat - 48) = number := by
  rw [digitsToNat, List.foldl_map]
  exact Nat.ofDigitChars_ten_toDigits

/-! ## Numbers -/

theorem isIntegerBlank_of_isDigit {c : Char} (h : c.isDigit = true) : isIntegerBlank c = false := by
  obtain ⟨hlower, hupper⟩ := toNat_of_isDigit h
  have hblank : isBlank c = false := by
    rw [← Bool.not_eq_true, isBlank, CharClass.has_iff]
    simp [blanks]
    omega
  rw [isIntegerBlank, hblank, Bool.false_and]

theorem trimOf_eq_self {p : Char → Bool} {cs : List Char} (h : ∀ c ∈ cs, p c = false) :
    trimOf p cs = cs := by
  have hdrop {ds : List Char} (hds : ∀ c ∈ ds, p c = false) : ds.dropWhile p = ds := by
    cases ds with
    | nil => rfl
    | cons c rest =>
      rw [List.dropWhile_cons_of_neg (by rw [hds c List.mem_cons_self]; exact Bool.false_ne_true)]
  rw [trimOf, hdrop h, hdrop fun c hc ↦ h c (List.mem_reverse.mp hc), List.reverse_reverse]

/-- The printed digits of a number, behind a sign that may be missing, are read as the number with
the sign unless there are too many. -/
theorem integer?_of_signed {text : String} {sign : Int} {number : Nat}
    (h : signed (trimOf isIntegerBlank text.toList) = (sign, Nat.toDigits 10 number)) :
    integer? text =
      if (Nat.toDigits 10 number).length ≤ maxDigits then some (sign * number) else none := by
  have hdigits : digits? (Nat.toDigits 10 number)
      = some ((Nat.toDigits 10 number).map fun c ↦ c.toNat - 48) :=
    digits?_of_forall_isDigit Nat.toDigits_ne_nil
      fun c hc ↦ Nat.isDigit_of_mem_toDigits (by omega) (by omega) hc
  rw [integer?, h]
  dsimp only
  rw [hdigits]
  dsimp only [Option.bind_eq_bind, Option.bind_some]
  rw [List.length_map, digitsToNat_map_toDigits]
  rfl

theorem signed_toDigits (number : Nat) :
    signed (Nat.toDigits 10 number) = (1, Nat.toDigits 10 number) := by
  obtain ⟨c, rest, hdigits⟩ : ∃ c rest, Nat.toDigits 10 number = c :: rest :=
    List.exists_cons_of_ne_nil Nat.toDigits_ne_nil
  have hc : c.isDigit = true := by
    have hmem : c ∈ Nat.toDigits 10 number := by
      rw [hdigits]
      exact List.mem_cons_self
    exact Nat.isDigit_of_mem_toDigits (by omega) (by omega) hmem
  rw [hdigits, signed]
  all_goals
    intro other hother
    rw [(List.cons.inj hother).1] at hc
    contradiction

theorem toList_toString (number : Nat) :
    (toString number).toList = Nat.toDigits 10 number := by
  rw [Nat.toString_eq_ofList_toDigits, String.toList_ofList]

theorem toString_of_nonneg {number : Int} (h : 0 ≤ number) :
    toString number = toString number.natAbs := by
  rw [Int.toString_eq_repr, Int.repr_eq_if, if_pos h]
  congr 1
  omega

theorem toString_of_neg {number : Int} (h : number < 0) :
    toString number = "-" ++ toString number.natAbs := by
  rw [Int.toString_eq_repr, Int.repr_eq_if, if_neg (by omega)]
  congr 2
  omega

theorem isDigit_of_mem_toString {number : Nat} {c : Char} (h : c ∈ (toString number).toList) :
    c.isDigit = true := by
  rw [toList_toString] at h
  exact Nat.isDigit_of_mem_toDigits (by omega) (by omega) h

/-- An integer is printed with decimal digits and a minus. -/
theorem isDigit_or_minus_of_mem_toString {number : Int} {c : Char}
    (h : c ∈ (toString number).toList) : c.isDigit = true ∨ c = '-' := by
  rcases Int.lt_or_le number 0 with hneg | hpos
  · rw [toString_of_neg hneg, String.toList_append] at h
    rcases List.mem_append.mp h with hminus | hmem
    · exact Or.inr (List.mem_singleton.mp hminus)
    · exact Or.inl (isDigit_of_mem_toString hmem)
  · rw [toString_of_nonneg hpos] at h
    exact Or.inl (isDigit_of_mem_toString h)

/-- **Printed integers are read back**, up to the greatest length that is read. -/
theorem integer?_toString (number : Int) :
    integer? (toString number) =
      if (toString number.natAbs).length ≤ maxDigits then some number else none := by
  have htrim : trimOf isIntegerBlank (toString number).toList = (toString number).toList := by
    refine trimOf_eq_self fun c hc ↦ ?_
    rcases isDigit_or_minus_of_mem_toString hc with hdigit | rfl
    · exact isIntegerBlank_of_isDigit hdigit
    · decide
  rw [← String.length_toList, toList_toString]
  rcases Int.lt_or_le number 0 with hneg | hpos
  · have hsigned : signed (trimOf isIntegerBlank (toString number).toList)
        = (-1, Nat.toDigits 10 number.natAbs) := by
      rw [htrim, toString_of_neg hneg, String.toList_append, toList_toString]
      rfl
    have hnumber : -1 * (number.natAbs : Int) = number := by omega
    rw [integer?_of_signed hsigned, hnumber]
  · have hsigned : signed (trimOf isIntegerBlank (toString number).toList)
        = (1, Nat.toDigits 10 number.natAbs) := by
      rw [htrim, toString_of_nonneg hpos, toList_toString, signed_toDigits]
    have hnumber : 1 * (number.natAbs : Int) = number := by omega
    rw [integer?_of_signed hsigned, hnumber]

example : integer? (toString (-513)) = some (-513) := by decide

end LineShell.Text
