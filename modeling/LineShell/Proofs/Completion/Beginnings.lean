import LineShell.Completion

/-!
# Common beginnings

Working out what words have in common goes from one word to the next and keeps what is common so
far, which only gets shorter. Nothing is lost on the way: whatever begins all the words begins what
is kept (`prefix_foldl_commonPrefix_iff`). So the result is the greatest of all texts that begin
every word, in the order in which texts begin each other, and as such it does not depend on the
order in which the words come or on how often they do (`longestCommonPrefix_is_greatest`).
-/

namespace LineShell

theorem fits_iff {start name : String} : fits start name = true ↔ start.toList <+: name.toList := by
  rw [fits, List.isPrefixOf_iff_prefix]

theorem fits_refl (text : String) : fits text text = true :=
  fits_iff.mpr (List.prefix_refl _)

/-- Texts that begin each other are the same. -/
theorem fits_antisymm {first second : String} (h : fits first second = true)
    (h' : fits second first = true) : first = second := by
  rw [fits_iff] at h h'
  exact String.toList_inj.mp (h.eq_of_length_le h'.length_le)

/-! ## What words have in common -/

theorem prefix_commonPrefix {cs as bs : List Char} (has : cs <+: as) (hbs : cs <+: bs) :
    cs <+: commonPrefix as bs := by
  induction cs generalizing as bs with
  | nil => exact List.nil_prefix
  | cons c cs ih =>
    obtain ⟨as, rfl⟩ : ∃ rest, as = c :: rest := ⟨_, (List.cons_prefix_iff.mp has).choose_spec.1⟩
    obtain ⟨bs, rfl⟩ : ∃ rest, bs = c :: rest := ⟨_, (List.cons_prefix_iff.mp hbs).choose_spec.1⟩
    rw [commonPrefix, if_pos rfl]
    exact (List.prefix_cons_inj c).mpr
      (ih ((List.prefix_cons_inj c).mp has) ((List.prefix_cons_inj c).mp hbs))

theorem prefix_commonPrefix_iff {cs as bs : List Char} :
    cs <+: commonPrefix as bs ↔ cs <+: as ∧ cs <+: bs :=
  ⟨fun h ↦ ⟨h.trans (commonPrefix_left as bs), h.trans (commonPrefix_right as bs)⟩,
    fun h ↦ prefix_commonPrefix h.1 h.2⟩

theorem prefix_foldl_commonPrefix_iff {cs word : List Char} {rest : List String} :
    cs <+: rest.foldl (fun common other ↦ commonPrefix common other.toList) word ↔
      cs <+: word ∧ ∀ other ∈ rest, cs <+: other.toList := by
  induction rest generalizing word with
  | nil => simp
  | cons other rest ih =>
    rw [List.foldl_cons, ih, prefix_commonPrefix_iff, List.forall_mem_cons, and_assoc]

/-- What begins the longest common beginning begins every word, and nothing else does. -/
theorem prefix_longestCommonPrefix_iff {words : List String} (h : words ≠ []) {cs : List Char} :
    cs <+: (longestCommonPrefix words).toList ↔ ∀ word ∈ words, cs <+: word.toList := by
  cases words with
  | nil => contradiction
  | cons word rest =>
    rw [longestCommonPrefix, String.toList_ofList, prefix_foldl_commonPrefix_iff,
      List.forall_mem_cons]

theorem length_longestCommonPrefix_le_iff {words : List String} (h : words ≠ []) {bound : Nat} :
    (longestCommonPrefix words).length ≤ bound ↔
      ∀ start : List Char, (∀ word ∈ words, start <+: word.toList) → start.length ≤ bound := by
  rw [← String.length_toList]
  constructor
  · intro hbound start hstart
    have hprefix := (prefix_longestCommonPrefix_iff h).mpr hstart
    exact Nat.le_trans hprefix.length_le hbound
  · intro hall
    exact hall _ ((prefix_longestCommonPrefix_iff h).mp (List.prefix_refl _))

/-- A text begins what words have in common exactly if it begins all of them. -/
theorem fits_longestCommonPrefix_iff {words : List String} (h : words ≠ []) {start : String} :
    fits start (longestCommonPrefix words) = true ↔ ∀ word ∈ words, fits start word = true := by
  simp only [fits_iff]
  exact prefix_longestCommonPrefix_iff h

theorem longestCommonPrefix_congr {words others : List String}
    (h : ∀ word, word ∈ others ↔ word ∈ words) :
    longestCommonPrefix others = longestCommonPrefix words := by
  by_cases hwords : words = []
  · subst hwords
    have hothers : others = [] :=
      List.eq_nil_iff_forall_not_mem.mpr fun word hword ↦ List.not_mem_nil ((h word).mp hword)
    rw [hothers]
  · obtain ⟨word, hword⟩ := List.exists_mem_of_ne_nil words hwords
    have hothers : others ≠ [] := List.ne_nil_of_mem ((h word).mpr hword)
    have hsame (start : String) :
        fits start (longestCommonPrefix others) = true ↔
          fits start (longestCommonPrefix words) = true := by
      rw [fits_longestCommonPrefix_iff hothers, fits_longestCommonPrefix_iff hwords]
      simp only [h]
    exact fits_antisymm ((hsame _).mp (fits_refl _)) ((hsame _).mpr (fits_refl _))

/-- **What words have in common** begins each of them, and every text that does so begins it. Thus
it goes on from every text that all the words go on from, and it is the same for all lists with the
same words in them. -/
theorem longestCommonPrefix_is_greatest {words : List String} (h : words ≠ []) :
    (∀ word ∈ words, fits (longestCommonPrefix words) word = true) ∧
    (∀ start, (∀ word ∈ words, fits start word = true) →
      fits start (longestCommonPrefix words) = true) ∧
    ∀ others, (∀ word, word ∈ others ↔ word ∈ words) →
      longestCommonPrefix others = longestCommonPrefix words :=
  ⟨(fits_longestCommonPrefix_iff h).mp (fits_refl _),
    fun _ ↦ (fits_longestCommonPrefix_iff h).mpr, fun _ ↦ longestCommonPrefix_congr⟩

theorem longestCommonPrefix_of_streams :
    let words := ["stream", "streak", "stress", "streams"]
    words ≠ [] ∧ longestCommonPrefix words = "stre" ∧
    (∀ word ∈ words, fits "stre" word = true) ∧
    (fits "str" "stre" = true ∧ fits "strea" "stre" = false) ∧
    longestCommonPrefix ["stress", "streams", "stress", "streak", "stream"] = "stre" := by
  intro words
  have hne : words ≠ [] := List.cons_ne_nil _ _
  have hcommon : longestCommonPrefix words = "stre" := by decide +kernel
  obtain ⟨hbegins, hgreatest, hsame⟩ := longestCommonPrefix_is_greatest hne
  rw [hcommon] at hbegins hgreatest hsame
  refine ⟨hne, hcommon, hbegins, ⟨hgreatest "str" (by decide +kernel), by decide +kernel⟩,
    hsame _ fun word ↦ ?_⟩
  simp only [words, List.mem_cons, List.not_mem_nil, or_false]
  grind

end LineShell
