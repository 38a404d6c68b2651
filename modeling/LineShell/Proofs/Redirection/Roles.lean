import LineShell.Proofs.Redirection.Arguments

/-!
# The roles of words

What the words after a command are there for, written as a grammar. From the left, an operator that
is followed by a word takes that word as its target, whatever the word looks like; a word that
begins with an operator and goes on after it is a redirection of its own; and any other word is an
argument.

## The longest operator against the first

The grammar asks for the longest operator that a word begins with, extraction takes the first in the
order of `operators`. Both are the same since no operator stands behind a shorter one
(`operators_pairwise`): whatever could be longer was tried before. That is all the order of the list
is used for, and the grammar does not know it.

Every list of words has exactly one assignment of roles, and roles are assigned to the words of
two lists separately unless the first list ends in an operator that takes the first word of the
second. So both what extraction returns and how it composes are read off the roles.
-/

namespace LineShell.Redirection

/-! ## The grammar -/

/-- What some words are there for. -/
inductive Role where
  /-- An argument of the command. -/
  | argument (word : String)
  /-- An operator with the word after it as its target. -/
  | standalone (op : Operator) (path : String)
  /-- An operator with its target in the same word. -/
  | fused (op : Operator) (path : String)
  deriving DecidableEq, Repr

namespace Role

/-- The words that a role takes up. -/
def words : Role → List String
  | argument word => [word]
  | standalone op path => [op.symbol, path]
  | fused op path => [op.symbol ++ path]

/-- The argument that a role is, if it is one. -/
def argument? : Role → Option String
  | argument word => some word
  | standalone _ _ => none
  | fused _ _ => none

/-- The target that a role gives to a stream, if it does. -/
def target? (stream : Stream) : Role → Option Target
  | argument _ => none
  | standalone op path => if op.stream = stream then some ⟨path, op.mode⟩ else none
  | fused op path => if op.stream = stream then some ⟨path, op.mode⟩ else none

def isStandalone : Role → Bool
  | standalone _ _ => true
  | _ => false

def isFused : Role → Bool
  | fused _ _ => true
  | _ => false

end Role

/-- Whether a word is an operator with something after it. -/
def Attached (word : String) (op : Operator) (path : String) : Prop :=
  op ∈ operators ∧ path ≠ "" ∧ word = op.symbol ++ path

/-- Whether it is so with no longer operator. -/
def LongestAttached (word : String) (op : Operator) (path : String) : Prop :=
  Attached word op path ∧
    ∀ other rest, Attached word other rest → other.symbol.length ≤ op.symbol.length

/-- The roles of words, from left to right. -/
inductive HasRoles : List String → List Role → Prop
  | nil : HasRoles [] []
  | standalone {word : String} {op : Operator} {path : String} {rest : List String}
      {roles : List Role} :
      op ∈ operators → op.symbol = word → HasRoles rest roles →
      HasRoles (word :: path :: rest) (.standalone op path :: roles)
  | fused {word : String} {op : Operator} {path : String} {rest : List String}
      {roles : List Role} :
      ¬IsOperator word → LongestAttached word op path → HasRoles rest roles →
      HasRoles (word :: rest) (.fused op path :: roles)
  | argument {word : String} {rest : List String} {roles : List Role} :
      ¬(IsOperator word ∧ rest ≠ []) → ¬(¬IsOperator word ∧ ∃ op path, Attached word op path) →
      HasRoles rest roles → HasRoles (word :: rest) (.argument word :: roles)

/-! ## The longest operator -/

/-- No operator stands behind a shorter one. -/
theorem operators_pairwise :
    operators.Pairwise fun op later ↦ later.symbol.length ≤ op.symbol.length := by
  decide

/-- An operator is told by its symbol. -/
theorem eq_of_symbol_eq {op other : Operator} (h : op ∈ operators) (h' : other ∈ operators)
    (hsymbol : op.symbol = other.symbol) : op = other :=
  Option.some.inj ((operator?_symbol h).symm.trans (hsymbol ▸ operator?_symbol h'))

theorem Attached.starts {word path : String} {op : Operator} (h : Attached word op path) :
    op.symbol.toList <+: word.toList ∧ word.toList.drop op.symbol.toList.length ≠ [] := by
  obtain ⟨-, hpath, rfl⟩ := h
  simp [hpath]

/-- A word that begins with an operator and is none itself goes on after it. -/
theorem exists_attached_iff {word : String} (h : ¬IsOperator word) :
    (∃ op path, Attached word op path) ↔ BeginsWithOperator word := by
  constructor
  · rintro ⟨op, path, hattached⟩
    exact ⟨op, hattached.1, hattached.starts.1⟩
  · rintro ⟨op, hop, rest, hrest⟩
    refine ⟨op, String.ofList rest, hop, ?_, ?_⟩
    · intro hempty
      refine h ⟨op, hop, ?_⟩
      rw [← String.toList_inj, ← hrest]
      simpa using hempty
    · rw [← String.toList_inj, ← hrest]
      simp

/-- There is only one longest operator. -/
theorem LongestAttached.unique {word path path' : String} {op other : Operator}
    (h : LongestAttached word op path) (h' : LongestAttached word other path') :
    op = other ∧ path = path' := by
  obtain ⟨hattached, hlongest⟩ := h
  obtain ⟨hattached', hlongest'⟩ := h'
  have hlength : op.symbol.length = other.symbol.length :=
    Nat.le_antisymm (hlongest' _ _ hattached) (hlongest _ _ hattached')
  obtain ⟨hop, -, rfl⟩ := hattached
  obtain ⟨hother, -, hword⟩ := hattached'
  rw [← String.toList_inj, String.toList_append, String.toList_append] at hword
  obtain ⟨hsymbol, hpath⟩ := List.append_inj hword
    (by rwa [String.length_toList, String.length_toList])
  exact ⟨eq_of_symbol_eq hop hother (String.toList_inj.mp hsymbol), String.toList_inj.mp hpath⟩

/-- Extraction takes the first operator that a word goes on after. -/
theorem exists_of_attached?_eq_some {word path : String} {op : Operator}
    (h : attached? word = some (op, path)) :
    Attached word op path ∧ ∃ earlier later, operators = earlier ++ op :: later ∧
      ∀ other ∈ earlier, ∀ rest, ¬Attached word other rest := by
  obtain ⟨earlier, found, later, hsplit, hfound, hearlier⟩ := List.findSome?_eq_some_iff.mp h
  simp only [List.isPrefixOf_iff_prefix, ne_eq] at hfound hearlier
  split at hfound
  · obtain ⟨rfl, -⟩ := Prod.mk.inj (Option.some.inj hfound)
    refine ⟨eq_append_of_attached? h, earlier, later, hsplit, fun other hother rest hattached ↦ ?_⟩
    have hnone := hearlier other hother
    rw [if_pos hattached.starts] at hnone
    contradiction
  · contradiction

/-- **The first operator is the longest.** -/
theorem longestAttached_of_attached? {word path : String} {op : Operator}
    (h : attached? word = some (op, path)) : LongestAttached word op path := by
  obtain ⟨hattached, earlier, later, hsplit, hearlier⟩ := exists_of_attached?_eq_some h
  refine ⟨hattached, fun other rest hother ↦ ?_⟩
  have hordered := operators_pairwise
  have hmem := hother.1
  rw [hsplit] at hordered hmem
  rcases List.mem_append.mp hmem with hbefore | hbehind
  · exact absurd hother (hearlier other hbefore rest)
  · rcases List.mem_cons.mp hbehind with rfl | hbehind
    · exact Nat.le_refl _
    · have hbelow := (List.pairwise_append.mp hordered).2.1
      exact (List.pairwise_cons.mp hbelow).1 other hbehind

theorem attached?_eq_some_iff {word path : String} {op : Operator} (h : ¬IsOperator word) :
    attached? word = some (op, path) ↔ LongestAttached word op path := by
  refine ⟨longestAttached_of_attached?, fun hlongest ↦ ?_⟩
  have hbegins := (exists_attached_iff h).mp ⟨op, path, hlongest.1⟩
  obtain ⟨⟨other, rest⟩, hsome⟩ :=
    Option.ne_none_iff_exists'.mp (mt (attached?_eq_none_iff h).mp (not_not.mpr hbegins))
  obtain ⟨rfl, rfl⟩ := hlongest.unique (longestAttached_of_attached? hsome)
  exact hsome

/-! ## Redirections found by their roles -/

theorem leading?_of_longestAttached {word path : String} {op : Operator} (h : ¬IsOperator word)
    (hlongest : LongestAttached word op path) (rest : List String) :
    leading? word rest = some ⟨op, path, 1⟩ := by
  simp only [leading?, operator?_eq_none_iff.mpr h, (attached?_eq_some_iff h).mpr hlongest,
    Option.map_some]

theorem leading?_eq_none_iff_not {word : String} {rest : List String} :
    leading? word rest = none ↔ ¬(IsOperator word ∧ rest ≠ []) ∧
      ¬(¬IsOperator word ∧ ∃ op path, Attached word op path) := by
  rw [leading?_eq_none_iff]
  by_cases h : IsOperator word
  · simp [h, h.beginsWithOperator]
  · rw [exists_attached_iff h]
    simp [h]

/-! ## Every word has one role -/

theorem exists_hasRoles (words : List String) : ∃ roles, HasRoles words roles := by
  induction words using extract_induction with
  | nil => exact ⟨[], .nil⟩
  | argument word rest hleading ih =>
    obtain ⟨roles, hroles⟩ := ih
    obtain ⟨hoperator, hattached⟩ := leading?_eq_none_iff_not.mp hleading
    exact ⟨_, .argument hoperator hattached hroles⟩
  | redirection word rest found hleading ih =>
    obtain ⟨roles, hroles⟩ := ih
    rcases leading?_eq_some_cases hleading with
      ⟨op, path, later, hop, hsymbol, rfl, rfl⟩ | ⟨hword, op, path, hattached, rfl⟩
    · exact ⟨_, .standalone hop hsymbol hroles⟩
    · exact ⟨_, .fused hword (longestAttached_of_attached? hattached) hroles⟩

theorem HasRoles.unique {words : List String} {roles others : List Role}
    (h : HasRoles words roles) (h' : HasRoles words others) : roles = others := by
  induction h generalizing others with
  | nil =>
    cases h'
    rfl
  | standalone hop hsymbol _ ih =>
    cases h' with
    | standalone hother hsame hrest =>
      rw [eq_of_symbol_eq hop hother (hsymbol.trans hsame.symm), ih hrest]
    | fused hword _ _ => exact absurd ⟨_, hop, hsymbol⟩ hword
    | argument hoperator _ _ =>
      exact absurd ⟨⟨_, hop, hsymbol⟩, List.cons_ne_nil _ _⟩ hoperator
  | fused hword hlongest _ ih =>
    cases h' with
    | standalone hother hsame _ => exact absurd ⟨_, hother, hsame⟩ hword
    | fused _ hlongest' hrest =>
      obtain ⟨rfl, rfl⟩ := hlongest.unique hlongest'
      rw [ih hrest]
    | argument _ hattached _ => exact absurd ⟨hword, _, _, hlongest.1⟩ hattached
  | argument hoperator hattached _ ih =>
    cases h' with
    | standalone hother hsame _ =>
      exact absurd ⟨⟨_, hother, hsame⟩, List.cons_ne_nil _ _⟩ hoperator
    | fused hword hlongest _ => exact absurd ⟨hword, _, _, hlongest.1⟩ hattached
    | argument _ _ hrest => rw [ih hrest]

/-- Every word is in one role, and in its place. -/
theorem HasRoles.flatMap_words {words : List String} {roles : List Role}
    (h : HasRoles words roles) : roles.flatMap Role.words = words := by
  induction h with
  | nil => rfl
  | standalone _ hsymbol _ ih => rw [List.flatMap_cons, ih, ← hsymbol]; rfl
  | fused _ hlongest _ ih => rw [List.flatMap_cons, ih, hlongest.1.2.2]; rfl
  | argument _ _ _ ih => rw [List.flatMap_cons, ih]; rfl

/-! ## Extraction by roles -/

/-- The plan that roles make: for each stream, the target that is given to it last. -/
def lastTargets (roles : List Role) : Plan where
  stdout := (roles.filterMap (Role.target? .stdout)).getLast?
  stderr := (roles.filterMap (Role.target? .stderr)).getLast?

theorem target?_lastTargets (roles : List Role) (stream : Stream) :
    (lastTargets roles).target? stream = (roles.filterMap (Role.target? stream)).getLast? := by
  cases stream <;> rfl

/-- A role that gives a target to a stream gives it if none comes later. -/
theorem lastTargets_cons {role : Role} {op : Operator} {path : String}
    (h : ∀ stream, role.target? stream = if op.stream = stream then some ⟨path, op.mode⟩ else none)
    (roles : List Role) : lastTargets (role :: roles) = (lastTargets roles).addEarlier op path := by
  have hlast : ∀ (target : Target) (targets : List Target),
      (target :: targets).getLast? = (targets.getLast? <|> some target) := by
    intro target targets
    rw [List.getLast?_cons]
    cases targets.getLast? <;> rfl
  rcases op with ⟨symbol, _ | _, mode⟩ <;> simp [lastTargets, Plan.addEarlier, h, hlast]

/-- **Extraction follows the roles.** -/
theorem HasRoles.extract_eq {words : List String} {roles : List Role} (h : HasRoles words roles) :
    extract words = (roles.filterMap Role.argument?, lastTargets roles) := by
  induction h with
  | nil => rfl
  | @standalone word op path rest roles hop hsymbol _ ih =>
    rw [← hsymbol, extract_cons_of_leading (leading?_of_mem hop path rest),
      lastTargets_cons (fun _ ↦ rfl)]
    exact congrArg (fun found ↦ (found.1, found.2.addEarlier op path)) ih
  | @fused word op path rest roles hword hlongest _ ih =>
    rw [extract_cons_of_leading (leading?_of_longestAttached hword hlongest rest),
      lastTargets_cons (fun _ ↦ rfl)]
    exact congrArg (fun found ↦ (found.1, found.2.addEarlier op path)) ih
  | argument hoperator hattached _ ih =>
    rw [extract_cons_of_leading_eq_none (leading?_eq_none_iff_not.mpr ⟨hoperator, hattached⟩), ih]
    rfl

/-- How many words the roles of each kind take up. -/
theorem length_flatMap_words (roles : List Role) :
    (roles.flatMap Role.words).length = (roles.filterMap Role.argument?).length
      + 2 * roles.countP Role.isStandalone + roles.countP Role.isFused := by
  induction roles with
  | nil => rfl
  | cons role roles ih =>
    rw [List.flatMap_cons, List.length_append, ih]
    cases role <;>
      simp only [List.filterMap_cons, List.countP_cons, Role.words, Role.argument?,
        Role.isStandalone, Role.isFused, List.length_cons, List.length_nil] <;>
      simp only [if_true, Bool.false_eq_true, if_false] <;>
      omega

/-- **The roles of words.** The words after a command have exactly one assignment of roles.
Extraction returns the arguments among them in order and, for each stream, the target that is given
to it last; and every word is accounted for by one role. -/
theorem extract_eq_of_hasRoles (words : List String) :
    (∃! roles, HasRoles words roles) ∧
      ∀ roles, HasRoles words roles →
        extract words = (roles.filterMap Role.argument?, lastTargets roles) ∧
        roles.flatMap Role.words = words ∧
        (extract words).1.length + 2 * roles.countP Role.isStandalone
          + roles.countP Role.isFused = words.length := by
  refine ⟨?_, fun roles h ↦ ⟨h.extract_eq, h.flatMap_words, ?_⟩⟩
  · obtain ⟨roles, h⟩ := exists_hasRoles words
    exact ⟨roles, h, fun _ h' ↦ h'.unique h⟩
  · rw [h.extract_eq, ← length_flatMap_words, h.flatMap_words]

/-- The longest operator is taken, a target may look like an operator, and an operator without a
word after it is an argument. -/
example : extract ["2>>>x", ">", ">", "y", "2>"]
    = (["y", "2>"], ⟨some ⟨">", .truncate⟩, some ⟨">x", .append⟩⟩) := by
  decide

/-! ## Words in two parts -/

/-- Whether the last word is an operator that is left as an argument. -/
def Dangling (words : List String) : Prop :=
  ∃ roles word, HasRoles words roles ∧ roles.getLast? = some (.argument word) ∧ IsOperator word

/-- Roles are assigned to two lists separately if the first one leaves no operator that could take
a word from the second. -/
theorem HasRoles.append {front back : List String} {roles others : List Role}
    (h : HasRoles front roles)
    (hlast : ∀ word, roles.getLast? = some (.argument word) → ¬IsOperator word)
    (h' : HasRoles back others) : HasRoles (front ++ back) (roles ++ others) := by
  induction h with
  | nil => exact h'
  | standalone hop hsymbol _ ih =>
    refine .standalone hop hsymbol (ih fun word hword ↦ hlast word ?_)
    rw [List.getLast?_cons, hword, Option.getD_some]
  | fused hword hlongest _ ih =>
    refine .fused hword hlongest (ih fun word hword ↦ hlast word ?_)
    rw [List.getLast?_cons, hword, Option.getD_some]
  | @argument first rest roles hoperator hattached hrest ih =>
    refine .argument ?_ hattached (ih fun word hword ↦ hlast word ?_)
    · -- An operator that is an argument has nothing after it, so it is the last.
      rintro ⟨hfirst, -⟩
      have hempty : rest = [] := not_not.mp fun hne ↦ hoperator ⟨hfirst, hne⟩
      rw [hempty] at hrest
      cases hrest
      exact hlast first rfl hfirst
    · rw [List.getLast?_cons, hword, Option.getD_some]

/-- An operator that is left at the end takes the next word if there is one. -/
theorem HasRoles.append_path {front : List String} {init : List Role} {op : Operator}
    (hop : op ∈ operators) (h : HasRoles front (init ++ [.argument op.symbol])) (path : String) :
    HasRoles (front ++ [path]) (init ++ [.standalone op path]) := by
  generalize hroles : init ++ [Role.argument op.symbol] = roles at h
  induction h generalizing init with
  | nil => simp at hroles
  | standalone hother hsymbol _ ih =>
    rcases init with _ | ⟨role, init⟩
    · simp at hroles
    · obtain ⟨rfl, htail⟩ := List.cons.inj hroles
      exact .standalone hother hsymbol (ih htail)
  | fused hword hlongest _ ih =>
    rcases init with _ | ⟨role, init⟩
    · simp at hroles
    · obtain ⟨rfl, htail⟩ := List.cons.inj hroles
      exact .fused hword hlongest (ih htail)
  | @argument word rest roles hoperator hattached hrest ih =>
    rcases init with _ | ⟨role, init⟩
    · obtain ⟨hfirst, rfl⟩ := List.cons.inj hroles
      cases hrest
      exact .standalone hop (Role.argument.inj hfirst) .nil
    · obtain ⟨rfl, htail⟩ := List.cons.inj hroles
      refine .argument ?_ hattached (ih htail)
      rintro ⟨hword, -⟩
      have hempty : rest = [] := not_not.mp fun hne ↦ hoperator ⟨hword, hne⟩
      rw [hempty] at hrest
      cases hrest
      simp at htail

/-- **Extraction composes.** The words of two lists can be told apart by themselves, whatever the
second list is, exactly if the first does not end in an operator that is left as an argument: the
arguments are those of the first list and then those of the second, and each stream goes where the
second list sends it, or else the first. And what is left holds no redirection. -/
theorem extract_append_and_extract_arguments :
    (∀ front, ¬Dangling front ↔ ∀ back,
      (extract (front ++ back)).1 = (extract front).1 ++ (extract back).1 ∧
        ∀ stream, (extract (front ++ back)).2.target? stream
          = ((extract back).2.target? stream).or ((extract front).2.target? stream)) ∧
      ∀ words, extract (extract words).1 = ((extract words).1, {}) := by
  refine ⟨fun front ↦ ⟨fun hdangling back ↦ ?_, ?_⟩,
    fun words ↦ extract_of_literal (literal_extract words)⟩
  · obtain ⟨roles, h⟩ := exists_hasRoles front
    obtain ⟨others, h'⟩ := exists_hasRoles back
    have happend := h.append (fun word hlast hword ↦ hdangling ⟨roles, word, h, hlast, hword⟩) h'
    rw [happend.extract_eq, h.extract_eq, h'.extract_eq]
    refine ⟨List.filterMap_append, fun stream ↦ ?_⟩
    rw [target?_lastTargets, target?_lastTargets, target?_lastTargets, List.filterMap_append,
      List.getLast?_append]
  · rintro happend ⟨roles, word, h, hlast, op, hop, rfl⟩
    obtain ⟨init, rfl⟩ := List.getLast?_eq_some_iff.mp hlast
    have hlength := congrArg List.length (happend [""]).1
    rw [(h.append_path hop "").extract_eq, h.extract_eq] at hlength
    simp [List.filterMap_cons, Role.argument?] at hlength

end LineShell.Redirection
