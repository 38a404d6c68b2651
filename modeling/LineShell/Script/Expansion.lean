import LineShell.Script.Arithmetic
import LineShell.Script.State

/-!
# Expansion of words

What a word of a script comes to when it runs. An expansion comes to glyphs first, which remember
where they are from: a quoted glyph means nothing but itself, and one from the value of a variable
may divide fields. Then the glyphs are divided into fields, and last a field that is a pattern
becomes the names of the files that it fits.

Two marks stand between the glyphs. One says that a field is here even if nothing is in it, as two
quotes do; the other says that a field ends here whatever the separators are, as it does between the
arguments of a script.

Where only one text is possible, as in an assignment, the glyphs are that text.
-/

namespace LineShell.Script

/-- What an expansion comes to, in order. -/
inductive Mark where
  | glyph (glyph : Glyph)
  /-- A field is here. -/
  | presence
  /-- A field ends here. -/
  | gap
  deriving DecidableEq, Repr

/-- How a word is expanded. -/
structure Expander where
  /-- What a list of commands writes. -/
  substitute : Statement → Act String
  /-- Whether there can be several fields. -/
  splits : Bool := false
  /-- Whether a tilde may follow a colon, as in a search path. -/
  afterColons : Bool := false

/-! ## Marks -/

/-- The marks of a text that stands for itself. -/
def quotedMarks (text : String) : List Mark :=
  text.toList.map fun char ↦ .glyph ⟨char, true, false⟩

/-- The marks of the value of an expansion. -/
def valueMarks (quoted : Bool) (text : String) : List Mark :=
  if quoted then .presence :: quotedMarks text
  else text.toList.map fun char ↦ .glyph ⟨char, false, true⟩

/-- The glyphs of marks where there is only one field. -/
def glyphsOf (marks : List Mark) : List Glyph :=
  marks.filterMap fun
    | .glyph glyph => some glyph
    | _ => none

/-- The marks of a text in which no value has a NUL, so that one says where a field ends. -/
def listMarks (quoted : Bool) (text : String) : List Mark :=
  if quoted then ((text.splitOn "\x00").map (valueMarks true)).intersperse [.gap] |>.flatten
  else valueMarks false text

/-- The arguments as one text, `isEach` if quotes keep them apart. Where they come to different
fields a NUL stands between them. -/
def joinedArguments (run : Run) (splits quoted isEach : Bool) : String :=
  let separator := if splits && (isEach || !quoted) then "\x00"
    else String.ofList (run.separators.take 1)
  separator.intercalate run.arguments

/-- The marks of all arguments, of which there may be none. -/
def argumentMarks (run : Run) (splits quoted isEach : Bool) : List Mark :=
  if splits && quoted && isEach && run.arguments.isEmpty then []
  else listMarks quoted (joinedArguments run splits quoted isEach)

/-! ## Home directories -/

/-- The home directories of the users. -/
def homes : List (String × String) :=
  [("root", "/root"), ("daemon", "/usr/sbin"), ("bin", "/bin"), ("sys", "/dev"),
    ("sync", "/bin"), ("games", "/usr/games"), ("man", "/var/cache/man"),
    ("lp", "/var/spool/lpd"), ("mail", "/var/mail"), ("news", "/var/spool/news"),
    ("uucp", "/var/spool/uucp"), ("proxy", "/bin"), ("www-data", "/var/www"),
    ("backup", "/var/backups"), ("list", "/var/list"), ("irc", "/run/ircd"),
    ("nobody", "/nonexistent")]

/-- The home directory of a user; without a name, that of the script's own. -/
def home? (run : Run) (name : String) : Option String :=
  if name = "" then run.lookUp? "HOME"
  else (homes.find? fun entry ↦ entry.1 = name).map Prod.snd

/-- The marks of an unquoted literal. A tilde at its start becomes a home directory, if the name
after it is complete. -/
def literalMarks (run : Run) (afterColons divides isLast : Bool) :
    Nat → (mayBeHome : Bool) → List Char → List Mark
  | 0, _, _ | _, _, [] => []
  | steps + 1, mayBeHome, c :: rest =>
    let plain := Mark.glyph ⟨c, false, divides⟩
    let goOn := literalMarks run afterColons divides isLast steps
    let isColon := afterColons && c == ':'
    if c = '~' && mayBeHome then
      let name := rest.takeWhile fun c ↦ c != '/' && !(afterColons && c == ':')
      let after := rest.drop name.length
      match (if after.isEmpty && !isLast then none else home? run (String.ofList name)) with
      | some home => quotedMarks home ++ goOn false after
      | none => plain :: goOn false rest
    else plain :: goOn isColon rest

/-! ## Parameters -/

/-- Whether a parameter is the list of all arguments. -/
def isList (name : String) : Bool :=
  name = "@" || name = "*"

/-- The value of a parameter as one text, if it is set. -/
def textOf? (how : Expander) (quoted : Bool) (run : Run) (name : String) : Option String :=
  if isList name then some (joinedArguments run how.splits quoted (name == "@"))
  else run.parameter? name

/-- The marks of the value of a parameter. -/
def parameterMarks (how : Expander) (quoted : Bool) (name : String) : Act (List Mark) := do
  let run ← get
  if isList name then return argumentMarks run how.splits quoted (name == "@")
  match run.parameter? name with
  | some value => return valueMarks quoted value
  | none =>
    if run.has 'u' then Act.fail (name ++ ": parameter not set")
    return valueMarks quoted ""

/-- The text of a parameter, from which something is cut off or whose length is asked for, if it is
set. -/
def demandedText? (how : Expander) (quoted : Bool) (name : String) : Act (Option String) := do
  let run ← get
  let text? := textOf? how quoted run name
  if text?.isNone && run.has 'u' then Act.fail (name ++ ": parameter not set")
  return text?

/-- Whether a parameter has no value, or an empty one if that is the same. -/
def isMissing (how : Expander) (quoted : Bool) (name : String) (orEmpty : Bool) : Act Bool := do
  match textOf? how quoted (← get) name with
  | none => return true
  | some value => return orEmpty && value.isEmpty

/-! ## Arithmetic -/

/-- The value of an arithmetic expression. What it assigns is assigned. -/
def arithmeticValue (text : String) : Act String := do
  let run ← get
  match Arithmetic.evaluate (fun name ↦ (run.lookUp? name).getD "") text with
  | .ok (value, assigned) =>
    assigned.forM fun (name, value) ↦ Act.assign name (toString value)
    return toString value
  | .error problem =>
    let about (message : String) : String :=
      "arithmetic expression: " ++ message ++ ": \"" ++ text ++ "\""
    match problem with
    | .expecting what => Act.fail (about ("expecting " ++ what))
    | .divisionByZero => Act.fail (about "division by zero")
    | .illegalNumber number => Act.fail ("Illegal number: " ++ number)

/-! ## Pieces -/

mutual

/-- The marks of a piece. -/
def pieceMarks (how : Expander) (divides : Bool) : Piece → Act (List Mark)
  | .literal text true => return .presence :: quotedMarks text
  | .literal text false => do
    return literalMarks (← get) how.afterColons divides false (text.length + 1) false text.toList
  | .parameter name use quoted => useMarks how quoted name use
  | .command body quoted => do return valueMarks quoted (← how.substitute body)
  | .arithmetic expression quoted => do
    let marks ← wordMarks { how with splits := false } false false expression
    return valueMarks quoted (← arithmeticValue (textOf (glyphsOf marks)))

/-- The marks of what is done with the value of a parameter. -/
def useMarks (how : Expander) (quoted : Bool) (name : String) : Use → Act (List Mark)
  | .value => parameterMarks how quoted name
  | .length => do
    let text? ← demandedText? { how with splits := false } quoted name
    return valueMarks quoted (toString (text?.getD "").length)
  | .invalid => Act.fail "Bad substitution"
  | .default orEmpty word => do
    if ← isMissing how quoted name orEmpty then
      let marks ← wordMarks how true (!quoted) word
      return if quoted then .presence :: marks else marks
    else parameterMarks how quoted name
  | .assign orEmpty word => do
    if ← isMissing how quoted name orEmpty then
      let marks ← wordMarks { how with splits := false } true (!quoted) word
      if !isName name then Act.fail (name ++ ": bad variable name")
      Act.assign name (textOf (glyphsOf marks))
    parameterMarks how quoted name
  | .demand orEmpty word => do
    if ← isMissing how quoted name orEmpty then
      let marks ← wordMarks { how with splits := false } true false word
      let problem := if word.isEmpty then
          if orEmpty then "parameter not set or null" else "parameter not set"
        else textOf (glyphsOf marks)
      Act.fail (name ++ ": " ++ problem)
    else parameterMarks how quoted name
  | .instead orEmpty word => do
    if ← isMissing how quoted name orEmpty then return if quoted then [.presence] else []
    let marks ← wordMarks how true (!quoted) word
    return if quoted then .presence :: marks else marks
  | .trim atEnd longest pattern => do
    match ← demandedText? how quoted name with
    | none => return valueMarks quoted ""
    | some text =>
      let marks ← wordMarks { how with splits := false } true false pattern
      let atoms := Pattern.read (glyphsOf marks)
      let cut := if atEnd then Pattern.cutEnd else Pattern.cutStart
      return listMarks quoted (String.ofList (cut atoms longest text.toList))

/-- The marks of a word, and whether it may begin with a home directory. -/
def wordMarks (how : Expander) (isStart divides : Bool) : List Piece → Act (List Mark)
  | [] => return []
  | .literal text false :: rest => do
    let marks := literalMarks (← get) how.afterColons divides rest.isEmpty (text.length + 1)
      isStart text.toList
    return marks ++ (← wordMarks how false divides rest)
  | piece :: rest => do
    let marks ← pieceMarks how divides piece
    return marks ++ (← wordMarks how false divides rest)

end

/-! ## Fields -/

/-- How far marks have been divided. Lists have what was added last in front. -/
structure Division where
  fields : List (List Glyph) := []
  current : List Glyph := []
  /-- Whether the field that is being built is there even if it is empty. -/
  isPresent : Bool := false
  /-- Whether a blank that divides fields came last. -/
  afterBlank : Bool := false

namespace Division

/-- End the field that is being built. -/
def close (division : Division) (afterBlank : Bool) : Division where
  fields := division.current.reverse :: division.fields
  afterBlank

/-- Go on with a mark. A separator that is a blank divides as often as others do only once. -/
def step (separators : List Char) (division : Division) : Mark → Division
  | .presence => { division with isPresent := true, afterBlank := false }
  | .gap => { division.close false with isPresent := true }
  | .glyph glyph =>
    if glyph.divides && (separators.contains glyph.char || glyph.char = '\x00') then
      let isBlank := glyph.char ∈ [' ', '\t', '\n', '\x00']
      if division.afterBlank then { division with afterBlank := isBlank }
      else if isBlank && !division.isPresent then division
      else division.close isBlank
    else
      { division with
        current := glyph :: division.current
        isPresent := true
        afterBlank := false }

/-- The fields when all marks have been divided. -/
def finish (division : Division) : List (List Glyph) :=
  let last := if division.isPresent then [division.current.reverse] else []
  division.fields.reverse ++ last

end Division

/-- The fields of marks. -/
def divide (separators : List Char) (marks : List Mark) : List (List Glyph) :=
  (marks.foldl (Division.step separators) {}).finish

/-! ## Files -/

/-- Whether glyphs are a pattern that fits more than one text. -/
def isPattern (glyphs : List Glyph) : Bool :=
  (Pattern.read glyphs).any Pattern.Atom.isOpen

/-- The names in a directory that a pattern fits. A point at the start of a name must be written
down. -/
def namesThatFit (directory : String) (pattern : List Glyph) : Act (List String) := do
  let atoms := Pattern.read pattern
  match ← Act.job (Job.list (if directory = "" then "." else directory)) with
  | .error _ => return []
  | .ok names =>
    let isHidden := atoms.head? = some (.char '.')
    return ("." :: ".." :: names).filter fun name ↦
      Pattern.fits atoms name.toList && (isHidden || name.toList.head? != some '.')

/-- The paths that the steps of a pattern fit, after a path that ends in a slash. -/
def pathsThatFit (path : String) : List (List Glyph) → Act (List String)
  | [] => return []
  | [last] => do
    if isPattern last then return (← namesThatFit path last).map (path ++ ·)
    let whole := path ++ textOf last
    match ← Act.job (Job.linkStat whole) with
    | .ok _ => return [whole]
    | .error _ => return []
  | step :: rest => do
    if isPattern step then
      let names ← namesThatFit path step
      return (← names.mapM fun name ↦ pathsThatFit (path ++ name ++ "/") rest).flatten
    else pathsThatFit (path ++ textOf step ++ "/") rest

/-- The steps of a pattern, which slashes separate. -/
def patternSteps (glyphs : List Glyph) : List (List Glyph) :=
  let (step, steps) := glyphs.foldr (fun glyph (step, steps) ↦
    if glyph.char = '/' then ([], step :: steps) else (glyph :: step, steps)) ([], [])
  step :: steps

/-- The files that a field stands for; a field that fits none stands for itself. -/
def filesOf (field : List Glyph) : Act (List String) := do
  if (← get).has 'f' || !isPattern field then return [textOf field]
  match ← pathsThatFit "" (patternSteps field) with
  | [] => return [textOf field]
  | paths => return paths.mergeSort fun a b ↦ decide (a ≤ b)

/-! ## Words -/

/-- The fields that a word comes to. -/
def fieldsOf (how : Expander) (word : Word) : Act (List String) := do
  let marks ← wordMarks { how with splits := true } true false word
  return (← (divide (← get).separators marks).mapM filesOf).flatten

/-- The glyphs of a word where there is only one field. -/
def glyphsOfWord (how : Expander) (word : Word) : Act (List Glyph) := do
  return glyphsOf (← wordMarks { how with splits := false } true false word)

/-- The text of a word where there is only one field. -/
def textOfWord (how : Expander) (word : Word) : Act String := do
  return textOf (← glyphsOfWord how word)

/-- The value of a word that is assigned. -/
def valueOfWord (how : Expander) (word : Word) : Act String :=
  textOfWord { how with afterColons := true } word

end LineShell.Script
