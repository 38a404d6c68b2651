import LineShell.Utility.Basic

/-!
# Utilities without files

Utilities that only show what they are given: names and their parts, sequences of numbers.
-/

namespace LineShell.Utility

/-- Succeed. Nothing that is asked for is wrong. -/
def succeed : Utility := fun _ _ ↦ return 0

/-- Fail. -/
def fail : Utility := fun _ _ ↦ return 1

/-- Print the working directory: the path of the environment if that is asked for and leads
there. -/
def pwd : Utility :=
  withOptions [⟨'L', "logical", .none⟩, ⟨'P', "physical", .none⟩] fun name parsed ↦ do
    let process ← read
    let physical := Octets.ofText process.cwd.path
    let tree := (← get).tree
    let path := match parsed.given.getLast?, process.lookUp? "PWD" with
      | some ('L', _), some path =>
        let isThere := (tree.locate process.cwd (Octets.toText path)).toOption == some process.cwd
        let isPlain := !(path.splitOn "/").any (· ∈ [".", ".."])
        if Path.isAbsolute path && isPlain && isThere then path else physical
      | _, _ => physical
    let stderr := if parsed.operands.isEmpty then ""
      else name ++ ": ignoring non-option arguments\n"
    finish name { stdout := linesToBytes [path], stderr }

/-! ## Parts of names -/

/-- A name without the slashes at its end; something remains. -/
def withoutEnd (path : String) : String :=
  let kept := (path.toList.reverse.dropWhile (· == '/')).reverse
  if kept.isEmpty then String.ofList (path.toList.take 1) else String.ofList kept

/-- The last name of a path. -/
def lastName (path : String) : String :=
  let kept := withoutEnd path
  if kept = "/" then kept
  else String.ofList (kept.toList.reverse.takeWhile (· != '/')).reverse

/-- A name without a certain end, unless nothing remains. -/
def withoutSuffix (suffix name : String) : String :=
  let length := name.length - suffix.length
  if suffix.length < name.length && name.toList.drop length == suffix.toList then
    String.ofList (name.toList.take length)
  else name

/-- Print the last names of paths. -/
def basename : Utility :=
  withOptions [⟨'a', "multiple", .none⟩, ⟨'s', "suffix", .one⟩, ⟨'z', "zero", .none⟩]
    (fun name parsed ↦
      let ending := if parsed.has 'z' then "\x00" else "\n"
      let shown (names : List String) : Job Int :=
        finish name { stdout := Octets.toBytes (String.join (names.map (· ++ ending))) }
      match parsed.has 'a' || parsed.has 's', parsed.operands with
      | _, [] => finish name (misuse name "missing operand")
      | true, paths =>
        let suffix := (parsed.value? 's').getD ""
        shown (paths.map fun path ↦ withoutSuffix suffix (lastName path))
      | false, [path] => shown [lastName path]
      | false, [path, suffix] => shown [withoutSuffix suffix (lastName path)]
      | false, _ :: _ :: extra :: _ =>
        finish name (misuse name ("extra operand " ++ quote extra)))
    false

/-- The directory in a path. -/
def directoryName (path : String) : String :=
  let kept := (withoutEnd path).toList.reverse.dropWhile (· != '/')
  match kept with
  | [] => if withoutEnd path = "/" then "/" else "."
  | _ => withoutEnd (String.ofList kept.reverse)

/-- Print the directories in paths. -/
def dirname : Utility :=
  withOptions [⟨'z', "zero", .none⟩] fun name parsed ↦
    if parsed.operands.isEmpty then finish name (misuse name "missing operand")
    else
      let ending := if parsed.has 'z' then "\x00" else "\n"
      let lines := parsed.operands.map fun path ↦ directoryName path ++ ending
      finish name { stdout := Octets.toBytes (String.join lines) }

/-! ## Numbers -/

/-- Whether a text is a length of time. -/
def isDuration (text : String) : Bool :=
  let cs := text.toList
  let digits := cs.takeWhile fun c ↦ c.isDigit || c == '.'
  let rest := cs.drop digits.length
  digits.any Char.isDigit && digits.count '.' ≤ 1
    && (rest.isEmpty || rest.length = 1 && rest.head?.any (· ∈ ['s', 'm', 'h', 'd']))

/-- Wait for lengths of time. No time passes on this machine. -/
def sleep : Utility :=
  withOptions [] fun name parsed ↦
    if parsed.operands.isEmpty then finish name (misuse name "missing operand")
    else
      let wrong := parsed.operands.filter fun operand ↦ !isDuration operand
      if wrong.isEmpty then return 0
      else
        let lines := wrong.map fun operand ↦
          name ++ ": invalid time interval " ++ quote operand ++ "\n"
        finish name
          { stderr := String.join lines ++ "Try '" ++ name ++ " --help' for more information.\n"
            status := 1 }

/-- The numbers from one to another by steps. -/
def numbersFrom (first step last : Int) : List Int :=
  if step = 0 then []
  else
    let count := ((last - first) / step + 1).toNat
    (List.range count).map fun (index : Nat) ↦ first + step * index

/-- Print a sequence of numbers. -/
def seq : Utility := fun name args ↦
  let isNegative (text : String) : Bool :=
    text.toList.head? == some '-' && (integer? text).isSome
  let args := match args.findIdx? isNegative with
    | some index => if args.contains "--" then args
      else args.take index ++ "--" :: args.drop index
    | none => args
  withOptions [⟨'s', "separator", .one⟩, ⟨'w', "equal-width", .none⟩, ⟨'f', "format", .one⟩]
    (fun name parsed ↦
      match parsed.operands.find? fun operand ↦ (integer? operand).isNone with
      | some wrong => finish name (misuse name ("invalid floating point argument: " ++ quote wrong))
      | none =>
        let separator := (parsed.value? 's').getD "\n"
        let print (numbers : List Int) : Job Int :=
          let texts := numbers.map toString
          let width := (texts.map String.length).foldl max 0
          let pad (text : String) : String :=
            let (sign, digits) := if text.toList.head? = some '-'
              then ("-", String.ofList text.toList.tail) else ("", text)
            sign ++ String.ofList (List.replicate (width - text.length) '0') ++ digits
          let texts := if parsed.has 'w' then texts.map pad else texts
          let text := separator.intercalate texts
          finish name { stdout := Octets.toBytes (if texts.isEmpty then "" else text ++ "\n") }
        match parsed.operands.filterMap integer? with
        | [last] => print (numbersFrom 1 1 last)
        | [first, last] => print (numbersFrom first 1 last)
        | [first, step, last] =>
          if step = 0 then
            finish name (misuse name ("invalid Zero increment value: "
              ++ quote (parsed.operands[1]?.getD "")))
          else print (numbersFrom first step last)
        | [] => finish name (misuse name "missing operand")
        | _ => finish name (misuse name ("extra operand "
            ++ quote (parsed.operands[3]?.getD ""))))
    false 1 name args

end LineShell.Utility
