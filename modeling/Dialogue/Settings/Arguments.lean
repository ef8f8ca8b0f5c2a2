-- The arguments of a command line. An argument names a setting by a flag, and the value stands
-- behind an equals sign, or it is the next argument. A flag of one letter may also have it right
-- behind. Behind a divider nothing is a flag.
import Dialogue.Settings.CommandLine
import Dialogue.Text.Letters

namespace Dialogue.CommandLine

/-! ## What an argument is -/

/-- What an argument is taken for. -/
inductive Argument where
  /-- A value, or something that belongs to nothing. -/
  | loose
  /-- A flag that is known, and the value given with it. -/
  | named (flags : List String) (target : Target) (given : Option String)
  /-- A flag that is not known. -/
  | unknown
  /-- The end of all flags. -/
  | divider

/-- The flag that an argument starts with, and the value behind the equals sign. -/
def parted (arg : String) : String × Option String :=
  match arg.splitOn "=" with
  | name :: part :: parts => (name, some ("=".intercalate (part :: parts)))
  | _ => (arg, none)

/-- Whether a text is a number below zero. One line end behind it does not matter. -/
def isNegative (text : String) : Bool :=
  let isDigit (c : Char) : Bool := (Text.digitValue? c).isSome
  let cs := text.toList
  let cs := if cs.getLast? == some '\n' then cs.dropLast else cs
  match cs with
  | '-' :: rest =>
    let whole := rest.takeWhile isDigit
    match rest.dropWhile isDigit with
    | [] => !whole.isEmpty
    | '.' :: places => !places.isEmpty && places.all isDigit
    | _ => false
  | _ => false

/-- The argument behind which nothing is a flag. -/
def isDivider : Json → Bool
  | .str text => text == "--"
  | _ => false

/-- What a flag of one letter names, with its mark. -/
def Names.lettered? (names : Names) (mark letter : Char) : Option (List String × Target) :=
  names.named? (String.ofList [mark, letter])

/-- A flag of one letter with its value right behind. -/
def lettered? (c : CommandLine) (names : Names) (arg : String) : Option Argument :=
  match arg.toList with
  | mark :: letter :: value =>
    if c.marks.toList.contains letter then none
    else
      (names.lettered? mark letter).map fun n => .named n.1 n.2 (some (String.ofList value))
  | _ => none

/-- Whether a text may be a value though it starts with a mark: a number, unless there are numbers
among the flags, or anything with a space in it. -/
def isValue (names : Names) (text : String) : Bool :=
  (isNegative text && !names.any fun n => n.1.any isNegative) || text.toList.contains ' '

/-- Takes a text for what it is. -/
def takenFor (c : CommandLine) (names : Names) (text : String) : Argument :=
  if !(text.toList.head?.any c.marks.toList.contains) then .loose
  else
    match names.named? text, parted text with
    | some n, _ => .named n.1 n.2 none
    | none, (name, given) =>
      if text.length == 1 then .loose
      else
        match (given.bind fun _ => names.named? name), c.lettered? names text with
        | some n, _ => .named n.1 n.2 given
        | none, some a => a
        | none, none => if isValue names text then .loose else .unknown

/-- Takes an argument for what it is. One that counts as not given is a value, and of a list only
the first item is looked at. -/
def classified (c : CommandLine) (names : Names) (arg : Json) : Outcome Argument :=
  if !arg.isPresent then .ok .loose
  else
    match arg with
    | .str text => .ok (c.takenFor names text)
    | .arr (.str first :: _) =>
      if Text.contains c.marks first then .error .wrongKind else .ok .loose
    | .obj _ => .error (.missingField (.int 0))
    | _ => .error .wrongKind

/-- Every argument with what it is taken for. -/
def allClassified (c : CommandLine) (names : Names) :
    List Json → Outcome (List (Json × Argument))
  | [] => .ok []
  | arg :: args =>
    if isDivider arg then .ok ((arg, .divider) :: args.map fun arg => (arg, .loose))
    else do
      let taken ← c.classified names arg
      return (arg, taken) :: (← allClassified c names args)

/-! ## Letter case -/

/-- What the first mark stands for where names are looked for. A letter or digit does not stand for
itself there, but for a control character or for nothing. -/
def firstMark? : Char → Option Char
  | 'a' => some '\x07'
  | 'f' => some '\x0c'
  | 'n' => some '\n'
  | 'r' => some '\r'
  | 't' => some '\t'
  | 'v' => some '\x0b'
  | '0' => some '\x00'
  | c => if c.isAlphanum then none else some c

/-- Whether a mark behind others can stand twice. -/
def canRepeat (mark : Char) : Bool := !"*+?^$[()|".toList.contains mark

/-- What a name can start with: all marks one after another, where the last may stand twice. -/
def starts (c : CommandLine) : Outcome (List (List Char)) :=
  match c.marks.toList with
  | [] => .error .badMarks
  | first :: more =>
    match firstMark? first, more.getLast? with
    | some first, none => .ok [[first, first], [first]]
    | some first, some last =>
      if canRepeat last then .ok [first :: more ++ [last], first :: more] else .error .badMarks
    | none, _ => .error .badMarks

/-- The name at the start of an argument, and what follows it on the same line. -/
def nameIn? (starts : List (List Char)) (arg : List Char) : Option (List Char × List Char) :=
  let isPart (c : Char) : Bool := !(Text.isBlank c || c == '=')
  starts.findSome? fun start =>
    let name := (arg.drop start.length).takeWhile isPart
    let rest := (arg.drop start.length).dropWhile isPart
    if start.isPrefixOf arg && !name.isEmpty then
      some (start ++ name, rest.takeWhile (· != '\n'))
    else none

/-- An argument with its name in lower case, if that is a flag that is known. -/
def lowered (c : CommandLine) (names : Names) (starts : List (List Char)) (arg : String) :
    String :=
  match nameIn? starts arg.toList with
  | none => arg
  | some (name, rest) =>
    let name := Text.lower (String.ofList name)
    match c.takenFor names name with
    | .named _ _ _ => name ++ String.ofList rest
    | _ => arg

/-- An argument as a text. What counts as not given is empty. -/
def textOf : Json → Outcome String
  | .str text => .ok text
  | j => if j.isPresent then .error .wrongKind else .ok ""

/-- The arguments as they are read: as they are if letter case counts, and else as texts with their
names in lower case. -/
def respelled (c : CommandLine) (names : Names) (args : List Json) : Outcome (List Json) := do
  if c.exact then return args
  let texts ← args.mapM textOf
  if texts.isEmpty then return []
  let starts ← c.starts
  return texts.map fun text => .str (c.lowered names starts text)

/-! ## Reading -/

/-- What is wrong with the arguments as a whole. -/
def refuse (c : CommandLine) (message : String) : Fault :=
  if c.ends then .quit else .badArguments ("error parsing CLI: " ++ message)

/-- What is wrong with one argument. -/
def refuseAt (c : CommandLine) (flags : List String) (message : String) : Fault :=
  c.refuse ("argument " ++ "/".intercalate flags ++ ": " ++ message)

/-- A value for a setting. A divider that is given as a value is an empty list. -/
abbrev Setting := String × Json

/-- What the arguments set, in order, and those that set nothing. -/
abbrev Reading := List Setting × List Json

/-- An argument that sets nothing, in front of what has been read. -/
def Reading.leaving (arg : Json) (r : Reading) : Reading := (r.1, arg :: r.2)

def Reading.setting (name : String) (value : Json) (r : Reading) : Reading :=
  ((name, if isDivider value then .arr [] else value) :: r.1, r.2)

/-- How the reading ends where help is asked for, with what stands right behind its letter: letters
that are flags too. The last one may take its value from the next argument. -/
def endAtHelp (c : CommandLine) (names : Names) (flags : List String) (mark : Char)
    (next : Option Argument) : List Char → Fault
  | [] => .quit
  | letter :: letters =>
    match names.lettered? mark letter, letters, next with
    | some (flags, .help), _, _ => endAtHelp c names flags mark next letters
    | some (_, .setting _), _ :: _, _ => .quit
    | some (_, .setting _), [], some .loose => .quit
    | some (flags, .setting _), [], _ => c.refuseAt flags "expected one argument"
    | none, _, _ =>
      c.refuseAt flags
        ("ignored explicit argument " ++ Text.quoted (String.ofList (letter :: letters)))

/-- The same where something is given for the flag under which help is asked for. Only behind a
single mark and a letter these can be more letters. -/
def refuseHelp (c : CommandLine) (names : Names) (flags : List String) (arg given : String)
    (next : Option Argument) : Fault :=
  match arg.toList, given.toList with
  | mark :: letter :: _, g :: gs =>
    if c.marks.toList.contains letter then
      c.refuseAt flags ("ignored explicit argument " ++ Text.quoted given)
    else c.endAtHelp names flags mark next (g :: gs)
  | _, _ => c.refuseAt flags ("ignored explicit argument " ++ Text.quoted given)

def readAll (c : CommandLine) (names : Names) : List (Json × Argument) → Outcome Reading
  | [] => .ok ([], [])
  | (arg, .divider) :: rest => .ok ([], arg :: rest.map (·.1))
  | (arg, .loose) :: rest | (arg, .unknown) :: rest =>
    (readAll c names rest).map (Reading.leaving arg)
  | (arg, .named flags .help given) :: rest =>
    match given with
    | none => .error .quit
    | some given =>
      .error (c.refuseHelp names flags arg.text given (rest.head?.map (·.2)))
  | (_, .named _ (.setting name) (some value)) :: rest =>
    (readAll c names rest).map (.setting name (.str value))
  | (_, .named _ (.setting name) none) :: (value, .loose) :: rest =>
    (readAll c names rest).map (.setting name value)
  | (_, .named flags (.setting _) none) :: _ =>
    .error (c.refuseAt flags "expected one argument")

/-- What the arguments set, in order. -/
def read (c : CommandLine) (names : Names) (args : List Json) : Outcome (List Setting) := do
  let args ← c.respelled names args
  let (set, rest) ← c.readAll names (← c.allClassified names args)
  if rest.isEmpty || c.lenient then return set
  match rest.mapM Json.str? with
  | some texts => .error (c.refuse ("unrecognized arguments: " ++ " ".intercalate texts))
  | none => .error .wrongKind

end Dialogue.CommandLine
