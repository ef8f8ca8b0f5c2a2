-- The values that arguments give. A value for an object is a row of documents and of pairs with an
-- equals sign between name and value, with commas between them, and brackets around it or not.
import Dialogue.Json.Printer
import Dialogue.Json.Reader
import Dialogue.Settings.Arguments

namespace Dialogue.CommandLine

/-! ## Items -/

/-- The part of a text before its first comma outside quotes, and what is left. -/
def takeWord (quoted escaped : Bool) : List Char → Option (List Char × List Char)
  | [] => if quoted then none else some ([], [])
  | c :: cs =>
    if c == ',' && !quoted then some ([], c :: cs)
    else
      let quoted := if c == '"' && !escaped then !quoted else quoted
      (takeWord quoted (c == '\\') cs).map fun r => (c :: r.1, r.2)

/-- The part of a text up to the bracket that closes an open one, and what is left. Other brackets
count towards the depth too. -/
def takeBracketed (close : Char) (depth : Int) (quoted escaped : Bool) :
    List Char → Option (List Char × List Char)
  | [] => none
  | c :: cs =>
    let isQuote := c == '"' && !escaped
    let change : Int :=
      if isQuote || quoted then 0
      else if c == '\x7b' || c == '[' then 1
      else if c == '\x7d' || c == ']' then -1
      else 0
    if c == close && change == -1 && depth == 1 then some ([c], cs)
    else
      (takeBracketed close (depth + change) (quoted != isQuote) (c == '\\') cs).map fun r =>
        (c :: r.1, r.2)

def dropQuotes (text : String) : String :=
  let rest := text.toList.dropWhile (· == '"')
  String.ofList (rest.reverse.dropWhile (· == '"')).reverse

/-- What stands in a value between commas. -/
inductive Item where
  | document (text : String)
  | pair (name value : String)

/-- A name and a value with an equals sign between them. -/
def Item.ofWord? (word : String) : Except String Item :=
  match parted word with
  | (_, none) => .error "not enough values to unpack (expected 2, got 1)"
  | (name, some value) =>
    if name.startsWith "\"" && !name.endsWith "\"" && !value.startsWith "\""
        && value.endsWith "\"" then
      .error ("Dictionary key=val parameter is a quoted string: " ++ word)
    else .ok (.pair (dropQuotes name) (dropQuotes value))

/-- The items of a text. Each takes at least one character, so as many steps as there are characters
suffice. -/
def items (steps : Nat) (text : List Char) : Except String (List Item) :=
  match steps, text.dropWhile Text.isBlank with
  | 0, _ | _, [] => .ok []
  | steps + 1, ',' :: rest => items steps rest
  | steps + 1, c :: rest =>
    if c == '\x7b' || c == '[' then
      let close := if c == '[' then ']' else '\x7d'
      match takeBracketed close 1 false false rest with
      | none => .error ("Missing end delimiter \"" ++ close.toString ++ "\"")
      | some (inner, rest) => do
        return .document (String.ofList (c :: inner)) :: (← items steps rest)
    else
      match takeWord false false (c :: rest) with
      | none => .error "Mismatched quotes"
      | some (word, rest) => do
        let item ← Item.ofWord? (Text.strip (String.ofList word))
        return item :: (← items steps rest)

/-- How many lists and objects may stand inside one another in a document. -/
def mostNested : Nat := 980

/-- What is wrong with a list that should hold pairs, where each has two items: one is no list, or
its key is none. The first item stands at the given place. -/
def unpaired (place : Nat) : List Json → String
  | [] => ""
  | pair :: rest =>
    match pair.elements? with
    | none =>
      "cannot convert dictionary update sequence element #" ++ toString place ++ " to a sequence"
    | some (.arr _ :: _) => "unhashable type: 'list'"
    | some (.obj _ :: _) => "unhashable type: 'dict'"
    | some _ => unpaired (place + 1) rest

/-- The entries that an item gives. A list must hold pairs. -/
def Item.entries : Item → Except String (List (Json × Json))
  | .pair name value => .ok [(.str name, .str value)]
  | .document text => do
    match ← (Json.read mostNested text).mapError (Json.ReadFault.message text) with
    | .arr xs =>
      (Json.entriesOfPairs 0 [] xs).mapError fun
        | .badValue message => message
        | _ => unpaired 0 xs
    | j => return (j.asEntries.toOption).getD []

/-- A key as it is written for a name. -/
def spelledKey : Json → String
  | .str name => name
  | j => j.write

/-- The text without the brackets around it, if there are any. -/
def unbracketed (text : String) : List Char :=
  match (Text.strip text).toList with
  | '[' :: rest => if rest.getLast? == some ']' then rest.dropLast else '[' :: rest
  | text => text

/-- The items in the values for one setting, up to the first that is no text. -/
def allItems : List Json → Except String (List Item)
  | .str text :: values => do
    let text := unbracketed text
    return (← items text.length text) ++ (← allItems values)
  | _ => .ok []

/-- The fields in the values for one setting. A later one counts. -/
def allFields (name : String) (values : List Json) : Outcome Fields :=
  let read : Except String Fields := do
    let given ← (← allItems values).mapM Item.entries
    let entries := given.flatten.foldl (fun es e => Json.putEntry es e.1 e.2) []
    return Fields.merge [] (entries.map fun e => (spelledKey e.1, e.2))
  read.mapError fun why =>
    .badArguments ("Parsing error encountered for " ++ name ++ ": " ++ why)

/-! ## Settings -/

/-- A value that is a text. One of them stands for null. -/
def textValue (c : CommandLine) (text : String) : Json :=
  if c.nullText == some text then .null else .str text

/-- The text of a list of texts. Where an item is none the list ends. -/
def listText (xs : List Json) : String :=
  let texts := xs.takeWhile fun x => x.str?.isSome
  "[" ++ ",".intercalate (texts.map Json.write) ++ "]"

/-- What a value for a setting comes to. A null sets nothing, and a list comes to its text. -/
def valueOf? (c : CommandLine) : Json → Option Json
  | .null => none
  | .str text => some (c.textValue text)
  | .arr xs => some (c.textValue (listText xs))
  | j => some j

/-- The settings that the arguments give. Those in `documents` are objects. Of several values for
another one the last counts. -/
def settings (c : CommandLine) (documents : List String) (set : List Setting) :
    List String → Outcome Fields
  | [] => .ok []
  | name :: names => do
    let values := (set.filter (·.1 == name)).map (·.2)
    let rest ← settings c documents set names
    if documents.contains name then
      let fs ← allFields (c.lead ++ name) values
      return if values.isEmpty then rest else (name, .obj fs) :: rest
    else
      return match values.getLast?.bind c.valueOf? with
        | some value => (name, value) :: rest
        | none => rest

/-- The arguments in a document are a list, or it is said whether there are any. -/
def argumentsOf (fs : Fields) : Outcome (List Json) :=
  match Controls.said? fs "_cli_parse_args" with
  | none | some (.bool _) => .ok []
  | some (.arr args) => .ok args
  | some j => if j.same (.bool false) then .ok [] else .error (.notArguments j)

/-- The settings that the arguments in a document give. -/
def fieldsOf (documents names : List String) (fs : Fields) : Outcome (Checked Fields) := do
  if (Controls.said? fs "_cli_parse_args").isNone then return .good []
  let line ← ofControls fs
  match checkChoices fs with
  | .bad complaints => return .bad complaints
  | .good _ =>
    let line := { line with shortcuts := ← shortcutsOf fs }
    let flags ← line.names names
    let set ← line.read flags (← argumentsOf fs)
    return .good (← line.settings documents set names)

end Dialogue.CommandLine
