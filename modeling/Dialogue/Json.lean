-- Values as they stand in documents, before anything is known of their shape: when two are the
-- same, which can be a key, which count as present, how they are ordered, and their text.
import Dialogue.Decimal
import Dialogue.Text.Printable

namespace Dialogue

/-- A value of a document. A number is whole or has a fraction by the way it is written, and the
fields of an object stand in the order they came in. -/
inductive Json where
  | null
  | bool (b : Bool)
  | int (n : Int)
  | float (x : Float)
  | str (s : String)
  | arr (items : List Json)
  | obj (fields : List (String × Json))
  /-- Entries under any simple values. No text of a document says this, but a list of pairs can be
  taken for it. -/
  | table (entries : List (Json × Json))

instance : Inhabited Json := ⟨.null⟩

/-- The fields of an object. -/
abbrev Fields := List (String × Json)

namespace Json

def ofOption : Option String → Json
  | some s => .str s
  | none => .null

/-! ## Numbers -/

/-- The numeric value of a number. A truth value counts as zero or one. -/
inductive Number where
  | exact (d : Dyadic64)
  | infinite (negative : Bool)
  | undefined

def number? : Json → Option Number
  | .bool b => some (.exact ⟨if b then 1 else 0, 0⟩)
  | .int n => some (.exact ⟨n, 0⟩)
  | .float x =>
    match magnitude x with
    | .finite b => some (.exact b.toDyadic)
    | .infinite negative => some (.infinite negative)
    | .undefined => some .undefined
  | _ => none

def Number.same : Number → Number → Bool
  | .exact a, .exact b => a.numerator * twoTo b.places == b.numerator * twoTo a.places
  | .infinite a, .infinite b => a == b
  | .undefined, .undefined => true
  | _, _ => false

def Number.below : Number → Number → Bool
  | .exact a, .exact b => a.numerator * twoTo b.places < b.numerator * twoTo a.places
  | .exact _, .infinite negative => !negative
  | .infinite negative, .exact _ => negative
  | .infinite a, .infinite b => a && !b
  | _, _ => false

/-! ## Sameness -/

def sameScalar : Json → Json → Bool
  | .null, .null => true
  | .str a, .str b => a == b
  | a, b =>
    match a.number?, b.number? with
    | some m, some n => m.same n
    | _, _ => false

mutual

/-- Two values are the same when they hold the same. Numbers compare by value, whatever way they are
written, and the order of an object's fields does not matter. -/
def same : Json → Json → Bool
  | .arr xs, .arr ys => sameItems xs ys
  | .obj xs, .obj ys => xs.length == ys.length && sameFields xs ys
  | .table xs, .table ys => xs.length == ys.length && sameEntries xs ys
  | a, b => sameScalar a b
  termination_by structural a => a

def sameItems : List Json → List Json → Bool
  | [], [] => true
  | x :: xs, y :: ys => same x y && sameItems xs ys
  | _, _ => false
  termination_by structural xs => xs

/-- Every field of the first is in the second with the same value. -/
def sameFields : List (String × Json) → List (String × Json) → Bool
  | [], _ => true
  | (k, v) :: rest, ys =>
    (match ys.lookup k with
      | some w => same v w
      | none => false) && sameFields rest ys
  termination_by structural xs => xs

/-- Every entry of the first is in the second with the same value. -/
def sameEntries : List (Json × Json) → List (Json × Json) → Bool
  | [], _ => true
  | (k, v) :: rest, ys =>
    (match ys.find? fun e => sameScalar e.1 k with
      | some e => same v e.2
      | none => false) && sameEntries rest ys
  termination_by structural xs => xs

end

/-- Whether two values are equal. An undefined number is the same as itself, but equals nothing. -/
def equals (a b : Json) : Bool :=
  match a with
  | .float x => !x.isNaN && same a b
  | _ => same a b

/-- Whether the list holds the value. -/
def isIn (x : Json) (xs : List Json) : Bool := xs.any (same x)

/-- Only a simple value can be looked up by value. -/
def isKey : Json → Bool
  | .arr _ => false
  | .obj _ => false
  | .table _ => false
  | _ => true

/-- Whether a value counts as given: not null, not false, not zero and not empty. -/
def isPresent : Json → Bool
  | .null => false
  | .bool b => b
  | .int n => n != 0
  | .float x => x != 0.0
  | .str s => s != ""
  | .arr xs => !xs.isEmpty
  | .obj fs => !fs.isEmpty
  | .table es => !es.isEmpty

/-- The value, or another one where it does not count as given. -/
def orElse (j other : Json) : Json := if j.isPresent then j else other

/-- What a value yields when it is gone through: the items of a list, the characters of a text, the
keys of an object or a table. -/
def elements? : Json → Option (List Json)
  | .arr xs => some xs
  | .str s => some (s.toList.map fun c => .str c.toString)
  | .obj fs => some (fs.map fun f => .str f.1)
  | .table es => some (es.map (·.1))
  | _ => none

/-! ## Order -/

mutual

/-- Whether the first comes before the second. Texts compare with texts, numbers with numbers and
lists with lists, and nothing else compares. -/
def before? : Json → Json → Option Bool
  | .arr xs, .arr ys => itemsBefore? xs ys
  | .str a, .str b => some (a < b)
  | a, b =>
    match a.number?, b.number? with
    | some m, some n => some (m.below n)
    | _, _ => none

/-- Lists compare by the first items that differ, and else the shorter one comes first. -/
def itemsBefore? : List Json → List Json → Option Bool
  | [], ys => some !ys.isEmpty
  | _ :: _, [] => some false
  | x :: xs, y :: ys => if same x y then itemsBefore? xs ys else before? x y

end

/-! ## Text -/

mutual

/-- A value as it is shown inside a sentence, with texts between quotation marks. -/
def quoted : Json → String
  | .null => "None"
  | .bool b => if b then "True" else "False"
  | .int n => toString n
  | .float x => shortestText x
  | .str s => Text.quoted s
  | .arr xs => "[" ++ ", ".intercalate (quotedItems xs) ++ "]"
  | .obj fs => "\x7b" ++ ", ".intercalate (quotedFields fs) ++ "\x7d"
  | .table es => "\x7b" ++ ", ".intercalate (quotedEntries es) ++ "\x7d"

def quotedItems : List Json → List String
  | [] => []
  | x :: xs => quoted x :: quotedItems xs

def quotedFields : List (String × Json) → List String
  | [] => []
  | (k, v) :: fs => (Text.quoted k ++ ": " ++ quoted v) :: quotedFields fs

def quotedEntries : List (Json × Json) → List String
  | [] => []
  | (k, v) :: es => (quoted k ++ ": " ++ quoted v) :: quotedEntries es

end

/-- The text of a value. A text is its own text. -/
def text : Json → String
  | .str s => s
  | x => quoted x

/-- A text and nothing else. -/
def str? : Json → Option String
  | .str s => some s
  | _ => none

end Json

/-! ## Fields -/

namespace Fields

/-- Sets a field. One that is there keeps its place. -/
def put {α : Type} (fields : List (String × α)) (key : String) (value : α) : List (String × α) :=
  match fields with
  | [] => [(key, value)]
  | (k, v) :: rest => if k == key then (key, value) :: rest else (k, v) :: put rest key value

/-- The first fields with the second set over them. -/
def merge {α : Type} (fields more : List (String × α)) : List (String × α) :=
  more.foldl (fun acc f => put acc f.1 f.2) fields

end Fields

/-! ## Entries -/

namespace Json

/-- The value under a key. -/
def entry? (entries : List (Json × Json)) (key : Json) : Option Json :=
  (entries.find? fun e => sameScalar e.1 key).map (·.2)

/-- Sets the value under a key. One that is there stays as it is written, and keeps its place. -/
def putEntry (entries : List (Json × Json)) (key value : Json) : List (Json × Json) :=
  match entries with
  | [] => [(key, value)]
  | (k, v) :: rest =>
    if sameScalar k key then (k, value) :: rest else (k, v) :: putEntry rest key value

/-- The entries as fields, if all their keys are texts. -/
def fieldsOfEntries? : List (Json × Json) → Option Fields
  | [] => some []
  | (.str k, v) :: rest => (fieldsOfEntries? rest).map ((k, v) :: ·)
  | _ => none

/-- An object where all keys are texts, and else a table. -/
def ofEntries (entries : List (Json × Json)) : Json :=
  match fieldsOfEntries? entries with
  | some fs => .obj fs
  | none => .table entries

mutual

/-- The value with an object for every table in it. The keys are spelled as given, and of two keys
with one spelling the later value counts. -/
def spelled (spell : Json → String) : Json → Json
  | .arr xs => .arr (spelledItems spell xs)
  | .obj fs => .obj (spelledFields spell fs)
  | .table es => .obj (spelledEntries spell [] es)
  | j => j

def spelledItems (spell : Json → String) : List Json → List Json
  | [] => []
  | x :: xs => spelled spell x :: spelledItems spell xs

def spelledFields (spell : Json → String) : List (String × Json) → List (String × Json)
  | [] => []
  | (k, v) :: fs => (k, spelled spell v) :: spelledFields spell fs

def spelledEntries (spell : Json → String) (fields : Fields) :
    List (Json × Json) → List (String × Json)
  | [] => fields
  | (k, v) :: es => spelledEntries spell (Fields.put fields (spell k) (spelled spell v)) es

end

end Json

end Dialogue
