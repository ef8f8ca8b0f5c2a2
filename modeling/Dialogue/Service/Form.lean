-- What comes with a request, and the form it must have.
import Dialogue.Editor
import Dialogue.Run.Event
import Dialogue.Json.Depth
import Dialogue.Json.Printer
import Dialogue.Json.Reader

namespace Dialogue

/-- The body of a request: none, a document, or a text that should be one. -/
inductive Body where
  | none
  | document (j : Json)
  | text (s : String)

/-- Why a body is not taken in. -/
inductive BodyFault where
  | complaints (cs : List Complaint)
  | unparsable
  /-- A complaint would send back a value that cannot be sent. -/
  | unsendable

/-- The value at a path of field names. -/
def Json.at? (j : Json) : List String → Option Json
  | [] => some j
  | key :: path =>
    match j with
    | .obj fs => (fs.lookup key).bind fun v => v.at? path
    | _ => none

/-- What a complaint about a document sends back: the value at its path, or what lacks a field. -/
def Complaint.subject (c : Complaint) (document : Json) : Json :=
  (document.at? (if c.wrong == .missing then c.path.dropLast else c.path)).getD .null

namespace Body

/-- How many lists and objects may stand inside one another in a body. -/
def mostNested : Nat := 959

/-- The most levels of a value that a complaint sends back. -/
def mostSentBack : Nat := 954

def read : Body → Except BodyFault Json
  | none => .error (.complaints [⟨["body"], .missing⟩])
  | document j => if mostNested < j.levels then .error .unparsable else .ok j
  | text s =>
    if s == "" then .error (.complaints [⟨["body"], .missing⟩])
    else
      match (Text.unpacked? s).map (Json.read mostNested) with
      | some (.ok j) => .ok j
      | some (.error (.malformed _ _)) => .error (.complaints [⟨["body"], .unreadable⟩])
      | _ => .error .unparsable

/-- The body in the form that the endpoint needs. -/
def form {α : Type} (b : Body) (check : Json → Checked α) : Except BodyFault α := do
  let document ← b.read
  match check document with
  | .good a => return a
  | .bad cs =>
    let subjects := cs.map fun c => c.subject document
    if subjects.all fun j => j.isFinite && j.levels ≤ mostSentBack then
      .error (.complaints (cs.map fun c => ⟨"body" :: c.path, c.wrong⟩))
    else .error .unsendable

end Body

/-! ## Forms -/

namespace Form

/-- A record whose fields are checked. Fields that it does not know do not matter. -/
def record {α : Type} (check : Fields → Checked α) : Json → Checked α
  | .obj fs => check fs
  | _ => .refuse .notForm

/-- A text of a list of words. -/
def word {α : Type} (ofWord? : String → Option α) : Json → Checked α
  | .str s =>
    match ofWord? s with
    | some a => .good a
    | none => .refuse .notListed
  | _ => .refuse .notListed

def optionalWord {α : Type} (ofWord? : String → Option α) : Json → Checked (Option α)
  | .null => .good none
  | j => (word ofWord? j).map some

/-- The name of a new flow has 1 to 255 characters. -/
def flowName (j : Json) : Checked String :=
  j.checkText.andThen fun s =>
    if s.length < 1 then .refuse .tooShort
    else if 255 < s.length then .refuse .tooLong
    else .good s

structure NewFlow where
  name : String
  description : String
  category : String

def newFlow : Json → Checked NewFlow :=
  record fun fs =>
    NewFlow.mk <$> Fields.required fs "name" flowName <*> Fields.text fs "description"
      <*> Fields.text fs "category" "Base"

/-- Coordinates become numbers with a fraction, and nothing else is kept. -/
def position : Json → Checked Fields :=
  record fun fs =>
    (fun x y => [("x", .float x), ("y", .float y)])
      <$> Fields.optional fs "x" 0.0 Json.checkFloat <*> Fields.optional fs "y" 0.0 Json.checkFloat

def newNode : Json → Checked (NodeKind × Fields) :=
  record fun fs =>
    Prod.mk <$> Fields.required fs "type" (word NodeKind.ofWord?)
      <*> Fields.optional fs "position" [("x", .float 0.0), ("y", .float 0.0)] position

def anyObject : Json → Checked Fields
  | .obj fs => .good fs
  | _ => .refuse .notObject

def changes : Json → Checked Fields := record fun fs => Fields.required fs "data" anyObject

structure NewEdge where
  source : String
  target : String
  handle : Option Handle

def newEdge : Json → Checked NewEdge :=
  record fun fs =>
    NewEdge.mk <$> Fields.required fs "source" Json.checkText
      <*> Fields.required fs "target" Json.checkText
      <*> Fields.optional fs "handle" none (optionalWord Handle.ofWord?)

structure NewVersion where
  changelog : String
  author : Option String

def newVersion : Json → Checked NewVersion :=
  record fun fs => NewVersion.mk <$> Fields.text fs "changelog" <*> Fields.optionalText fs "author"

def newRun : Json → Checked Channel :=
  record fun fs => Fields.optional fs "channel" .chat (word Channel.ofWord?)

def said (key : String) : Json → Checked String :=
  record fun fs => Fields.required fs key Json.checkText

end Form

end Dialogue
