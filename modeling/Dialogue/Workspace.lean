-- The workspace: a store of flows, and a desk on which one of them is open for editing. What is
-- done on the desk is done to the stored flow too, as long as it is the one that the desk was
-- opened with. Publishing comes first, and the labels under which it is done.
import Dialogue.Editor
import Dialogue.Settings
import Dialogue.Store
import Dialogue.Validation

namespace Dialogue

/-! ## Version labels

The part before the first point is the major number, and a publish raises it by one. A label that
does not start with a number counts as number 0. -/

namespace Label

/-- The major number. Neither a part that is no number nor one with too many digits counts. -/
def major (label : String) : Int :=
  (Text.readNumeral (label.toList.takeWhile (· != '.'))).toOption.getD 0

/-- The number in decimal, unless it has too many digits. -/
def decimal (n : Int) : Outcome String :=
  if tenTo Text.digitLimit ≤ n.natAbs then .error .tooManyDigits else .ok (toString n)

/-- The label of the next major version. -/
def next (label : String) : Outcome String := do
  let n ← decimal (major label + 1)
  return n ++ ".0"

/-- The next label of a flow. A label that is no text has none. -/
def nextOf (label : Json) : Outcome String :=
  match label with
  | .str s => next s
  | _ => .error .noSuchPart

end Label

/-! ## Publishing

A publish keeps a snapshot of the graph under the next major label, and a rollback points the flow
back at the label of an older snapshot without touching the graph. -/

namespace Flow

/-- The snapshot of the flow that a publish makes. -/
def snapshot (f : Flow) (now : Int) (nextId : Nat) (label : String) (changelog author : Json) :
    Version :=
  ⟨Ids.tagged "v" nextId, label, now, author, changelog, f.nodes, f.edges⟩

/-- The flow with the version at the end of its history. -/
def withVersion (f : Flow) (now : Int) (v : Version) : Flow :=
  { f with
    versions := f.versions ++ [v]
    label := .str v.label
    status := .published
    updatedAt := now }

def saved (f : Flow) (now : Int) : Flow := { f with updatedAt := now }

/-- The flow under the label of one of its versions. -/
def rolledBack (f : Flow) (now : Int) (v : Version) : Flow :=
  { f with label := .str v.label, status := .draft, updatedAt := now }

/-- The versions as they are listed, the newest first. -/
def history (f : Flow) : List Fields := f.versions.reverse.map Version.summary

end Flow

/-! ## The desk -/

/-- What is saved, published and rolled back. -/
inductive Keeping where
  | nothing
  /-- The flow on the desk. The baseline is its graph when it was opened, saved or published
  last. -/
  | own (baseline : Json)
  /-- A flow that was opened before the one on the desk. -/
  | earlier (flow : Flow) (linked : Bool) (baseline : Json)

structure Desk where
  editor : Editor
  /-- Whether the flow on the desk is the stored one. -/
  linked : Bool := true
  keeping : Keeping

namespace Keeping

/-- What is kept when another flow than the given one comes on the desk, or that flow again. -/
def carriedOver (k : Keeping) (onDesk : Flow) (linked : Bool) (next : Flow) : Keeping :=
  match k with
  | nothing => nothing
  | own b => if linked && onDesk.id.same next.id then own b else earlier onDesk linked b
  | earlier f l b => if l && f.id.same next.id then own b else earlier f l b

/-- An earlier flow that has the id loses its link to the store. -/
def unlinked (id : Json) : Keeping → Keeping
  | earlier f l b => earlier f (l && !f.id.same id) b
  | k => k

end Keeping

namespace Desk

def flow (d : Desk) : Flow := d.editor.flow

/-- The flow that is saved, published and rolled back. -/
def kept? (d : Desk) : Option Flow :=
  match d.keeping with
  | .nothing => none
  | .own _ => some d.flow
  | .earlier f _ _ => some f

def isDirty (d : Desk) : Bool :=
  match d.keeping with
  | .nothing => false
  | .own b => !d.flow.graph.same b
  | .earlier f _ b => !f.graph.same b

/-- The desk when its flow has just been opened and a copy of the graph was made. -/
def opened (f : Flow) : Desk := { editor := { flow := f }, keeping := .own f.graph }

/-- The same without a copy, so that what was kept before is kept still. -/
def halfOpened (before : Option Desk) (f : Flow) : Desk where
  editor := { flow := f }
  keeping := (before.map fun d => d.keeping.carriedOver d.flow d.linked f).getD .nothing

def withFlow (d : Desk) (f : Flow) : Desk := { d with editor := { d.editor with flow := f } }

/-- The desk with a change of the flow that is kept. -/
def withKept (d : Desk) (f : Flow) : Desk :=
  match d.keeping with
  | .nothing => d
  | .own _ => d.withFlow f
  | .earlier _ l b => { d with keeping := .earlier f l b }

/-- A desk whose flows have the id loses their links to the store. -/
def unlinked (id : Json) (d : Desk) : Desk :=
  { d with
    linked := d.linked && !d.flow.id.same id
    keeping := d.keeping.unlinked id }

/-- The desk when the flow that is kept has just been stored. -/
def relinked (d : Desk) : Desk :=
  match d.keeping with
  | .nothing => d
  | .own _ => { d with linked := true }
  | .earlier f _ b => { d.unlinked f.id with keeping := .earlier f true b }

/-- The desk with the graph as it stands for its baseline. -/
def settled (d : Desk) : Desk :=
  match d.keeping with
  | .nothing => d
  | .own _ => { d with keeping := .own d.flow.graph }
  | .earlier f l _ => { d with keeping := .earlier f l f.graph }

end Desk

structure Workspace where
  store : Store := {}
  desk : Option Desk := none
  /-- The number of the next id. -/
  nextId : Nat := 1

/-- What the workspace works with: its settings and its palette, and the room for copies. -/
structure Setup where
  settings : Settings
  palette : Palette
  room : Room

namespace Workspace

/-! ## Flows -/

/-- A flow of the store. An id that cannot be looked up is a fault. -/
def find (w : Workspace) (id : Json) : Outcome Flow :=
  if id.isKey then
    match w.store.get? id with
    | some f => .ok f
    | none => .error (.flow (.notFound id))
  else .error .wrongKind

/-- Puts a flow into the store. A desk that holds an older flow of that id loses its link. -/
def shelve (w : Workspace) (f : Flow) : Workspace :=
  { w with store := w.store.put f, desk := w.desk.map (Desk.unlinked f.id) }

/-- Stores a flow without any check. -/
def load (w : Workspace) (f : Flow) : Outcome Workspace :=
  if f.id.isKey then .ok (w.shelve f) else .error .wrongKind

/-- A new draft with a start node and nothing else. The start node gets the first of two new ids. -/
def createFlow (s : Setup) (w : Workspace) (now : Int) (name description category : Json) :
    Workspace × Outcome Flow :=
  match Clock.dated now, (s.palette.current .start).newData (s.room.steps - 1) with
  | .error fault, _ => (w, .error fault)
  | _, .error fault => ({ w with nextId := w.nextId + 1 }, .error fault)
  | .ok now, .ok data =>
    let position := s.settings.canvas.startPosition.map fun p => (Json.str p.1, Json.float p.2)
    let start : Node := ⟨.str (Ids.tagged NodeKind.start.word w.nextId), data, position, []⟩
    let f : Flow := {
      id := .str (Ids.full (w.nextId + 1))
      name, description, category
      status := .draft
      label := .str s.settings.versioning.initialVersion
      nodes := [start]
      edges := []
      createdAt := now
      updatedAt := now }
    ({ w.shelve f with nextId := w.nextId + 2 }, .ok f)

/-- The name of a copy, which is made from the name of the flow where no other is given. -/
def copyName (name given : Json) : Json := given.orElse (.str (name.text ++ " (Copy)"))

/-- A copy of a flow, as a new draft without versions. Its id is made before its parts are
copied. -/
def duplicateFlow (s : Setup) (w : Workspace) (now : Int) (id name : Json) :
    Workspace × Outcome Flow :=
  match w.find id, Clock.dated now with
  | .error fault, _ => (w, .error fault)
  | _, .error fault => (w, .error fault)
  | .ok source, .ok now =>
    let f : Flow := { source with
      id := .str (Ids.full w.nextId)
      name := copyName source.name name
      status := .draft
      label := .str s.settings.versioning.initialVersion
      versions := []
      createdAt := now
      updatedAt := now }
    if s.room.steps < source.partsCopyDepth + 1 then
      ({ w with nextId := w.nextId + 1 }, .error .tooDeep)
    else ({ w.shelve f with nextId := w.nextId + 1 }, .ok f)

/-- A flow that is deleted is taken off the desk. One whose id is an undefined number stays there,
without its link. -/
def deleteFlow (w : Workspace) (id : Json) : Workspace × Outcome Unit :=
  match w.find id with
  | .error fault => (w, .error fault)
  | .ok _ =>
    ({ w with
        store := w.store.erase id
        desk := (w.desk.filter fun d => !d.flow.id.equals id).map (Desk.unlinked id) }, .ok ())

/-- What a flow must be for an import: readable, new, and without errors. -/
def checkImport (s : Setup) (w : Workspace) (now : Int) (data : Json) : Outcome Flow := do
  let f ←
    match Flow.ofJson (s.room.steps - 1) now data with
    | .ok f => pure f
    | .error fault =>
      if fault.isAboutData then
        .error (.flow (.invalid (.str ("Invalid flow data: " ++ fault.reason)) .null))
      else .error fault
  if !f.id.isKey then .error .wrongKind
  if w.store.has f.id then .error (.flow (.alreadyExists f.id))
  let report ← f.validate s.settings.canvas.maxNodes now
  if report.valid then return f
  else
    .error (.flow (.invalid
      (.str ("Flow breaks " ++ toString report.errors.length ++ " graph rule(s)"))
      (.arr (report.errors.map Issue.toJson))))

def importFlow (s : Setup) (w : Workspace) (now : Int) (data : Json) : Workspace × Outcome Flow :=
  match w.checkImport s now data with
  | .ok f => (w.shelve f, .ok f)
  | .error fault => (w, .error fault)

def validateFlow (s : Setup) (w : Workspace) (now : Int) (id : Json) : Outcome Report := do
  let f ← w.find id
  f.validate s.settings.canvas.maxNodes now

/-! ## The desk -/

/-- Opens a flow. What was on the desk before stays in the store. Where there is no room for a copy
of the graph, the flow can be edited all the same, but not saved. -/
def openFlow (room : Nat) (w : Workspace) (id : Json) : Workspace × Outcome Flow :=
  match w.find id with
  | .ok f =>
    if room < f.graph.copyDepth + 4 then
      ({ w with desk := some (Desk.halfOpened w.desk f) }, .error .tooDeep)
    else ({ w with desk := some (Desk.opened f) }, .ok f)
  | .error fault => (w, .error fault)

def onDesk (w : Workspace) : Outcome Desk :=
  match w.desk with
  | some d => .ok d
  | none => .error (.flow .noneSelected)

/-- The desk, and the flow that is kept there. -/
def inKeeping (w : Workspace) : Outcome (Desk × Flow) := do
  let d ← w.onDesk
  match d.kept? with
  | some f => return (d, f)
  | none => .error (.flow .noneSelected)

def isDirty (w : Workspace) : Bool := w.desk.any Desk.isDirty

/-- Puts the desk back. The stored flow follows it while the two are linked. -/
def keep (w : Workspace) (d : Desk) : Workspace :=
  { w with desk := some d, store := if d.linked then w.store.put d.flow else w.store }

/-- An edit of the open flow. -/
def edit (s : Setup) (w : Workspace) (e : Edit) : Workspace × Reply :=
  match w.onDesk with
  | .error fault => (w, .failed fault)
  | .ok d =>
    let r := d.editor.perform s.palette s.settings.canvas.duplicateOffset s.room.steps w.nextId e
    ({ w.keep { d with editor := r.editor } with nextId := r.nextId }, r.reply)

/-! ## Versions -/

/-- Stores the flow that is kept as it has become. -/
def file (w : Workspace) (d : Desk) (f : Flow) : Workspace :=
  { w with desk := some (d.withKept f).relinked, store := w.store.put f }

/-- The same, with its graph for a new baseline if there is room to copy it. -/
def settle {α : Type} (room : Nat) (w : Workspace) (d : Desk) (f : Flow) (a : α) :
    Workspace × Outcome α :=
  let w := w.file d f
  if room < f.graph.copyDepth + 2 then (w, .error .tooDeep)
  else ({ w with desk := w.desk.map Desk.settled }, .ok a)

/-- Keeps the flow as it stands, without a version. -/
def save (s : Setup) (w : Workspace) (now : Int) : Workspace × Outcome Flow :=
  match w.inKeeping, Clock.dated now with
  | .error fault, _ => (w, .error fault)
  | _, .error fault => (w, .error fault)
  | .ok (d, f), .ok now =>
    let f := f.saved now
    w.settle s.room.steps d f f

/-- The author of a version. Where none is given it is the usual one. -/
def authorOf (s : Setup) (author : Json) : Json :=
  author.orElse (.str s.settings.versioning.defaultAuthor)

def publish (s : Setup) (w : Workspace) (now : Int) (changelog author : Json) :
    Workspace × Outcome Version :=
  match w.inKeeping, Clock.dated now with
  | .error fault, _ => (w, .error fault)
  | _, .error fault => (w, .error fault)
  | .ok (d, f), .ok now =>
    let w := { w with nextId := w.nextId + 1 }
    match Label.nextOf f.label with
    | .error fault => (w, .error fault)
    | .ok label =>
      if s.room.steps < f.partsCopyDepth + 1 then (w, .error .tooDeep)
      else
        let v := f.snapshot now (w.nextId - 1) label changelog (authorOf s author)
        w.settle s.room.steps d (f.withVersion now v) v

/-- The flow under the label of another version. A desk and a store that hold it follow, but it does
not come to hold a place in the store. -/
def relabel (w : Workspace) (d : Desk) (f : Flow) : Workspace :=
  match d.keeping with
  | .nothing => w
  | .own _ => w.keep (d.withFlow f)
  | .earlier _ linked _ =>
    { w with desk := some (d.withKept f), store := if linked then w.store.put f else w.store }

/-- The baseline stays, as the graph does. Where the time cannot be told, the flow has got the label
of the version all the same. -/
def rollback (w : Workspace) (now : Int) (version : Json) : Workspace × Reply :=
  match w.inKeeping with
  | .error fault => (w, .failed fault)
  | .ok (d, f) =>
    match f.version? version with
    | none => (w, .refused (.noVersion version))
    | some v =>
      match Clock.dated now with
      | .ok now => (w.file d (f.rolledBack now v), .done (.version v))
      | .error fault => (w.relabel d (f.rolledBack f.updatedAt v), .failed fault)

def versions (w : Workspace) : Outcome (List Fields) := do
  let (_, f) ← w.inKeeping
  return f.history

end Workspace

end Dialogue
