-- The addresses of the service. A path leads to endpoints, one for each method that is allowed
-- there.

namespace Dialogue

inductive Method where
  | get
  | post
  | put
  | patch
  | delete
  | head
  /-- A method that nothing allows. -/
  | other
  deriving DecidableEq

def Method.ofWord : String → Method
  | "GET" => .get
  | "POST" => .post
  | "PUT" => .put
  | "PATCH" => .patch
  | "DELETE" => .delete
  | "HEAD" => .head
  | _ => .other

/-- What can be asked of the service. -/
inductive Endpoint where
  | health
  | kinds
  | createFlow
  | importFlow
  | listFlows
  | getFlow (flow : String)
  | deleteFlow (flow : String)
  | duplicateFlow (flow : String)
  | selectFlow (flow : String)
  | validateFlow (flow : String)
  | addNode (flow : String)
  | updateNode (flow node : String)
  | deleteNode (flow node : String)
  | duplicateNode (flow node : String)
  | moveNode (flow node : String)
  | addEdge (flow : String)
  | deleteEdge (flow edge : String)
  | save (flow : String)
  | publish (flow : String)
  | versions (flow : String)
  | rollback (flow version : String)
  | startRun (flow : String)
  | currentRun
  | submitText
  | submitKeys
  | hangUp
  | resetRun
  deriving DecidableEq

namespace Endpoint

/-- The endpoints at a path, given by its parts. -/
def atParts : List String → List (Method × Endpoint)
  | ["health"] => [(.get, health)]
  | ["nodes"] => [(.get, kinds)]
  | ["flows"] => [(.post, createFlow), (.get, listFlows)]
  | ["flows", "import"] =>
    [(.post, importFlow), (.get, getFlow "import"), (.delete, deleteFlow "import")]
  | ["flows", f] => [(.get, getFlow f), (.delete, deleteFlow f)]
  | ["flows", f, "duplicate"] => [(.post, duplicateFlow f)]
  | ["flows", f, "select"] => [(.post, selectFlow f)]
  | ["flows", f, "validate"] => [(.post, validateFlow f)]
  | ["flows", f, "nodes"] => [(.post, addNode f)]
  | ["flows", f, "nodes", n] => [(.patch, updateNode f n), (.delete, deleteNode f n)]
  | ["flows", f, "nodes", n, "duplicate"] => [(.post, duplicateNode f n)]
  | ["flows", f, "nodes", n, "position"] => [(.put, moveNode f n)]
  | ["flows", f, "edges"] => [(.post, addEdge f)]
  | ["flows", f, "edges", e] => [(.delete, deleteEdge f e)]
  | ["flows", f, "save"] => [(.post, save f)]
  | ["flows", f, "publish"] => [(.post, publish f)]
  | ["flows", f, "versions"] => [(.get, versions f)]
  | ["flows", f, "versions", v, "rollback"] => [(.post, rollback f v)]
  | ["flows", f, "runs"] => [(.post, startRun f)]
  | ["runs", "current"] => [(.get, currentRun), (.delete, resetRun)]
  | ["runs", "current", "input"] => [(.post, submitText)]
  | ["runs", "current", "digits"] => [(.post, submitKeys)]
  | ["runs", "current", "hangup"] => [(.post, hangUp)]
  | _ => []

/-- The parts of a path that starts with a slash. -/
def parts (path : String) : List String := ((path.toList.splitOn '/').map String.ofList).drop 1

/-- The endpoints at a path. No part of it may be empty. -/
def atPath (path : String) : List (Method × Endpoint) :=
  if path.startsWith "/" && (parts path).all (· != "") then atParts (parts path) else []

end Endpoint

end Dialogue
