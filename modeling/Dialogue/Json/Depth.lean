-- How deep values stand inside one another, and how deep the steps go that copy them.
import Dialogue.Json

namespace Dialogue

namespace Json

mutual

/-- How many values stand inside one another, the innermost and the outermost one included. -/
def levels : Json → Nat
  | .arr xs => itemLevels xs + 1
  | .obj fs => fieldLevels fs + 1
  | .table es => entryLevels es + 1
  | _ => 1

def itemLevels : List Json → Nat
  | [] => 0
  | x :: xs => max (levels x) (itemLevels xs)

def fieldLevels : List (String × Json) → Nat
  | [] => 0
  | (_, v) :: fs => max (levels v) (fieldLevels fs)

def entryLevels : List (Json × Json) → Nat
  | [] => 0
  | (_, v) :: es => max (levels v) (entryLevels es)

end

/-! ## Copies

A value is copied by steps that stand inside one another, and there is only room for so many. -/

mutual

/-- How deep the steps go that copy a value: two for each value inside another. An empty list or
object takes one more by itself. -/
def copyDepth : Json → Nat
  | .arr xs => itemsCopyDepth xs + 2
  | .obj fs => fieldsCopyDepth fs + 2
  | .table es => entriesCopyDepth es + 2
  | _ => 2

def itemsCopyDepth : List Json → Nat
  | [] => 1
  | x :: xs => max (copyDepth x) (itemsCopyDepth xs)

def fieldsCopyDepth : List (String × Json) → Nat
  | [] => 1
  | (_, v) :: fs => max (copyDepth v) (fieldsCopyDepth fs)

def entriesCopyDepth : List (Json × Json) → Nat
  | [] => 1
  | (_, v) :: es => max (copyDepth v) (entriesCopyDepth es)

end

end Json

/-- The greatest of some depths, and one where there are none. -/
def deepestOf (depths : List Nat) : Nat := depths.foldl max 1

/-- How many steps there is room for. What is not nested always has room. -/
structure Room where
  steps : Nat
  isWide : 100 ≤ steps := by decide

end Dialogue
