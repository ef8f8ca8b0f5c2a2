-- Lists of values in order. Texts can be sorted in any way. But an undefined number comes before no
-- other and after none, so where it ends up hangs on the way of sorting, which for all other lists
-- is this one. The list is cut into rows that are in order: a row is taken as far as the list rises
-- or falls, and a short one is filled up. Neighbouring rows are merged, and where one row yields
-- many values at a stretch the merge looks for the end of the stretch in leaps.
import Dialogue.Json

namespace Dialogue.Json

/-! ## Rows -/

/-- How far a list goes on rising or falling after the value before it, and what follows. -/
def slope? (falls : Bool) (last : Json) : List Json → Option (List Json × List Json)
  | [] => some ([], [])
  | x :: xs =>
    match before? x last with
    | none => none
    | some b =>
      if b == falls then (slope? falls x xs).map fun r => (x :: r.1, r.2) else some ([], x :: xs)

/-- The row at the front of a list, and what follows it. -/
def frontRow? : List Json → Option (List Json × List Json)
  | [] => some ([], [])
  | [x] => some ([x], [])
  | x :: y :: rest => do
    let falls ← before? y x
    let (front, rest) ← slope? falls x (y :: rest)
    return (if falls then (x :: front).reverse else x :: front, rest)

/-- The place between two others where a value belongs in a row: behind all that do not come after
it. -/
def place? (x : Json) (row : List Json) (low high : Nat) : Option Nat :=
  if low < high then
    let middle := low + (high - low) / 2
    match before? x (row.getD middle .null) with
    | none => none
    | some true => place? x row low middle
    | some false => place? x row (middle + 1) high
  else some low
  termination_by high - low

def insertSorted? (row : List Json) (x : Json) : Option (List Json) :=
  (place? x row 0 row.length).map fun place => row.take place ++ x :: row.drop place

/-- The row at the front of a list, filled up to a length from what follows it. -/
def filledRow? (least : Nat) (xs : List Json) : Option (List Json × List Json) := do
  let (row, rest) ← frontRow? xs
  let missing := least - row.length
  let row ← (rest.take missing).foldlM insertSorted? row
  return (row, rest.drop missing)

/-- The length up to which rows are filled, so that there are nearly a power of two of them: the
count halved until it is small, and one more if anything was left over. -/
def leastRow (left : Nat) (count : Nat) : Nat :=
  if count < 64 then count + left else leastRow (max left (count % 2)) (count / 2)

/-! ## Leaps -/

/-- The first of the places 1, 3, 7, … at which a value fails the test, and the last one before
it. -/
def leap? (test : Json → Option Bool) (xs : List Json) (last next : Nat) :
    Nat → Option (Nat × Nat)
  | 0 => some (last, next)
  | steps + 1 =>
    if xs.length ≤ next then some (last, xs.length)
    else
      match test (xs.getD next .null) with
      | none => none
      | some true => leap? test xs next (2 * next + 1) steps
      | some false => some (last, next)

/-- The place between two others where the values begin to fail the test. Of an even number of
places the one nearer to the end of the whole list is in the middle. -/
def border? (test : Json → Option Bool) (upward : Bool) (xs : List Json) (low high : Nat) :
    Option Nat :=
  if low < high then
    let middle := low + (if upward then high - low else high - low - 1) / 2
    match test (xs.getD middle .null) with
    | none => none
    | some true => border? test upward xs (middle + 1) high
    | some false => border? test upward xs low middle
  else some low
  termination_by high - low
  decreasing_by
    · split <;> omega
    · split <;> omega

/-- How many values at the front pass the test. -/
def reach? (test : Json → Option Bool) (upward : Bool) (xs : List Json) : Option Nat := do
  let some first := xs.head? | return 0
  if ← test first then
    let (last, next) ← leap? test xs 0 1 xs.length
    border? test upward xs (last + 1) next
  else return 0

/-! ## Merging two rows -/

/-- Two rows that are being merged, with those values in front that come next. The value of `kept`
comes first, unless that of `other` stands before it: at the front of the whole list, or at its end
when the merge goes downward. -/
structure Merge where
  upward : Bool
  kept : List Json
  other : List Json
  /-- What has come out, the last first. -/
  out : List Json := []
  /-- How many values in succession one row must yield before the merge goes on in leaps. -/
  patience : Nat

namespace Merge

/-- The merge ends where the rest is in order: all of `other` and then the last value of `kept`. -/
def isOver (m : Merge) : Bool := m.other.isEmpty || m.kept.length ≤ 1

/-- Whether a value of `other` comes out before one of `kept`. -/
def goesFirst? (m : Merge) (other kept : Json) : Option Bool :=
  if m.upward then before? other kept else before? kept other

def takeKept (m : Merge) (count : Nat) : Merge :=
  { m with kept := m.kept.drop count, out := (m.kept.take count).reverse ++ m.out }

def takeOther (m : Merge) (count : Nat) : Merge :=
  { m with other := m.other.drop count, out := (m.other.take count).reverse ++ m.out }

/-- Takes out what comes before the first value of `other`, and then that value. -/
def leapKept? (m : Merge) : Option (Merge × Nat) := do
  let other := m.other.headD .null
  let count ← reach? (fun x => (m.goesFirst? other x).map (!·)) m.upward m.kept
  let m := m.takeKept count
  return (if m.isOver then m else m.takeOther 1, count)

/-- Takes out what comes before the first value of `kept`, and then that value. -/
def leapOther? (m : Merge) : Option (Merge × Nat) := do
  let kept := m.kept.headD .null
  let count ← reach? (fun x => m.goesFirst? x kept) m.upward m.other
  let m := m.takeOther count
  return (if m.isOver then m else m.takeKept 1, count)

/-- Two leaps, that into the row at the front of the whole list first. -/
def leaps? (m : Merge) : Option (Merge × Nat) := do
  let (m, first) ← if m.upward then m.leapKept? else m.leapOther?
  if m.isOver then return (m, 0)
  let (m, second) ← if m.upward then m.leapOther? else m.leapKept?
  return (m, max first second)

mutual

/-- Goes on value by value. The two numbers say how many have come from one row in succession. Every
step takes out a value, so there are no more steps than values. -/
def walk? (m : Merge) (keptRow otherRow : Nat) : Nat → Option Merge
  | 0 => some m
  | steps + 1 =>
    if m.isOver then some m
    else
      match m.goesFirst? (m.other.headD .null) (m.kept.headD .null) with
      | none => none
      | some true =>
        let m := m.takeOther 1
        if otherRow + 1 < m.patience || m.isOver then walk? m 0 (otherRow + 1) steps
        else run? m steps
      | some false =>
        let m := m.takeKept 1
        if keptRow + 1 < m.patience || m.isOver then walk? m (keptRow + 1) 0 steps
        else run? m steps

/-- Goes on in leaps, as long as they are long. The longer this lasts, the sooner it will be tried
again. -/
def run? (m : Merge) : Nat → Option Merge
  | 0 => some m
  | steps + 1 =>
    match m.leaps? with
    | none => none
    | some (m, longest) =>
      if m.isOver then some m
      else if 7 ≤ longest then run? { m with patience := max 1 (m.patience - 1) } steps
      else walk? { m with patience := m.patience + 1 } 0 0 steps

end

end Merge

/-- Two neighbouring rows as one, and the patience of the next merge. What is in its place already,
at the front of the first and at the end of the second, stays out of the merge. The shorter one of
what is left is kept. -/
def joined? (patience : Nat) (row next : List Json) : Option (List Json × Nat) := do
  let some first := next.head? | return (row, patience)
  let front ← reach? (fun x => (before? first x).map (!·)) true row
  let left := row.drop front
  let some last := left.getLast? | return (row ++ next, patience)
  let back := next.reverse
  let tail ← reach? (fun x => (before? x last).map (!·)) false back
  let right := next.take (next.length - tail)
  if right.isEmpty then return (row ++ next, patience)
  let m : Merge :=
    if left.length ≤ right.length then { upward := true, kept := left, other := right, patience }
    else { upward := false, kept := right.reverse, other := left.reverse, patience }
  let m ← (m.takeOther 1).walk? 0 0 (left.length + right.length)
  let merged := m.out.reverse ++ m.other ++ m.kept
  return (row.take front ++ (if m.upward then merged else merged.reverse)
    ++ next.drop right.length, m.patience)

/-! ## Merging all rows -/

structure Row where
  /-- How many values stand in front of it. -/
  start : Nat
  items : List Json
  /-- The level of the border to the next row. -/
  level : Nat := 0

/-- How often a list must be halved until two points in it fall into different halves. The points
are counted in halves of a place. -/
def halvings (count first second : Nat) : Nat → Nat
  | 0 => 1
  | steps + 1 =>
    if count ≤ first then halvings count (2 * (first - count)) (2 * (second - count)) steps + 1
    else if count ≤ second then 1
    else halvings count (2 * first) (2 * second) steps + 1

/-- The level of the border between two rows: that of their middles. -/
def Row.border (count : Nat) (row next : Row) : Nat :=
  let middle := 2 * row.start + row.items.length
  halvings count middle (middle + row.items.length + next.items.length) count

/-- A pile of rows, the last one on top, and the patience of the next merge. -/
abbrev Pile := List Row × Nat

def Row.join? (patience : Nat) (row next : Row) : Option (Row × Nat) := do
  let (items, patience) ← joined? patience row.items next.items
  return ({ next with start := row.start, items }, patience)

/-- Merges rows from the top of the pile while the border between them lies deeper than a level. -/
def settle? (level patience : Nat) : List Row → Option Pile
  | top :: below :: rows =>
    if level < below.level then
      match below.join? patience top with
      | some (row, patience) => settle? level patience (row :: rows)
      | none => none
    else some (top :: below :: rows, patience)
  | rows => some (rows, patience)
  termination_by rows => rows.length

/-- Lays a row on the pile. -/
def Row.layOn? (count : Nat) (row : Row) (pile : Pile) : Option Pile :=
  match pile.1 with
  | [] => some ([row], pile.2)
  | top :: rows => do
    let level := top.border count row
    let (rows, patience) ← settle? level pile.2 (top :: rows)
    return match rows with
      | [] => ([row], patience)
      | top :: rows => (row :: { top with level } :: rows, patience)

/-- Merges all rows of a pile from the top, where a row between two others goes to the shorter
one. -/
def merged? (patience : Nat) : List Row → Option (List Json)
  | [] => some []
  | [row] => some row.items
  | [top, below] =>
    match below.join? patience top with
    | some (row, _) => some row.items
    | none => none
  | top :: middle :: below :: rows =>
    if below.items.length < top.items.length then
      match below.join? patience middle with
      | some (row, patience) => merged? patience (top :: row :: rows)
      | none => none
    else
      match middle.join? patience top with
      | some (row, patience) => merged? patience (row :: below :: rows)
      | none => none
  termination_by rows => rows.length

/-- Cuts a list into rows and piles them up. Every row takes a value at least. -/
def pile? (count start : Nat) (pile : Pile) : Nat → List Json → Option Pile
  | 0, _ | _, [] => some pile
  | steps + 1, xs => do
    let (items, rest) ← filledRow? (leastRow 0 count) xs
    let pile ← ({ start, items } : Row).layOn? count pile
    pile? count (start + items.length) pile steps rest

/-- The list in order, if all its values compare. -/
def sorted? (xs : List Json) : Option (List Json) :=
  match xs.mapM str? with
  | some texts => some ((texts.mergeSort fun a b => !(b < a)).map .str)
  | none => do
    let (rows, patience) ← pile? xs.length 0 ([], 7) xs.length xs
    merged? patience rows

end Dialogue.Json
