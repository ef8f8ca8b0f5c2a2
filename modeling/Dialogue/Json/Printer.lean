-- Writing a document in one line, without blanks.
import Dialogue.Json

namespace Dialogue.Json

def writeChar (c : Char) : String :=
  if c == '"' then "\\\""
  else if c == '\\' then "\\\\"
  else if c.toNat < 0x20 || c.toNat == 0x7F then "\\u" ++ Text.hex 4 c.toNat
  else c.toString

def writeText (s : String) : String := "\"" ++ String.join (s.toList.map writeChar) ++ "\""

/-- Numbers that are not finite are written as words. -/
def writeFloat (x : Float) : String :=
  match magnitude x with
  | .finite _ => shortestText x
  | .infinite negative => if negative then "-Infinity" else "Infinity"
  | .undefined => "NaN"

mutual

def write : Json → String
  | .null => "null"
  | .bool b => if b then "true" else "false"
  | .int n => toString n
  | .float x => writeFloat x
  | .str s => writeText s
  | .arr xs => "[" ++ ",".intercalate (writeItems xs) ++ "]"
  | .obj fs => "\x7b" ++ ",".intercalate (writeFields fs) ++ "\x7d"
  | .table es => "\x7b" ++ ",".intercalate (writeEntries es) ++ "\x7d"

def writeItems : List Json → List String
  | [] => []
  | x :: xs => write x :: writeItems xs

def writeFields : List (String × Json) → List String
  | [] => []
  | (k, v) :: fs => (writeText k ++ ":" ++ write v) :: writeFields fs

def writeEntries : List (Json × Json) → List String
  | [] => []
  | (k, v) :: es => (writeText k.text ++ ":" ++ write v) :: writeEntries es

end

/-! ## Numbers that are not finite

A response can hold neither numbers without end nor numbers that are undefined. -/

mutual

/-- Whether all numbers in the value are finite. -/
def isFinite : Json → Bool
  | .float x => x.isFinite
  | .arr xs => itemsFinite xs
  | .obj fs => fieldsFinite fs
  | .table es => entriesFinite es
  | _ => true

def itemsFinite : List Json → Bool
  | [] => true
  | x :: xs => isFinite x && itemsFinite xs

def fieldsFinite : List (String × Json) → Bool
  | [] => true
  | (_, v) :: fs => isFinite v && fieldsFinite fs

def entriesFinite : List (Json × Json) → Bool
  | [] => true
  | (_, v) :: es => isFinite v && entriesFinite es

end

mutual

/-- The value with null for each number that is not finite. -/
def withoutInfinite : Json → Json
  | .float x => if x.isFinite then .float x else .null
  | .arr xs => .arr (itemsWithoutInfinite xs)
  | .obj fs => .obj (fieldsWithoutInfinite fs)
  | .table es => .table (entriesWithoutInfinite es)
  | j => j

def itemsWithoutInfinite : List Json → List Json
  | [] => []
  | x :: xs => withoutInfinite x :: itemsWithoutInfinite xs

def fieldsWithoutInfinite : List (String × Json) → List (String × Json)
  | [] => []
  | (k, v) :: fs => (k, withoutInfinite v) :: fieldsWithoutInfinite fs

def entriesWithoutInfinite : List (Json × Json) → List (Json × Json)
  | [] => []
  | (k, v) :: es => (k, withoutInfinite v) :: entriesWithoutInfinite es

end

end Dialogue.Json
