/-
JSON values as text, without blanks. Only quotes, backslashes and control characters of a string
are escaped; whole numbers are written with their digits, doubles with the fewest digits, and
doubles that are no number as `null`.
-/
import FunctionWorker.Double.Text
import FunctionWorker.Json.Basic
import FunctionWorker.Text.Quoted

namespace FunctionWorker.Json

/-- One character of a string. -/
def escape (c : Char) : List Char :=
  match c with
  | '"' => ['\\', '"']
  | '\\' => ['\\', '\\']
  | '\x08' => ['\\', 'b']
  | '\x0c' => ['\\', 'f']
  | '\n' => ['\\', 'n']
  | '\r' => ['\\', 'r']
  | '\t' => ['\\', 't']
  | c =>
    if c.toNat < 0x20 then
      ['\\', 'u', '0', '0', Text.hexDigit (c.toNat / 16), Text.hexDigit (c.toNat % 16)]
    else [c]

/-- A string with its quotes. -/
def printText (s : String) : List Char := '"' :: s.toList.flatMap escape ++ ['"']

def printInt (i : Int) : List Char :=
  if i < 0 then '-' :: Nat.toDigits 10 i.natAbs else Nat.toDigits 10 i.natAbs

def printDouble (d : Double) : List Char :=
  if d.isFinite then Double.finiteText Double.json d else "null".toList

mutual

def print : Json → List Char
  | .null => "null".toList
  | .bool b => if b then "true".toList else "false".toList
  | .int i => printInt i
  | .double d => printDouble d
  | .text s => printText s
  | .array items => '[' :: printItems items
  | .object members => '\x7b' :: printMembers members

/-- The items of an array and its closing bracket. -/
def printItems : List Json → List Char
  | [] => [']']
  | [j] => print j ++ [']']
  | j :: js => print j ++ ',' :: printItems js

/-- The members of an object and its closing brace. -/
def printMembers : List (String × Json) → List Char
  | [] => ['\x7d']
  | [(k, j)] => printText k ++ ':' :: print j ++ ['\x7d']
  | (k, j) :: ms => printText k ++ ':' :: print j ++ ',' :: printMembers ms

end

/-- The text of a value. -/
def render (j : Json) : String := String.ofList (print j)

end FunctionWorker.Json
