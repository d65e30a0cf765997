/-
Settings from variables of the environment. The name of a variable gives the path of a setting, and
its text gives a value in a small language of its own; a text that is not in the language stands
for itself.
-/
import FunctionWorker.Config.Settings
import FunctionWorker.Entries
import FunctionWorker.Text.Ascii
import FunctionWorker.Text.Blank
import FunctionWorker.Toml.Scalar

namespace FunctionWorker.Config

open Text (Scanner)
open Text.Scanner

/-! ## Values -/

def isSpace (c : Char) : Bool := c == ' ' || c == '\t' || c == '\n' || c == '\x0c' || c == '\r'

def skipSpaces : Scanner Unit := skipWhile isSpace

/-- Characters that end a value without quotes. -/
def isSeparator (c : Char) : Bool :=
  c == ',' || c == '\x7b' || c == '\x7d' || c == '[' || c == ']'

/-- A text without quotes: a number if it reads as one. -/
def plainValue (s : String) : Json :=
  let double : Option Json :=
    if s.contains '.' then
      match Double.ofText s with
      | .ok d => some (.double d)
      | .error _ => none
    else none
  match double, Integer.ofText .u64 s, Integer.ofText .i64 s with
  | some j, _, _ => j
  | none, .ok i, _ => .int i
  | none, .error _, .ok i => .int i
  | none, .error _, .error _ => .text s

def plain : Scanner Json := do
  return plainValue (Text.trim (String.ofList (← takeWhile (!isSeparator ·))))

/-- A character between single quotes. -/
def character : Scanner Json := do
  expect '\''
  let c ← next
  expect '\''
  return .text (String.ofList [c])

/-- Items between brackets, with a separator that may also follow the last one. -/
def enclosed {α : Type} (first last : Char) (item : Scanner α) : Scanner (List α) := do
  expect first
  gather do
    if (← peek) == some last then
      expect last
      return ([], false)
    else
      let a ← item
      if ← accept "," then return ([a], true)
      else
        expect last
        return ([a], false)

def key : Scanner String := do
  if (← peek) == some '"' then Toml.basicString
  else
    let isKeyChar (c : Char) : Bool := c.isAlphanum || c == '_' || c == '-'
    let c ← satisfy isKeyChar
    return String.ofList (c :: (← takeWhile isKeyChar))

/-- A key and its value, with spaces around both. -/
def member (item : Scanner Json) : Scanner (String × Json) := do
  skipSpaces
  let k ← key
  skipSpaces
  expect '='
  skipSpaces
  let v ← item
  skipSpaces
  return (k, v)

/-- A value with spaces around it, with so many levels of nesting. -/
def value : Nat → Scanner Json
  | 0 => fail
  | depth + 1 => do
    skipSpaces
    let v ←
      if ← accept "true" then pure (.bool true)
      else if ← accept "false" then pure (.bool false)
      else
        match ← peek with
        | some '\x7b' => Json.ofMembers <$> enclosed '\x7b' '\x7d' (member (value depth))
        | some '[' => Json.array <$> enclosed '[' ']' (value depth)
        | some '"' => Json.text <$> Toml.basicString
        | some '\'' => character
        | _ => plain
    skipSpaces
    return v

/-- The value of a variable's text, or the text itself, blanks and all, if it is not in the language.
Every level of nesting takes a bracket, so the length of the text bounds their number. -/
def valueOf (s : String) : Json := ((value (s.length + 1)).whole s).getD (.text s)

/-! ## Names -/

/-- Writes a point for every two underscores. -/
def pointed : List Char → List Char
  | '_' :: '_' :: rest => '.' :: pointed rest
  | c :: rest => c :: pointed rest
  | [] => []

/-- The path of a variable whose name starts with a mark, whatever its case. A name with an empty
part has none. -/
def pathOf (mark name : String) : Option (List String) :=
  let name := (Text.trim name).toList
  let width := mark.toList.length
  if Text.sameName (String.ofList (name.take width)) mark then
    let path := Text.trim (String.ofList (pointed (name.drop width)))
    let parts := path.splitOn "."
    if parts.any (·.isEmpty) then none else some (parts.map Text.fold)
  else none

/-! ## Layers -/

/-- The variables as the environment holds them: the last of each name counts. -/
def distinct (vars : List (String × String)) : List (String × String) :=
  vars.foldl (fun acc v => Entries.put v.1 v.2 acc) []

/-- The settings of the variables whose names start with a mark, later ones over earlier ones. -/
def ofVariables (mark : String) (vars : List (String × String)) : Json :=
  (distinct vars).foldl
    (fun acc v =>
      match pathOf mark v.1 with
      | some path => overlay acc (nest path (valueOf v.2))
      | none => acc)
    (.object [])

end FunctionWorker.Config
