/-
TOML texts: lines that open tables or assign values to keys. The result is an object, in which
nothing tells how its tables were written.
-/
import FunctionWorker.Toml.Scalar
import FunctionWorker.Toml.Table

namespace FunctionWorker.Toml

open Text (Scanner)
open Text.Scanner

/-! ## Keys -/

def isKeyChar (c : Char) : Bool := c.isAlphanum || c == '_' || c == '-'

/-- A key without dots. -/
def simpleKey : Scanner String := do
  match ← peek with
  | some '"' => basicString
  | some '\'' => literalString
  | _ =>
    let c ← satisfy isKeyChar
    return String.ofList (c :: (← takeWhile isKeyChar))

/-- How many parts a key may have, and how deeply values may be nested. -/
def maxDepth : Nat := 79

/-- A key with dots between its parts, as the parts in front and the last one. -/
def dottedKey : Scanner (List String × String) := do
  let parts ← gather do
    skipBlanks
    let k ← simpleKey
    skipBlanks
    return ([k], ← accept ".")
  if maxDepth < parts.length then fail else return (parts.dropLast, parts.getLastD "")

/-! ## Values -/

/-- An array of items, which may end with a comma. -/
def arrayOf (item : Scanner Json) : Scanner Json := do
  expect '['
  skipLines true
  .array <$> gather do
    if ← accept "]" then return ([], false)
    else
      let v ← item
      skipLines true
      if ← accept "," then
        skipLines true
        return ([v], true)
      else
        expect ']'
        return ([v], false)

/-- A key and its value. -/
def assignment (item : Scanner Json) : Scanner ((List String × String) × Json) := do
  let k ← dottedKey
  expect '='
  skipBlanks
  return (k, ← item)

/-- A table in braces, on one line and without a comma at its end. -/
def tableOf (item : Scanner Json) : Scanner Json := do
  expect '\x7b'
  skipBlanks
  if ← accept "\x7d" then return .object []
  else
    let assignments ← gather do
      let a ← assignment item
      skipBlanks
      if ← accept "," then return ([a], true)
      else
        expect '\x7d'
        return ([a], false)
    match assignments.foldlM (fun t a => Table.assign a.1.2 a.2 a.1.1 t) [] with
    | some t => return (Node.table .dotted t).toJson
    | none => fail

/-- A value, with so many more levels of nesting. -/
def value : Nat → Scanner Json
  | 0 => scalar
  | depth + 1 => do
    match ← peek with
    | some '[' => arrayOf (value depth)
    | some '\x7b' => tableOf (value depth)
    | _ => scalar

/-! ## Lines -/

inductive Line where
  /-- Opens a table. -/
  | table (path : List String)
  /-- Opens a further table of an array. -/
  | element (path : List String)
  | assign (path : List String) (key : String) (value : Json)

def header : Scanner (List String) := do
  let (path, key) ← dottedKey
  return path ++ [key]

def line : Scanner Line := do
  if ← accept "[[" then
    let path ← header
    expect ']'
    expect ']'
    return .element path
  else if ← accept "[" then
    let path ← header
    expect ']'
    return .table path
  else
    let ((path, key), v) ← assignment (value maxDepth)
    return .assign path key v

/-- The lines of a text, without those that are empty or hold only a comment. -/
def lines : Scanner (List Line) := do
  let _ ← accept "\ufeff"
  gather do
    skipBlanks
    match ← peek with
    | none => return ([], false)
    | some c =>
      let found ← if c == '#' || c == '\n' || c == '\r' then pure [] else do pure [← line]
      endOfLine
      return (found, true)

/-! ## Documents -/

/-- Takes a line into a text whose latest header opened the table at a path. -/
def addLine (state : List String × Table) : Line → Option (List String × Table)
  | .table path => (Table.change Table.opened path state.2).map fun t => (path, t)
  | .element path => (Table.change Table.appended path state.2).map fun t => (path, t)
  | .assign path key v =>
    let added :=
      match state.1 with
      | [] => Table.assign key v path state.2
      | header => Table.change (Table.assigned path key v) header state.2
    added.map fun t => (state.1, t)

/-- The object of a text, if it is well formed. -/
def ofText (s : String) : Option Json :=
  match lines.whole s with
  | none => none
  | some ls => (ls.foldlM addLine ([], [])).map fun state => (Node.table .header state.2).toJson

end FunctionWorker.Toml
