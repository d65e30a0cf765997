/-
The scalars of TOML: strings in quotes of four kinds, numbers, booleans, and dates with times. In a
string over several lines a line break is a line feed, whatever way it is written. A date or time is
kept as an object with its text under a key of its own.
-/
import FunctionWorker.Double.Text
import FunctionWorker.Integer
import FunctionWorker.Json.Basic
import FunctionWorker.Text.Scanner

namespace FunctionWorker.Toml

open Text (Scanner)
open Text.Scanner

/-! ## Blanks and line breaks -/

def isBlank (c : Char) : Bool := c == ' ' || c == '\t'

def skipBlanks : Scanner Unit := skipWhile isBlank

/-- Characters that stand for themselves in strings and comments. -/
def isText (c : Char) : Bool := c == '\t' || (0x20 ≤ c.toNat && c.toNat != 0x7f)

def newline : Scanner Unit := do
  let c ← next
  if c == '\r' then expect '\n' else if c == '\n' then return () else fail

/-- A comment, if there is one. -/
def skipComment : Scanner Unit := do
  if ← accept "#" then skipWhile isText

/-- The end of a line: blanks, a comment and the line break, or the end of the text. -/
def endOfLine : Scanner Unit := do
  skipBlanks
  skipComment
  if ← atEnd then return () else newline

/-- Blanks, line breaks, and comments if they are allowed. -/
def skipLines (comments : Bool) : Scanner Unit := do
  let _ : List Unit ← gather do
    skipBlanks
    if comments then skipComment
    let broken ← optional newline
    return ([], broken.isSome)

/-! ## Strings -/

def isHexDigit (c : Char) : Bool :=
  c.isDigit || ('a' ≤ c && c ≤ 'f') || ('A' ≤ c && c ≤ 'F')

def digitValue (c : Char) : Nat :=
  if c.isDigit then c.toNat - 48 else if 'a' ≤ c then c.toNat - 87 else c.toNat - 55

/-- The number that digits of a base stand for. -/
def numberOf (base : Nat) (digits : List Char) : Nat :=
  digits.foldl (fun n c => base * n + digitValue c) 0

/-- So many characters of one kind. -/
def exactly (p : Char → Bool) : Nat → Scanner (List Char)
  | 0 => return []
  | n + 1 => do
    let c ← satisfy p
    return c :: (← exactly p n)

/-- The character of so many hexadecimal digits; surrogates are none. -/
def codePoint (width : Nat) : Scanner Char := do
  let n := numberOf 16 (← exactly isHexDigit width)
  if n.isValidChar then return Char.ofNat n else fail

/-- An escape whose backslash is behind. -/
def escape : Scanner Char := do
  match ← next with
  | '"' => return '"'
  | '\\' => return '\\'
  | 'b' => return '\x08'
  | 'f' => return '\x0c'
  | 'n' => return '\n'
  | 'r' => return '\r'
  | 't' => return '\t'
  | 'u' => codePoint 4
  | 'U' => codePoint 8
  | _ => fail

/-- A string of one line whose opening quote is behind. -/
def lineBody (quote : Char) (escapes : Bool) : Scanner String :=
  String.ofList <$> gather do
    let c ← next
    if c == quote then return ([], false)
    else if escapes && c == '\\' then return ([← escape], true)
    else if isText c then return ([c], true)
    else fail

/-- A line break behind a backslash, with all blanks and line breaks that follow. -/
def continuation : Scanner Unit := do
  skipBlanks
  newline
  skipLines false

/-- A string of several lines whose opening quotes are behind. Up to two quotes may stand in front
of the three that close it. -/
def linesBody (quote : Char) (escapes : Bool) : Scanner String := do
  let _ ← optional newline
  String.ofList <$> gather do
    let c ← next
    if c == quote then
      let more ← takeWhile (· == quote)
      if more.length < 2 then return (c :: more, true)
      else if more.length ≤ 4 then return (more.drop 2, false)
      else fail
    else if escapes && c == '\\' then
      match ← optional continuation with
      | some () => return ([], true)
      | none => return ([← escape], true)
    else if c == '\r' then
      expect '\n'
      return (['\n'], true)
    else if c == '\n' || isText c then return ([c], true)
    else fail

/-- A string between double quotes on one line. -/
def basicString : Scanner String := do
  expect '"'
  lineBody '"' true

/-- A string between single quotes on one line. -/
def literalString : Scanner String := do
  expect '\''
  lineBody '\'' false

def string : Scanner String := do
  if ← accept "\"\"\"" then linesBody '"' true
  else if ← accept "'''" then linesBody '\'' false
  else if (← peek) == some '"' then basicString
  else literalString

/-! ## Numbers -/

/-- Digits, with single underscores between them. -/
def separated (p : Char → Bool) : Scanner (List Char) := do
  let d ← satisfy p
  let more ← gather do
    let underscore ← accept "_"
    match ← optional (satisfy p) with
    | some d => return ([d], true)
    | none => if underscore then fail else return ([], false)
  return d :: more

def isDigit (c : Char) : Bool := c.isDigit

/-- A sign as it is written, if there is one. -/
def sign : Scanner (List Char) := do
  if ← accept "+" then return ['+'] else if ← accept "-" then return ['-'] else return []

/-- The digits of a whole number: a single zero, or digits that start with another. -/
def wholeDigits : Scanner (List Char) := do
  if ← accept "0" then return ['0'] else separated isDigit

def fractionDigits : Scanner (List Char) := do
  expect '.'
  return '.' :: (← separated isDigit)

def exponent : Scanner (List Char) := do
  let _ ← satisfy fun c => c == 'e' || c == 'E'
  let s ← sign
  return 'e' :: s ++ (← separated isDigit)

/-- The number of a text of decimal digits. Whole numbers have 64 bits, and others must not be
beyond every double. -/
def decimalOf (isWhole : Bool) (text : List Char) : Option Json :=
  if isWhole then
    match Integer.ofList .i64 text with
    | .ok i => some (.int i)
    | .error _ => none
  else
    match Double.ofText (String.ofList text) with
    | .ok d => if d.isFinite || d.negative then some (.double d) else none
    | .error _ => none

def decimal : Scanner Json := do
  let s ← sign
  if ← accept "inf" then return .double (Double.make (s == ['-']) Double.infinite)
  else if ← accept "nan" then return .double Double.nan
  else
    let whole ← wholeDigits
    let fraction ← optional fractionDigits
    let exponent ← optional exponent
    match decimalOf (fraction.isNone && exponent.isNone)
        (s ++ whole ++ fraction.getD [] ++ exponent.getD []) with
    | some j => return j
    | none => fail

/-- A whole number of 64 bits whose digits have some base; its mark is behind. -/
def based (base : Nat) (p : Char → Bool) : Scanner Json := do
  let n := numberOf base (← separated p)
  if n < 0x8000000000000000 then return .int n else fail

def number : Scanner Json := do
  if ← accept "0x" then based 16 isHexDigit
  else if ← accept "0o" then based 8 fun c => '0' ≤ c && c ≤ '7'
  else if ← accept "0b" then based 2 fun c => c == '0' || c == '1'
  else decimal

/-! ## Dates and times -/

/-- A number of so many digits between two bounds, as it is written. -/
def field (width least greatest : Nat) : Scanner (List Char × Nat) := do
  let ds ← exactly isDigit width
  let n := numberOf 10 ds
  if least ≤ n && n ≤ greatest then return (ds, n) else fail

def daysOf (year month : Nat) : Nat :=
  let leap := year % 4 = 0 && (year % 100 ≠ 0 || year % 400 = 0)
  match month with
  | 2 => if leap then 29 else 28
  | 4 | 6 | 9 | 11 => 30
  | _ => 31

def date : Scanner (List Char) := do
  let (y, year) ← field 4 0 9999
  expect '-'
  let (m, month) ← field 2 1 12
  expect '-'
  let (d, _) ← field 2 1 (daysOf year month)
  return y ++ '-' :: m ++ '-' :: d

/-- The fraction of a second, to a billionth, without zeros at its end. -/
def secondFraction : Scanner (List Char) := do
  expect '.'
  let d ← satisfy isDigit
  let ds ← takeWhile isDigit
  let kept := (((d :: ds).take 9).reverse.dropWhile (· == '0')).reverse
  return if kept.isEmpty then [] else '.' :: kept

def time : Scanner (List Char) := do
  let (h, _) ← field 2 0 23
  expect ':'
  let (m, _) ← field 2 0 59
  expect ':'
  let (s, _) ← field 2 0 60
  let fraction ← optional secondFraction
  return h ++ ':' :: m ++ ':' :: s ++ fraction.getD []

def offset : Scanner (List Char) := do
  let s ← satisfy fun c => c == 'Z' || c == 'z' || c == '+' || c == '-'
  if s == 'Z' || s == 'z' then return ['Z']
  else
    let (h, hours) ← field 2 0 23
    expect ':'
    let (m, minutes) ← field 2 0 59
    return (if hours = 0 && minutes = 0 then '+' else s) :: h ++ ':' :: m

/-- A time behind the mark that joins it to its date. -/
def joinedTime : Scanner (List Char) := do
  let _ ← satisfy fun c => c == 'T' || c == 't' || c == ' '
  let t ← time
  let o ← optional offset
  return 'T' :: t ++ o.getD []

/-- The key under which the text of a date or time is kept. -/
def momentKey : String := "$__toml_private_datetime"

def moment : Scanner Json := do
  let text ←
    match ← optional date with
    | some d => do
      let t ← optional joinedTime
      pure (d ++ t.getD [])
    | none => time
  return .object [(momentKey, .text (String.ofList text))]

/-! ## Scalars -/

def scalar : Scanner Json := do
  match ← peek with
  | none => fail
  | some c =>
    if c == '"' || c == '\'' then return .text (← string)
    else if ← accept "true" then return .bool true
    else if ← accept "false" then return .bool false
    else
      match ← optional moment with
      | some j => return j
      | none => number

end FunctionWorker.Toml
