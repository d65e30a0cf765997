/-
Quoted text, the form in which error texts and descriptions show a text: between double quotes,
with a backslash before quotes and backslashes, the short escapes for tab, line ends and NUL, and
every other unprintable character by its code point. Descriptions of records and lists are built
from quoted text here as well.
-/
import FunctionWorker.Text.Unprintable

namespace FunctionWorker.Text

def hexDigit (n : Nat) : Char := "0123456789abcdef".toList.getD n '0'

/-- The hexadecimal digits of a number, lower case, without leading zeros. -/
def hexDigits (n : Nat) : List Char := (Nat.toDigits 16 n)

namespace Quoted

/-- One character inside double quotes. -/
def escape (c : Char) : List Char :=
  match c with
  | '"' => ['\\', '"']
  | '\\' => ['\\', '\\']
  | '\n' => ['\\', 'n']
  | '\r' => ['\\', 'r']
  | '\t' => ['\\', 't']
  | '\x00' => ['\\', '0']
  | c => if Unprintable.holds c then ['\\', 'u', '\x7b'] ++ hexDigits c.toNat ++ ['\x7d'] else [c]

end Quoted

/-- A text between double quotes. -/
def quoted (s : String) : String :=
  String.ofList ('"' :: s.toList.flatMap Quoted.escape ++ ['"'])

/-- A list of descriptions between brackets. -/
def listed (items : List String) : String := "[" ++ ", ".intercalate items ++ "]"

/-- A list of quoted texts between brackets. -/
def quotedList (items : List String) : String := listed (items.map quoted)

/-- A record as its name and its fields between braces; `rest` says that further fields are left
out. -/
def record (name : String) (fields : List (String × String)) (rest : Bool) : String :=
  let shown := fields.map (fun f => f.1 ++ ": " ++ f.2) ++ (if rest then [".."] else [])
  name ++ " \x7b " ++ ", ".intercalate shown ++ " \x7d"

end FunctionWorker.Text
