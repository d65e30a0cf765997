/-
Octets in hexadecimal digits, two for each octet, lower case.
-/
import FunctionWorker.Text.Quoted
import FunctionWorker.Text.Utf8

namespace FunctionWorker.Text

/-- The digits of octets. -/
def hex (b : Bytes) : String :=
  String.ofList (b.flatMap fun o => [hexDigit (o.toNat / 16), hexDigit (o.toNat % 16)])

/-- The value of a lower-case digit. -/
def hexValue (c : Char) : Nat := if c.isDigit then c.toNat - 48 else c.toNat - 87

/-- The octets of pairs of digits. -/
def unhexList : List Char → Bytes
  | a :: b :: rest => UInt8.ofNat (16 * hexValue a + hexValue b) :: unhexList rest
  | _ => []

/-- The octets that digits stand for. -/
def unhex (s : String) : Bytes := unhexList s.toList

end FunctionWorker.Text
