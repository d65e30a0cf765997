/-
HTTP requests and responses as functions see them, and their records on the wire. Headers keep
their order and are found by name without regard to case; query parameters are found by their
exact names.
-/
import FunctionWorker.Json.Printer
import FunctionWorker.Text.Ascii
import FunctionWorker.Wire.Value

namespace FunctionWorker

structure HttpRequest where
  method : String := ""
  url : String := ""
  headers : List (String × String) := []
  query : List (String × String) := []
  body : Bytes := []
deriving DecidableEq, Inhabited, Repr

namespace HttpRequest

/-- The request in a record; an absent body is empty. -/
def ofRecord (r : HttpRecord) : HttpRequest :=
  ⟨r.method, r.url, r.headers, r.query, r.body.getD []⟩

def withHeader (r : HttpRequest) (name value : String) : HttpRequest :=
  { r with headers := r.headers ++ [(name, value)] }

def header (r : HttpRequest) (name : String) : Option String := Text.lookup r.headers name

def parameter (r : HttpRequest) (name : String) : Option String := r.query.lookup name

def bodyText (r : HttpRequest) : Except Text.Utf8Error String := Text.ofUtf8 r.body

end HttpRequest

structure HttpResponse where
  status : UInt16
  headers : List (String × String) := []
  body : Bytes := []
deriving DecidableEq, Inhabited, Repr

namespace HttpResponse

def ok (body : Bytes) : HttpResponse := ⟨200, [], body⟩
def created (body : Bytes) : HttpResponse := ⟨201, [], body⟩

def withHeader (r : HttpResponse) (name value : String) : HttpResponse :=
  { r with headers := r.headers ++ [(name, value)] }

/-- A response whose body is a JSON text, marked as such. -/
def json (status : UInt16) (content : Json) : HttpResponse :=
  withHeader ⟨status, [], Text.utf8 content.render⟩ "Content-Type" "application/json"

/-- The record of a response, which has a status code and always a body. -/
def toRecord (r : HttpResponse) : HttpRecord :=
  { headers := r.headers, statusCode := some (toString r.status.toNat), body := some r.body }

end HttpResponse

end FunctionWorker
