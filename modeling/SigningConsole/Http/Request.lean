import SigningConsole.Http.Mime
import SigningConsole.Http.Target
import SigningConsole.Json.Basic
import SigningConsole.Parameters
import SigningConsole.Url.Query
/-!
Descriptions of backend calls, and the requests that are made of them.
-/

namespace SigningConsole

/-- The method of a request: one or more characters of a token. -/
structure Method where
  text : String
  named : !text.isEmpty && text.toList.all Mime.isToken
deriving DecidableEq

namespace Method

/-- The method of a name. -/
def ofText? (text : String) : Option Method :=
  if h : !text.isEmpty && text.toList.all Mime.isToken then some ⟨text, h⟩ else none

def get : Method := ⟨"GET", by decide⟩

def post : Method := ⟨"POST", by decide⟩

def put : Method := ⟨"PUT", by decide⟩

def delete : Method := ⟨"DELETE", by decide⟩

def head : Method := ⟨"HEAD", by decide⟩

end Method

/-- What the caller wants of the answer's body. -/
inductive AnswerKind where
  | json
  | blob
  | empty
deriving DecidableEq, Repr

/-- The name of a kind. -/
def AnswerKind.text : AnswerKind → String
  | json => "json"
  | blob => "blob"
  | empty => "empty"

/-- A file that is sent as a field of a form. -/
structure Upload where
  /-- The name of the form's field. -/
  field : String := "file"
  fileName : String
  mime : Option String := none
  bytes : List UInt8
deriving DecidableEq, Repr

/-- The body of a request. -/
inductive Body where
  | none
  | json (v : Json)
  | multipart (upload : Upload)

/-- The description of a call. The path is relative to the backend and may have a query of its
own. -/
structure CallPlan where
  method : Method
  path : String
  query : Parameters := []
  body : Body := .none
  response : AnswerKind := .json

/-- A request as it is sent. -/
structure Request where
  method : Method
  url : Url
  headers : List (String × String)
  body : Body

/-- The request to a URL with some headers; user name and password of the URL are one
more, before them. -/
def Request.to (method : Method) (url : Url) (headers : List (String × String)) (body : Body) :
    Request :=
  { method, url := url.asked, headers := url.userHeaders ++ headers, body }

namespace CallPlan

/-- A call that reads. -/
def get (path : String) (query : Parameters) : CallPlan := { method := .get, path, query }

/-- The description as JSON, with a function that writes bytes. -/
def toJson (bytesJson : List UInt8 → Json) (s : CallPlan) : Json :=
  let body : Json :=
    match s.body with
    | .none => .null
    | .json v => .obj [("json", v.normalize)]
    | .multipart u =>
      .obj
        [("multipart",
          .obj
            [("field", .str u.field), ("file_name", .str u.fileName), ("mime", Json.ofText? u.mime),
              ("bytes", bytesJson u.bytes)])]
  .obj
    [("method", .str s.method.text), ("path", .str s.path), ("query", s.query.toJson),
      ("body", body), ("response", .str s.response.text)]

end CallPlan

end SigningConsole
