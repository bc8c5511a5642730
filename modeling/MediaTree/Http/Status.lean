/-
**Status codes.**

A server answers with a number of three digits.  Those below 200 only say that the response is still
to come, but for one that ends the talk of records; of the others a few go without a body, and those
from 400 to 599 say that the server failed.  The text of a status is its number and the phrase that
goes with it.

Main definitions:

* `MediaTree.Http.Status.isFinal`, `MediaTree.Http.Status.hasBody` — whether a response comes with a
  status, and whether a body comes with the response;
* `MediaTree.Http.Status.isFailure` — whether a status reports a failure;
* `MediaTree.Http.Status.text` — number and phrase.
-/

set_option autoImplicit false
set_option relaxedAutoImplicit false

namespace MediaTree.Http.Status

/-- The phrases of the registered status codes. -/
def phrases : List (Nat × String) := [
  (100, "Continue"), (101, "Switching Protocols"), (102, "Processing"), (103, "Early Hints"),
  (200, "OK"), (201, "Created"), (202, "Accepted"), (203, "Non Authoritative Information"),
  (204, "No Content"), (205, "Reset Content"), (206, "Partial Content"), (207, "Multi-Status"),
  (208, "Already Reported"), (226, "IM Used"),
  (300, "Multiple Choices"), (301, "Moved Permanently"), (302, "Found"), (303, "See Other"),
  (304, "Not Modified"), (305, "Use Proxy"), (307, "Temporary Redirect"),
  (308, "Permanent Redirect"),
  (400, "Bad Request"), (401, "Unauthorized"), (402, "Payment Required"), (403, "Forbidden"),
  (404, "Not Found"), (405, "Method Not Allowed"), (406, "Not Acceptable"),
  (407, "Proxy Authentication Required"), (408, "Request Timeout"), (409, "Conflict"),
  (410, "Gone"), (411, "Length Required"), (412, "Precondition Failed"),
  (413, "Payload Too Large"), (414, "URI Too Long"), (415, "Unsupported Media Type"),
  (416, "Range Not Satisfiable"), (417, "Expectation Failed"), (418, "I'm a teapot"),
  (421, "Misdirected Request"), (422, "Unprocessable Entity"), (423, "Locked"),
  (424, "Failed Dependency"), (425, "Too Early"), (426, "Upgrade Required"),
  (428, "Precondition Required"), (429, "Too Many Requests"),
  (431, "Request Header Fields Too Large"), (451, "Unavailable For Legal Reasons"),
  (500, "Internal Server Error"), (501, "Not Implemented"), (502, "Bad Gateway"),
  (503, "Service Unavailable"), (504, "Gateway Timeout"), (505, "HTTP Version Not Supported"),
  (506, "Variant Also Negotiates"), (507, "Insufficient Storage"), (508, "Loop Detected"),
  (510, "Not Extended"), (511, "Network Authentication Required")]

/-- The phrase of a status; codes that are not registered have none. -/
def phrase (code : Nat) : String :=
  match phrases.find? (·.1 == code) with
  | some (_, p) => p
  | none => "<unknown status code>"

/-- Number and phrase of a status. -/
def text (code : Nat) : String := toString code ++ " " ++ phrase code

/-- The status of a server that changes over to something else. -/
def switching : Nat := 101

/-- The status is that of a response: it is a number of three digits, and none of those that are sent
ahead. -/
def isFinal (code : Nat) : Bool := code == switching || (200 ≤ code && code < 1000)

/-- A body comes with the status. -/
def hasBody (code : Nat) : Bool := !(code == switching || code == 204 || code == 304)

/-- The status reports a failure, of the request or of the server. -/
def isFailure (code : Nat) : Bool := 400 ≤ code && code < 600

/-- The status of something that does not exist. -/
def notFound : Nat := 404

end MediaTree.Http.Status
