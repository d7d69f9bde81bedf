import Audience.Http.Base64
import Audience.Http.Target
import Audience.Json

/-!
# Requests and responses

What is sent to a web service and what comes back.  The network is a function: it answers a
request, or breaks the connection.
-/

namespace Audience
namespace Http

structure Request where
  method : String
  target : Target
  accept : String
  authorization : Option String := none
  contentType : Option String := none
  body : Option Json := none

structure Response where
  status : Nat
  location : Option String := none
  body : String

/-- The body as a text, without a byte order mark in front. -/
def Response.text (response : Response) : String :=
  match response.body.toList with
  | '\uFEFF' :: rest => String.ofList rest
  | _ => response.body

/-- Answers requests; no answer means that the connection broke. -/
def Network : Type :=
  Request -> Option Response

def reasons : List (Nat × String) :=
  [ (100, "Continue"), (101, "Switching Protocols"), (102, "Processing"),
    (200, "OK"), (201, "Created"), (202, "Accepted"),
    (203, "Non Authoritative Information"), (204, "No Content"), (205, "Reset Content"),
    (206, "Partial Content"), (207, "Multi-Status"), (208, "Already Reported"),
    (226, "IM Used"),
    (300, "Multiple Choices"), (301, "Moved Permanently"), (302, "Found"),
    (303, "See Other"), (304, "Not Modified"), (305, "Use Proxy"),
    (307, "Temporary Redirect"), (308, "Permanent Redirect"),
    (400, "Bad Request"), (401, "Unauthorized"), (402, "Payment Required"),
    (403, "Forbidden"), (404, "Not Found"), (405, "Method Not Allowed"),
    (406, "Not Acceptable"), (407, "Proxy Authentication Required"),
    (408, "Request Timeout"), (409, "Conflict"), (410, "Gone"), (411, "Length Required"),
    (412, "Precondition Failed"), (413, "Payload Too Large"), (414, "URI Too Long"),
    (415, "Unsupported Media Type"), (416, "Range Not Satisfiable"),
    (417, "Expectation Failed"), (418, "I'm a teapot"), (421, "Misdirected Request"),
    (422, "Unprocessable Entity"), (423, "Locked"), (424, "Failed Dependency"),
    (426, "Upgrade Required"), (428, "Precondition Required"), (429, "Too Many Requests"),
    (431, "Request Header Fields Too Large"), (451, "Unavailable For Legal Reasons"),
    (500, "Internal Server Error"), (501, "Not Implemented"), (502, "Bad Gateway"),
    (503, "Service Unavailable"), (504, "Gateway Timeout"),
    (505, "HTTP Version Not Supported"), (506, "Variant Also Negotiates"),
    (507, "Insufficient Storage"), (508, "Loop Detected"), (510, "Not Extended"),
    (511, "Network Authentication Required") ]

def statusText (status : Nat) : String :=
  let reason := (reasons.lookup status).getD "<unknown status code>"
  toString status ++ " " ++ reason

def isSuccess (status : Nat) : Bool :=
  200 <= status && status < 300

/-- The text of a header value, if it holds printable ASCII characters and tabs only. -/
def headerText? (value : String) : Option String :=
  if value.toList.all fun c => c == '\t' || (0x20 <= c.toNat && c.toNat < 0x7F) then some value
  else none

end Http
end Audience
