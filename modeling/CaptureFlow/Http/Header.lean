import CaptureFlow.Report

/-!
# HTTP headers

What is kept of an HTTP message: its first line and three well-known fields.
-/

namespace CaptureFlow.Http

/-- The head of an HTTP message. -/
structure Header where
  /-- Whether it is a response. -/
  isResponse : Bool
  /-- The status of a response, zero for requests. -/
  status : UInt16
  /-- The method of a request. -/
  method : Option String
  /-- The target of a request, empty for responses. -/
  uri : String
  /-- The minor version of HTTP/1. -/
  version : UInt8
  /-- The reason given by a response. -/
  reason : Option String
  /-- The host addressed. -/
  host : Option String
  /-- The type of the content. -/
  contentType : Option String
  /-- The length of the content. -/
  contentLength : Option UInt64
  deriving DecidableEq

namespace Header

/-- The head of a request without fields. -/
def request (method uri : String) (version : UInt8) : Header :=
  ⟨false, 0, some method, uri, version, none, none, none, none⟩

/-- The head of a response without fields. -/
def response (status : UInt16) (reason : Option String) (version : UInt8) : Header :=
  ⟨true, status, none, "", version, reason, none, none, none⟩

/-- Whether it is a request. -/
def isRequest (header : Header) : Bool :=
  !header.isResponse && header.status == 0

/-- The protocol as the first line gives it. -/
def protocol (header : Header) : String :=
  "HTTP/1." ++ Numeral.decimal header.version.toNat

/-- The method, empty where there is none. -/
def methodText (header : Header) : String :=
  header.method.getD ""

/-- The reason, empty where there is none. -/
def reasonText (header : Header) : String :=
  header.reason.getD ""

/-- The first line of the message. -/
def text (header : Header) : String :=
  if header.isResponse then
    s!"{header.protocol} {Numeral.decimal header.status.toNat} {header.reasonText}"
  else s!"{header.methodText} {header.uri} {header.protocol}"

/-- The report of a header. -/
def report (header : Header) : Report where
  tag := "HTTP"
  key := "httphdr"
  body := [("is_response", .bool header.isResponse), ("status_code", .nat header.status.toNat),
    ("method", .text header.methodText), ("request_uri", .text header.uri),
    ("version", .text header.protocol)]
  columns := [.bare (if header.isResponse then "true" else "false"), .nat header.status.toNat,
    .quoted header.methodText, .quoted header.uri, .quoted header.protocol]
  text := header.text

end Header

end CaptureFlow.Http
