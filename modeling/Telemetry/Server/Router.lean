import Telemetry.Server.Store

/-! Answers to requests. There are three paths, which are matched as they are written; each answers GET,
    and HEAD by the same without the body. -/

namespace Telemetry

/-- An answer to a request. -/
structure Response where
  status : Nat
  contentType : Option String := none
  /-- The methods that the path has, where the one of the request is not among them. -/
  allow : Option String := none
  body : String := ""
  deriving DecidableEq, Repr, Inhabited

namespace Router

/-- The page that links to the others. -/
def index : String :=
  "<html>\n<head><title>GPU Telemetry Exporter</title></head>\n<body>\n<h1>GPU Telemetry Exporter</h1>\n" ++
    "<p><a href=\"/metrics\">Metrics</a></p>\n<p><a href=\"/health\">Health</a></p>\n</body>\n</html>\n"

def htmlType : String := "text/html; charset=utf-8"

def plainType : String := "text/plain; charset=utf-8"

def expositionType : String := "text/plain; version=0.0.4; charset=utf-8"

/-- The characters of a path: those before a query or a fragment. -/
def isPathChar (c : Char) : Bool := c != '?' && c != '#'

/-- What stands behind the first occurrence of `://`, if there is one. -/
def afterScheme? : List Char → Option (List Char)
  | ':' :: '/' :: '/' :: cs => some cs
  | _ :: cs => afterScheme? cs
  | [] => none

/-- The path of a request target, which is a path itself or has one behind a scheme and a host. -/
def path (target : String) : String :=
  let cs := target.toList.takeWhile isPathChar
  match cs, afterScheme? cs with
  | '/' :: _, _ => String.ofList cs
  | _, some rest =>
    match rest.dropWhile (· != '/') with
    | [] => "/"
    | p => String.ofList p
  | ['*'], none => "*"
  | _, none => ""

/-- The answer to GET on a path, if there is such a path. -/
def page? (s : Store) (path : String) : Option Response :=
  if path = "/" then some { status := 200, contentType := some htmlType, body := index }
  else if path = "/metrics" then
    some { status := 200, contentType := some expositionType, body := s.latest.getD "" }
  else if path = "/health" then
    if s.isReady then some { status := 200, contentType := some plainType, body := "OK" }
    else some { status := 503, contentType := some plainType, body := "KO" }
  else none

/-- The answer to a request. -/
def respond (s : Store) (method target : String) : Response :=
  match page? s (path target) with
  | none => { status := 404 }
  | some r =>
    if method = "GET" then r
    else if method = "HEAD" then { r with body := "" }
    else { status := 405, allow := some "GET,HEAD" }

end Router
end Telemetry
