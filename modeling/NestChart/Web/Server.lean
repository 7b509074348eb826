import NestChart.Web.MediaType
import NestChart.Web.Multipart
import NestChart.Web.Page
import NestChart.Web.Upload

/-!
# NestChart.Web.Server

The answers of the server: the form at `/`, the chart of an upload at `/upload`, a sign of life at
`/healthz`. Every answer depends on its request, the settings and the host alone. How an upload is
cut into parts is the host's affair (`Host`); `Host.standard` is one that reads bodies as
`Multipart.read` does.
-/

namespace NestChart.Web

inductive Method
  | get
  | head
  | post
  | other
  deriving Repr, DecidableEq

structure Request where
  method : Method
  /-- The path of its target. -/
  path : Chars
  contentType? : Option Chars
  body : Bytes
  deriving Repr, DecidableEq

structure Response where
  status : Nat
  contentType? : Option Chars
  /-- The methods that the path allows, if the one used is not among them. -/
  allow? : Option Chars
  body : Chars
  deriving Repr, DecidableEq

/-- What the server leaves to the program that it runs in. -/
structure Host where
  /-- The form of an upload whose body may have so many bytes, or the answer to a request without
  one. -/
  form : Nat → Request → Except Response Form
  /-- What is told of a task that breaks off, in a program that outlives it. -/
  failure : Chars

/-- What all requests are answered with. -/
structure Server where
  settings : Settings
  /-- Bytes that a file may have. -/
  limit : Nat
  deriving Repr, DecidableEq

namespace Server

/-- A server always draws markup. -/
def ofSettings (settings : Settings) (limit : Nat) : Server :=
  ⟨{ settings with output := .html }, limit⟩

/-- Bytes that a body may have beyond those of its file. -/
def overhead : Nat := 16 * 1024

def page (status : Nat) (html : Chars) : Response :=
  ⟨status, some "text/html; charset=utf-8".toList, none, html⟩

def bare (status : Nat) : Response := ⟨status, none, none, []⟩

def notAllowed (methods : String) : Response := ⟨405, none, some methods.toList, []⟩

/-- The answer to a request without the boundary of a form. -/
def noBoundary : Response :=
  ⟨400, some "text/plain; charset=utf-8".toList, none,
    "Invalid `boundary` for `multipart/form-data` request".toList⟩

/-- The answer to an upload, accepted or refused. -/
def answer : Except UploadError (Chars × Chars) → Response
  | .ok (filename, markup) => page 200 (Page.result filename markup)
  | .error e => page e.status (Page.refusal e.message)

/-- Draws the file of a form. -/
def draw (s : Server) (host : Host) (form : Form) : Except UploadError (Chars × Chars) := do
  let file ← Upload.file form
  let markup ← Upload.chart host.failure s.settings s.limit file
  return (file.name, markup)

/-- The answer to an upload. -/
def upload (s : Server) (host : Host) (r : Request) : Response :=
  match host.form (s.limit + overhead) r with
  | .ok form => answer (s.draw host form)
  | .error refusal => refusal

/-- An answer that a `HEAD` request gets without its body. -/
def reading (m : Method) (r : Response) : Response :=
  match m with
  | .get => r
  | .head => { r with body := [] }
  | _ => notAllowed "GET,HEAD"

/-- The answer to a request in a host. -/
def respondIn (host : Host) (s : Server) (r : Request) : Response :=
  if r.path = "/".toList then reading r.method (page 200 Page.index)
  else if r.path = "/healthz".toList then reading r.method (bare 200)
  else if r.path = "/upload".toList then
    if r.method = .post then s.upload host r else notAllowed "POST"
  else bare 404

end Server

/-- A host that reads bodies in several parts, each with a boundary that its request declares. -/
def Host.standard : Host where
  form limit r :=
    match r.contentType?.bind MediaType.boundary? with
    | some boundary =>
      .ok (if limit < r.body.length then .broken Multipart.overlong
        else Multipart.read boundary r.body)
    | none => .error Server.noBoundary
  failure := "task panicked".toList

/-- The answer to a request in the standard host. -/
def Server.respond (s : Server) (r : Request) : Response := s.respondIn .standard r

end NestChart.Web
