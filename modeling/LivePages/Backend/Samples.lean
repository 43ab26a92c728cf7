import LivePages.Backend.Registry
import LivePages.Escape.Html

/-!
# Sample pages

A small site that shows each thing a page can do.

## Main definitions

* `Sample` — the pages of the site.
* `Sample.handler` — a page by its name.
* `samplePages` — the site.
-/

namespace LivePages.Backend

/-- The pages of the sample site. -/
inductive Sample where
  /-- Prints a word. -/
  | hello
  /-- Prints another word. -/
  | bye
  /-- Greets the visitor named in the query. -/
  | greet
  /-- Lists parameters of a form. -/
  | form
  /-- Tells what was asked for. -/
  | echo
  /-- Has a status and a header of its own. -/
  | teapot
  /-- Breaks off in the middle. -/
  | broken
  /-- Sends the visitor to the address in the query. -/
  | redirect
  /-- Sets the header named in the query, and prints the same header of the request. -/
  | header
  /-- Drops what it printed first. -/
  | clear
  deriving DecidableEq, Repr

/-- All pages, in the order they are registered. -/
def Sample.all : List Sample :=
  [.hello, .bye, .greet, .form, .echo, .teapot, .broken, .redirect, .header, .clear]

/-- The name of a page. -/
def Sample.name : Sample → String
  | .hello => "hello"
  | .bye => "bye"
  | .greet => "greet"
  | .form => "form"
  | .echo => "echo"
  | .teapot => "teapot"
  | .broken => "broken"
  | .redirect => "redirect"
  | .header => "header"
  | .clear => "clear"

/-- The page of a name. -/
def Sample.ofName? (name : String) : Option Sample :=
  Sample.all.find? fun s => s.name == name

/-- The line that the form page prints about a parameter. -/
def formLine (request : Http.Request) (name : String) : String :=
  match request.formValue? name with
  | some value => s!"{name}={value}\n"
  | none => s!"{name} missing\n"

/-- What a page does. -/
def Sample.handler : Sample → Handler
  | .hello, _, reply => .finished (reply.print "hello")
  | .bye, _, reply => .finished (reply.print "bye")
  | .greet, request, reply =>
    let name := (request.queryParam? "name").getD "world"
    .finished (((reply.print "<p>Hello, ").print (Escape.html name)).print "!</p>")
  | .form, request, reply =>
    .finished
      (["a", "b", "c d", "é", ""].foldl (fun r name => r.print (formLine request name)) reply)
  | .echo, request, reply =>
    let line := s!"{request.method} {request.path} {request.uri.render}\n"
    .finished ((reply.print line).print request.bodyText)
  | .teapot, _, reply =>
    .finished (((reply.setStatus 418).setHeader "x-page" "teapot").print "418")
  | .broken, _, reply => .crashed ((reply.print "partial").setHeader "x-partial" "1")
  | .redirect, request, reply =>
    .finished ((reply.print "moving").redirect ((request.queryParam? "to").getD "/"))
  | .header, request, reply =>
    let name := (request.queryParam? "n").getD ""
    let reply := reply.setHeader name ((request.queryParam? "v").getD "")
    .finished (reply.print ((request.header? name).getD "none"))
  | .clear, _, reply => .finished (((reply.print "dropped").clear).print "kept")

/-- The sample site. -/
def samplePages : List (String × Handler) :=
  Sample.all.map fun s => ("/" ++ s.name ++ ".rsp", s.handler)

end LivePages.Backend
