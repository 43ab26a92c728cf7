import LivePages.Http.Message
import LivePages.Log
import LivePages.Text.Quoted

/-!
# Replies

What a page writes into. The output is kept until the page is done, so that status and headers can
be changed at any time.

## Main definitions

* `Reply` — the output of a page so far.
* `Reply.print`, `Reply.clear` — what is printed.
* `Reply.setStatus`, `Reply.setHeader`, `Reply.redirect` — what goes before it.
* `Reply.toResponse` — the finished response.
-/

namespace LivePages.Backend

/-- The output of a page so far. -/
structure Reply where
  /-- The status code. -/
  status : Nat := 200
  /-- The header fields. -/
  headers : Http.Headers := [⟨"content-type", Text.Utf8.ofString "text/html; charset=utf-8"⟩]
  /-- What is printed. -/
  body : String := ""
  /-- What was reported while the page ran. -/
  log : List Log.Line := []
  deriving DecidableEq, Repr

/-- The number is a status code. -/
def isStatus (code : Nat) : Bool :=
  100 ≤ code && code ≤ 999

namespace Reply

/-- Prints a text. -/
def print (reply : Reply) (text : String) : Reply :=
  { reply with body := reply.body ++ text }

/-- Drops what is printed. -/
def clear (reply : Reply) : Reply :=
  { reply with body := "" }

/-- Changes the status code. -/
def setStatus (reply : Reply) (code : Nat) : Reply :=
  { reply with status := code }

/-- Gives a header one value. A name or value that is not legal is reported and left out. -/
def setHeader (reply : Reply) (name value : String) : Reply :=
  let bytes := Text.Utf8.ofString value
  match Http.headerName? name, Http.isHeaderValue bytes with
  | some lower, true => { reply with headers := reply.headers.replace lower bytes }
  | _, _ =>
    let line := Log.warn s!"Ignoring invalid header {name}: {Text.Quoted.quote value}"
    { reply with log := reply.log ++ [line] }

/-- Sends the reader to another address. -/
def redirect (reply : Reply) (location : String) : Reply :=
  (reply.setStatus 302).setHeader "location" location

/-- The finished response. -/
def toResponse (reply : Reply) : Http.Response :=
  ⟨reply.status, reply.headers, Text.Utf8.ofString reply.body⟩

end Reply

end LivePages.Backend
