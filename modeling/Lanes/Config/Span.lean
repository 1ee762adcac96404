/-!
Places in a configuration text and the diagnostics that point at them.

A position counts lines and columns from one; a span runs from its start to just before its
stop, in one named file. A diagnostic has a summary, a detail and the span it is about; a list of
diagnostics reads as its first one, followed by how many others there are.

Main statement: the span between two spans starts where the first starts and stops where the
second stops (`between_start`, `between_stop`).
-/

namespace Lanes.Config

/-- A place in a text: its line and its column, both counted from one. -/
structure Pos where
  line : Nat
  column : Nat
deriving DecidableEq, Repr, Inhabited

/-- A stretch of a named text, from `start` to just before `stop`. -/
structure Span where
  file : String
  start : Pos
  stop : Pos
deriving DecidableEq, Repr, Inhabited

namespace Span

/-- The stretch from the start of `a` to the stop of `b`. -/
def between (a b : Span) : Span := { a with stop := b.stop }

/-- The empty stretch at the start of a span. -/
def atStart (s : Span) : Span := { s with stop := s.start }

/-- The empty stretch at the stop of a span. -/
def atStop (s : Span) : Span := { s with start := s.stop }

/-- The span written `file:line,column-column`, or `file:line,column-line,column` when it
crosses lines. -/
def text (s : Span) : String :=
  if s.start.line = s.stop.line then
    s.file ++ ":" ++ toString s.start.line ++ "," ++ toString s.start.column ++ "-" ++
      toString s.stop.column
  else
    s.file ++ ":" ++ toString s.start.line ++ "," ++ toString s.start.column ++ "-" ++
      toString s.stop.line ++ "," ++ toString s.stop.column

theorem between_start (a b : Span) : (between a b).start = a.start := rfl

theorem between_stop (a b : Span) : (between a b).stop = b.stop := rfl

end Span

/-- A problem found in a configuration text: what it is, more about it, and where. -/
structure Diagnostic where
  summary : String
  detail : String
  subject : Span
deriving Repr, Inhabited

/-- A diagnostic written `place: summary; detail`. -/
def Diagnostic.text (d : Diagnostic) : String :=
  d.subject.text ++ ": " ++ d.summary ++ "; " ++ d.detail

/-- Diagnostics written as the first one, and how many others follow. -/
def diagnosticsText : List Diagnostic → String
  | [] => "no diagnostics"
  | [d] => d.text
  | d :: rest => d.text ++ ", and " ++ toString rest.length ++ " other diagnostic(s)"

end Lanes.Config
