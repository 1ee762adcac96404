/-!
Failures as the library reports them. A failure is either only its text, or a coded failure:
a message, a kind, a severity and perhaps the failure it wraps. The text of a coded failure
joins its parts with `": "` and a wrapped coded failure with `":\n\t"`; wrapping moves the
inner kind and severity outward when the outer one says nothing of its own.

Main statement: the kind that a failure answers to is the first kind along its chain that is
not `other`, and wrapping under a message of no kind keeps it (`kindOf_within`).
-/

namespace Lanes

/-- What went wrong, in the vocabulary of the library's failures. -/
inductive FaultKind where
  | other
  | canceled
  | timeout
  | notExist
  | notAllowed
  | notSupported
  | alreadyExists
  | integrity
  | unavailable
  | invalid
  | net
  | tooManyTries
  | precondition
  | outOfMemory
deriving DecidableEq, Repr, Inhabited

namespace FaultKind

/-- The words a failure of this kind carries in its text. -/
def text : FaultKind → String
  | .other => "unknown error"
  | .canceled => "operation was canceled"
  | .timeout => "operation timed out"
  | .notExist => "resource does not exist"
  | .notAllowed => "access denied"
  | .notSupported => "operation not supported"
  | .alreadyExists => "resource already exists"
  | .integrity => "integrity error"
  | .unavailable => "resource unavailable"
  | .invalid => "invalid argument"
  | .net => "network error"
  | .tooManyTries => "too many tries"
  | .precondition => "precondition failed"
  | .outOfMemory => "out of memory"

end FaultKind

/-- The kind's name in reports. -/
def FaultKind.name : FaultKind → String
  | .other => "Other"
  | .canceled => "Canceled"
  | .timeout => "Timeout"
  | .notExist => "NotExist"
  | .notAllowed => "NotAllowed"
  | .notSupported => "NotSupported"
  | .alreadyExists => "Exists"
  | .integrity => "Integrity"
  | .unavailable => "Unavailable"
  | .invalid => "Invalid"
  | .net => "Net"
  | .tooManyTries => "TooManyTries"
  | .precondition => "Precondition"
  | .outOfMemory => "OOM"

/-- Every kind, in the order of their codes. -/
def FaultKind.all : List FaultKind :=
  [.other, .canceled, .timeout, .notExist, .notAllowed, .notSupported, .alreadyExists,
   .integrity, .unavailable, .invalid, .net, .tooManyTries, .precondition, .outOfMemory]

/-- The kind with a report name, if any. -/
def FaultKind.ofName? (name : String) : Option FaultKind := FaultKind.all.find? (·.name == name)

/-- How serious a failure is; most failures say nothing. -/
inductive Severity where
  | unknown
  | fatal
deriving DecidableEq, Repr, Inhabited

/-- The word of a severity in a failure's text. -/
def Severity.text : Severity → String
  | .unknown => "unknown"
  | .fatal => "fatal"

/-- A failure: only a text, or a coded failure that may wrap another. -/
inductive Fault where
  /-- A failure that is only its text. -/
  | text (message : String)
  /-- A failure with a message, a kind, a severity and perhaps the failure it wraps. -/
  | coded (message : String) (kind : FaultKind) (severity : Severity) (cause : Option Fault)
deriving Repr, Inhabited

namespace Fault

/-- A coded failure of a kind with a message and nothing wrapped. -/
def make (kind : FaultKind) (message : String) : Fault := .coded message kind .unknown none

/-- Appends `sep` and then `s` to `acc`, the separator only when something precedes it. -/
def joinAfter (acc sep s : String) : String :=
  if acc.isEmpty then s else acc ++ sep ++ s

/-- The text of a failure written after `acc`. A text-only cause follows after `": "`, a coded
cause, written on its own, after `":\n\t"`, each separator only when something precedes it. -/
def writeAfter (acc : String) : Fault → String
  | .text m => joinAfter acc ": " m
  | .coded m k s c =>
    let a1 := if m.isEmpty then acc else joinAfter acc ": " m
    let a2 := if k = .other then a1 else joinAfter a1 ": " k.text
    let a3 := if s = .unknown then a2 else joinAfter a2 " " ("(" ++ s.text ++ ")")
    match c with
    | none => a3
    | some (.text t) => joinAfter a3 ": " t
    | some inner@(.coded ..) => joinAfter a3 ":\n\t" (writeAfter "" inner)

/-- The text of a failure. -/
def message (f : Fault) : String :=
  match f with
  | .text m => m
  | .coded .. => writeAfter "" f

/-- The kind a failure answers to: the first kind along its chain of coded failures that is
not `other`; `none` for a failure that is only its text. -/
def kindOf : Fault → Option FaultKind
  | .text _ => none
  | .coded _ k _ none => some k
  | .coded _ k _ (some (.text _)) => some k
  | .coded _ k _ (some inner@(.coded ..)) => if k = .other then kindOf inner else some k

/-- The severity a failure states itself. -/
def severityOf : Fault → Severity
  | .text _ => .unknown
  | .coded _ _ s _ => s

/-- Wraps `inner` in a coded failure with a message, a kind and a severity. When the outer
kind is `other` or equals the inner one, the inner kind moves out and the inner failure keeps
`other`; severity moves the same way. A text-only failure is wrapped unchanged. -/
def wrap (kind : FaultKind) (severity : Severity) (message : String) (inner : Fault) : Fault :=
  match inner with
  | .text _ => .coded message kind severity (some inner)
  | .coded m k s c =>
    let (kind', k') := if k = kind ∨ kind = .other then (k, FaultKind.other) else (kind, k)
    let (sev', s') :=
      if s = severity ∨ severity = .unknown then (s, Severity.unknown) else (severity, s)
    .coded message kind' sev' (some (.coded m k' s' c))

/-- Wraps a failure under a message, with no kind or severity of its own. -/
def within (message : String) (inner : Fault) : Fault := wrap .other .unknown message inner

@[simp] theorem kindOf_make (k : FaultKind) (m : String) : (make k m).kindOf = some k := by
  simp [make, kindOf]

/-- Whether a failure answers to a kind. -/
def isKind (f : Fault) (k : FaultKind) : Bool := f.kindOf = some k

theorem kindOf_coded_severity (m : String) (k : FaultKind) (s s' : Severity) (c : Option Fault) :
    (coded m k s c).kindOf = (coded m k s' c).kindOf := by
  rcases c with _ | ⟨t⟩ | ⟨m'', k'', s'', c''⟩ <;> simp [kindOf]

/-- Wrapping under a bare message keeps the kind a coded failure answers to. -/
theorem kindOf_within (m : String) (f : Fault) (h : f.kindOf ≠ none) :
    (within m f).kindOf = f.kindOf := by
  cases f with
  | text t => simp [kindOf] at h
  | coded m' k s c =>
    by_cases hk : k = .other
    · subst hk
      simp only [within, wrap, or_true, kindOf, if_pos]
      exact kindOf_coded_severity _ _ _ _ _
    · simp only [within, wrap, kindOf]
      simp [hk]
      rcases c with _ | ⟨t⟩ | ⟨m'', k'', s'', c''⟩ <;> simp [kindOf, hk]

end Fault

end Lanes
