import MatchedLines.Event
import MatchedLines.Failure
/-!
Work that can be watched and can fail: the events it causes, how it ends, and the state in which
it leaves whatever runs its calls. Work stops at the first failure, and what was done before it
stays done (`Session.andThen`).
-/

namespace MatchedLines

/-- Runs calls of kind `ι`; `σ` is what it remembers from one call to the next. -/
abbrev Runner (ι σ : Type) := ι → σ → Except Failure Unit × σ

/-- Takes the outcomes of its calls from a list; calls past the end of the list succeed. -/
def Runner.scripted {ι : Type} : Runner ι (List (Except Failure Unit))
  | _, [] => (.ok (), [])
  | _, outcome :: rest => (outcome, rest)

/-- Finished work. -/
structure Session (ι σ α : Type) where
  events : List (Event ι)
  outcome : Except Failure α
  state : σ

namespace Session

variable {ι σ α β : Type}

/-- Does nothing but give a result. -/
def pure (a : α) (s : σ) : Session ι σ α := ⟨[], .ok a, s⟩

/-- Prints and gives a result. -/
def print (events : List (Event ι)) (a : α) (s : σ) : Session ι σ α := ⟨events, .ok a, s⟩

/-- Makes one call. -/
def call (runner : Runner ι σ) (what : ι) (s : σ) : Session ι σ Unit :=
  ⟨[.call what], (runner what s).1, (runner what s).2⟩

/-- Goes on with the result, unless there is none. -/
def andThen (x : Session ι σ α) (next : α → σ → Session ι σ β) : Session ι σ β :=
  match x.outcome with
  | .error f => ⟨x.events, .error f, x.state⟩
  | .ok a =>
    let y := next a x.state
    { y with events := x.events ++ y.events }

end Session
end MatchedLines
