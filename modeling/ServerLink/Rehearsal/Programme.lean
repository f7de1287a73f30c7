import ServerLink.Rehearsal.Stage

namespace ServerLink.Rehearsal

open ServerLink.Controller

inductive Cue where
  /-- An event, not before so many offers to recover have been made. -/
  | event (offers : Nat) (e : Event)
  | use (settings : Settings)
  deriving Repr

namespace Performance

def offers (acts : List Act) : Nat :=
  acts.countP fun
    | .offered _ => true
    | _ => false

def finish (p : Performance) : Bool × Performance × List Act :=
  let (p, acts) := p.ask .stop
  (true, p, acts)

/-- Follows cues, given how many offers have been made. A run in which too few offers are made for the
next cue does not finish. -/
def follow (p : Performance) (made : Nat) : List Cue → Bool × Performance × List Act
  | [] => p.finish
  | .use settings :: cues => follow { p with editor := { p.editor with settings } } made cues
  | .event needed e :: cues =>
      if made < needed then (false, p, [])
      else if e.continues then
        let (p, acts) := p.ask (.handle e)
        let (p, more) := p.attend
        let (finished, p, rest) := follow p (made + offers (acts ++ more)) cues
        (finished, p, acts ++ more ++ rest)
      else p.finish

/-- Runs the controller: whether it finished, how it ended, and what was done. -/
def run (p : Performance) (cues : List Cue) : Bool × Performance × List Act :=
  let (p, acts) := p.ask .restart
  let (p, more) := p.attend
  let (finished, p, rest) := p.follow (offers (acts ++ more)) cues
  (finished, p, acts ++ more ++ rest)

end Performance

end ServerLink.Rehearsal
