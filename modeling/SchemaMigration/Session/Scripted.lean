import SchemaMigration.Session
import SchemaMigration.Text.Pieces

/-!
# Scripted sessions

A session that answers by rules: the first rule whose needle occurs in a statement's text decides,
and a statement that no rule knows is applied without rows. It records what it is asked.
-/

namespace SchemaMigration.Session.Scripted

/-- What a rule makes of a statement. -/
inductive Response where
  | rows (rows : List Row)
  | notApplied
  | fail (reason : String)
  /-- Takes some milliseconds and is applied without rows. -/
  | hang (milliseconds : Nat)

/-- A rule: statements with the needle in their text get the response. -/
structure Rule where
  needle : String
  response : Response

/-- What a scripted session knows of its past. -/
structure State where
  executed : List Statement := []
  closed : Bool := false
  cancels : Nat := 0

/-- The response to a text, if a rule knows it. -/
def respond? (rules : List Rule) (text : String) : Option Response :=
  (rules.find? fun rule => Text.occursIn rule.needle.toList text.toList).map Rule.response

/-- A response as a reply to a statement. -/
def Response.reply (statement : Statement) : Response → Reply
  | .rows answer => ⟨0, .ok (.ofRows answer)⟩
  | .notApplied => ⟨0, .ok .notApplied⟩
  | .fail reason => ⟨0, .error (.execution statement.text reason)⟩
  | .hang milliseconds => ⟨milliseconds, .ok (.ofRows [])⟩

/-- Answers and records a statement, unless the session is closed. -/
def send (rules : List Rule) (state : State) (statement : Statement) : Reply × State :=
  if state.closed then (⟨0, .error .closed⟩, state)
  else
    let response := (respond? rules statement.text).getD (.rows [])
    (response.reply statement, { state with executed := state.executed ++ [statement] })

/-- The session that follows rules; closing it may be made to fail. -/
def session (dialect : Dialect) (rules : List Rule) (failClose : Bool) : Session State where
  backend := "fake"
  dialect := dialect
  send := send rules
  cancel state := { state with cancels := state.cancels + 1 }
  close state :=
    (if failClose then some (.close "fake close failure") else none, { state with closed := true })

end SchemaMigration.Session.Scripted
