import SchemaCatalog.Session.ReadOnly
import SchemaCatalog.Store.Access

/-!
# Handling requests

`Session.handle` handles one request: it lets a handler work on the session and the store, and
answers with what the handler tells. Session and store are then as the handler has left them,
whether it has succeeded or not.
-/

namespace SchemaCatalog

/-- What a session answers to a request: the rows to show or an error, the notes written before,
and how session and store stand afterwards. -/
structure Outcome where
  answer : Except CatalogError (Option (List Row))
  notes : List Note
  session : Session
  access : Access

/-- What comes of the work of a handler on a store that a session has reached. -/
def Outcome.ofResult (a : Access) : EStateM.Result Failure Scene Response → Outcome
  | .ok response scene =>
    ⟨.ok response.rows, response.note.toList, scene.session, a.after scene.store.committed⟩
  | .error failure scene =>
    ⟨.error failure.error, failure.note.toList, scene.session, a.after scene.store.committed⟩

namespace Session

/-- Why a request is refused when the store is out of reach. Whether the request is one that
sessions handle, whether a database is selected where it needs one, and what a view reads from is
found out before the store is needed. -/
def refusal (x : Session) (outage : Outage) (r : Request) : Failure :=
  let unavailable : Failure := ⟨r.kind?.map .storeFailed, .storeUnavailable outage⟩
  match r with
  | .other typeName => .of (.unsupported (.statement typeName))
  | .malformed flaw => .of (.malformed flaw)
  | .createView _ query =>
    match x.references query with
    | .error f => f
    | .ok _ => unavailable
  | r =>
    if r.kind?.any (·.isScoped) ∧ x.current = none then .of .noDatabaseSelected
    else unavailable

/-- Handles a request. -/
def handle (x : Session) (r : Request) (a : Access) : Outcome :=
  match a with
  | .ready s => .ofResult a (Handler.perform r ⟨x, .begin s⟩)
  | .readOnly s => .ofResult a (Handler.performReadOnly r ⟨x, .begin s⟩)
  | .broken outage =>
    let failure := x.refusal outage r
    ⟨.error failure.error, failure.note.toList, x, a⟩

end Session

end SchemaCatalog
