import SchemaCatalog.Console.Line

/-!
# Catalogs

A catalog is one store with any number of sessions on it. What happens to it is a list of events:
requests and lines that one of the sessions handles, and the creation or clearing of the tables.
`Catalog.step` lets one event happen and `Catalog.run` a list of them.
-/

namespace SchemaCatalog

/-- A store and the sessions on it. -/
structure Catalog where
  access : Access
  sessions : List Session

/-- Something that happens to a catalog; sessions go by their place in the list. -/
inductive Event
  | request (session : Nat) (r : Request)
  | line (session : Nat) (text : String)
  /-- The tables are created, unless they exist. -/
  | setUp
  /-- The tables are dropped, if they exist, and created anew. -/
  | clear

/-- What comes of an event. -/
inductive Reply
  | answer (answer : Except CatalogError (Option (List Row)))
  | line (succeeded : Bool) (output : String) (notes : List Note)
  | done
  /-- The tables cannot be created. -/
  | unavailable (outage : Outage)
  /-- There is no such session. -/
  | nobody

namespace Catalog

/-- A catalog with an empty store. -/
def start (sessions : List Session) : Catalog := ⟨.ready .empty, sessions⟩

/-- The catalog after its tables have been created, or have not been. -/
def withTables (c : Catalog) : Except Outage Access → Reply × Catalog
  | .ok a => (.done, { c with access := a })
  | .error outage => (.unavailable outage, c)

/-- Lets an event happen. -/
def step (c : Catalog) : Event → Reply × Catalog
  | .request i r =>
    match c.sessions[i]? with
    | none => (.nobody, c)
    | some x =>
      let o := x.handle r c.access
      (.answer o.answer, ⟨o.access, c.sessions.set i o.session⟩)
  | .line i text =>
    match c.sessions[i]? with
    | none => (.nobody, c)
    | some x =>
      let r := x.runLine text c.access
      (.line r.succeeded r.output r.notes, ⟨r.access, c.sessions.set i r.session⟩)
  | .setUp => c.withTables c.access.initialized
  | .clear => c.withTables c.access.cleared

/-- Lets events happen one after the other. -/
def run (c : Catalog) : List Event → List Reply × Catalog
  | [] => ([], c)
  | e :: rest =>
    let (reply, c) := c.step e
    let (replies, c) := c.run rest
    (reply :: replies, c)

end Catalog

end SchemaCatalog
