import PayloadCheck.Environment.Basic
import PayloadCheck.Report.Event

/-!
# The pool of connections to a database

A pool is open or closed. Opening it asks the server for a group of connections and tries again,
a given number of times in all, as long as the server refuses; every refused group is closed. The
groups are numbered in the order in which they are made, so what becomes of each can be told from
the trace of a pool. Settings that are not given come from the environment.
-/

namespace PayloadCheck.Presence

open PayloadCheck.Report

/-! ## Settings -/

/-- Settings as a caller gives them. -/
structure GivenSettings where
  host : Option String := none
  port : Option Int := none
  database : Option String := none
  user : Option String := none
  password : Option String := none
  minSize : Int := 1
  maxSize : Int := 5
  timeout : Number := .double 30
  name : String := "presence"

/-- The settings of a pool; `seconds` is the timeout as a whole number. -/
structure Settings where
  host : String
  port : Int
  database : String
  user : String
  password : String
  password_ne : password ≠ ""
  minSize : Int
  maxSize : Int
  timeout : Number
  seconds : Int
  name : String

namespace Settings

/-- The fault of a pool without a password. -/
def noPassword : Fault :=
  .badValue "Database password must be provided. Set DB_PASSWORD environment variable or pass to constructor."

/-- The settings of a pool, completed from the environment. The port and the seconds stand in its
line, so they have to have a text. -/
def ofGiven (given : GivenSettings) (env : Environment) : Except Fault Settings := do
  let host := env.textOr given.host "DB_HOST" "localhost"
  let port ← env.portOr given.port "DB_PORT" "5432"
  let database := env.textOr given.database "DB_NAME" "fieldrules"
  let user := env.textOr given.user "DB_USER" "fieldrules"
  let password := env.textOr given.password "DB_PASSWORD" ""
  if h : password ≠ "" then
    let _ ← Value.intText? port
    let seconds ← given.timeout.truncated
    let _ ← Value.intText? seconds
    return { host, port, database, user, password, password_ne := h, seconds
             minSize := given.minSize, maxSize := given.maxSize, timeout := given.timeout
             name := given.name }
  else throw noPassword

/-- The line that tells the server what to connect to; every session only reads. -/
def line (s : Settings) : String :=
  s!"host={s.host} port={s.port} dbname={s.database} user={s.user} password={s.password} connect_timeout={s.seconds} options='-c default_transaction_read_only=on'"

end Settings

/-! ## The server -/

/-- A server refuses a group of connections, with a text, or opens it. -/
structure Server where
  refusal? : (group : Nat) → Option String

/-- What is done with the groups of a pool. -/
inductive Act where
  | made (group : Nat)
  | opened (group : Nat)
  | refused (group : Nat) (detail : String)
  | closed (group : Nat)
  | waited (delay : Number)
deriving DecidableEq, Repr

/-! ## The pool -/

/-- A pool: how many groups it has made, the one in use, and what was done so far. -/
structure Pool where
  settings : Settings
  made : Nat := 0
  current : Option Nat := none
  acts : List Act := []

namespace Pool

/-- Whether a pool is open. -/
def isOpen (p : Pool) : Bool := p.current.isSome

/-- The fault of a server that refused every time. -/
def unreachable (tries : Int) (detail : String) : Fault :=
  .database s!"Failed to connect to database after {tries} attempts: {detail}"

/-- The pool after one more group was made and refused. -/
def afterRefusal (p : Pool) (detail : String) : Pool :=
  { p with
    made := p.made + 1
    acts := p.acts ++ [.made p.made, .refused p.made detail, .closed p.made] }

/-- The pool after one more group was made and opened. -/
def afterOpening (p : Pool) : Pool :=
  { p with
    made := p.made + 1, current := some p.made
    acts := p.acts ++ [.made p.made, .opened p.made] }

/-- The pool after waiting. -/
def afterWaiting (p : Pool) (delay : Number) : Pool := { p with acts := p.acts ++ [.waited delay] }

/-- The event of a pool that was opened. -/
def openedEvent (p : Pool) : Event :=
  let s := p.settings
  .poolOpened s.name s.host s.port s.database s.minSize

/-- Tries to open a closed pool as often as is left of the tries; without tries there is nothing
to do. -/
def tryOpen (server : Server) (tries : Int) (delay : Number) :
    (left : Nat) → Pool → Except Fault Unit × Pool × List Event
  | 0, p => (.ok (), p, [])
  | left + 1, p =>
    match server.refusal? p.made with
    | none => (.ok (), p.afterOpening, [p.openedEvent])
    | some detail =>
      let q := p.afterRefusal detail
      if left = 0 then (.error (unreachable tries detail), q, [])
      else
        let (result, r, events) := tryOpen server tries delay left (q.afterWaiting delay)
        (result, r, .connectFailed (tries - left) tries detail :: events)

theorem tryOpen_of_opens {server : Server} {p : Pool} (h : server.refusal? p.made = none)
    (tries : Int) (delay : Number) (left : Nat) :
    tryOpen server tries delay (left + 1) p = (.ok (), p.afterOpening, [p.openedEvent]) := by
  simp [tryOpen, h]

theorem tryOpen_of_last {server : Server} {p : Pool} {detail : String}
    (h : server.refusal? p.made = some detail) (tries : Int) (delay : Number) :
    tryOpen server tries delay 1 p = (.error (unreachable tries detail), p.afterRefusal detail, []) := by
  simp [tryOpen, h]

theorem tryOpen_of_refuses {server : Server} {p : Pool} {detail : String}
    (h : server.refusal? p.made = some detail) (tries : Int) (delay : Number) (left : Nat) :
    tryOpen server tries delay (left + 2) p =
      let (result, q, events) :=
        tryOpen server tries delay (left + 1) ((p.afterRefusal detail).afterWaiting delay)
      (result, q, .connectFailed (tries - (left + 1)) tries detail :: events) := by
  rw [tryOpen]
  simp [h]

/-- How often opening is tried if nothing else is asked for. -/
def usualTries : Int := 3

/-- The seconds between two tries if nothing else is asked for. -/
def usualDelay : Number := .double 2

/-- Opens a pool; one that is open stays as it is. -/
def open_ (p : Pool) (server : Server) (tries : Int := usualTries) (delay : Number := usualDelay) :
    Except Fault Unit × Pool × List Event :=
  if p.isOpen then (.ok (), p, []) else tryOpen server tries delay tries.toNat p

/-- Closes a pool; one that is closed stays as it is. -/
def close (p : Pool) : Pool × List Event :=
  match p.current with
  | none => (p, [])
  | some group =>
    ({ p with current := none, acts := p.acts ++ [.closed group] }, [.poolClosed p.settings.name])

/-- The group that a cursor reads from. -/
def cursor (p : Pool) : Except Fault Nat :=
  match p.current with
  | some group => .ok group
  | none => .error .poolClosed

/-- What a caller does with a pool. A block enters the pool and leaves it again; what is done within
the block stands between the two. -/
inductive Operation where
  | open_ (tries : Int) (delay : Number)
  | close
  | cursor
  | enter
  | leave

/-- Does one thing with a pool; a cursor is answered by the group that it reads from. -/
def perform (p : Pool) (server : Server) : Operation → Except Fault (Option Nat) × Pool × List Event
  | .open_ tries delay =>
    let (result, q, events) := p.open_ server tries delay
    (result.map fun _ => none, q, events)
  | .cursor => (p.cursor.map some, p, [])
  | .enter =>
    let (result, q, events) := p.open_ server
    (result.map fun _ => none, q, events)
  | .close | .leave =>
    let (q, events) := p.close
    (.ok none, q, events)

/-- Does one thing after another, whatever comes of each. -/
def performAll (server : Server) : List Operation → Pool → Pool × List Event
  | [], p => (p, [])
  | operation :: rest, p =>
    let (_, q, events) := p.perform server operation
    let (r, more) := performAll server rest q
    (r, events ++ more)

/-- Looks at a pool while it is open, and closes it afterwards. -/
def within {α : Type} (p : Pool) (server : Server) (body : Pool → α) :
    Except Fault α × Pool × List Event :=
  match p.perform server .enter with
  | (.error fault, q, events) => (.error fault, q, events)
  | (.ok _, q, events) =>
    let (_, r, more) := q.perform server .leave
    (.ok (body q), r, events ++ more)

end Pool

end PayloadCheck.Presence
