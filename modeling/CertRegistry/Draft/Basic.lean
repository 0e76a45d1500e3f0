import CertRegistry.Draft.Layout

/-!
# Drafts

A draft is a record before it is saved, with an id and columns that hold values of any type. A
draft without an id is appended to its table. One with an id replaces the row that has it, or is
inserted under it where no row has. Saving converts every column before the storage sees any; what
the storage then refuses comes next, and the rules of the table come last. The storage is reached
before a new row is converted, and after the values that are to take the place of a row.
-/

namespace CertRegistry

/-- A record before it is saved: its id, null for none, and the values of its columns. -/
structure Draft where
  id : Json
  values : List (Draft.Column × Draft.Given)

namespace Draft

variable {α : Type}

/-! ### Making and changing drafts -/

/-- A draft with the values that stand for missing ones. -/
def blank (l : Layout α) : Draft where
  id := .null
  values := l.columns.map fun c => (c, .json c.default)

/-- The names of the id. -/
def idNames : List Text := ["id", "pk"]

/-- A draft with another value for a column; a column that it does not have is passed over. -/
def put (d : Draft) (name : Text) (g : Given) : Draft :=
  { d with values := d.values.map fun (c, old) => (c, if c.name = name then g else old) }

/-- A draft with another value under a name, which may be one of the id. -/
def assign (d : Draft) (name : Text) (g : Given) : Draft :=
  match g with
  | .json v => if name ∈ idNames then { d with id := v } else d.put name g
  | .moment _ => d.put name g

/-- The value of a column, null for one that the draft does not have. -/
def value (d : Draft) (name : Text) : Given :=
  ((d.values.find? fun v => v.1.name = name).map (·.2)).getD (.json .null)

/-- A draft from values given under names. A second name of the id counts more than the first one,
and what a record computes is refused before names that it does not have. -/
def ofMembers (l : Layout α) (members : List (Text × Json)) : Except Failure Draft := do
  let given ← members.mapM fun (name, v) => return (name, ← Given.read name v)
  let (known, rest) := given.partition fun g =>
    idNames.contains g.1 || l.columns.any fun c => c.name = g.1
  match rest.find? fun g => l.computed.contains g.1 with
  | some g => throw (.computedColumn l.title g.1)
  | none =>
    if rest.isEmpty then
      let (last, first) := known.partition fun g => g.1 == Text.ofString "pk"
      return (first ++ last).foldl (fun d g => d.assign g.1 g.2) (blank l)
    else throw (.unknownColumns l.title (rest.map (·.1)))

/-- A draft with other values under some names. -/
def update (l : Layout α) (d : Draft) (members : List (Text × Json)) : Except Failure Draft :=
  members.foldlM (fun d (name, v) =>
    if name ∈ l.computed then throw (.computedColumn l.title name)
    else return d.assign name (← Given.read name v)) d

/-! ### Saving -/

/-- A draft that is changed now. -/
def touched (ctx : Context) (d : Draft) : Draft := d.put "updated_at" (.moment ctx.clock)

/-- A draft that is made now. -/
def stamped (ctx : Context) (d : Draft) : Draft :=
  (d.put "created_at" (.moment ctx.clock)).touched ctx

/-- A saved draft, its row, and the table with it. -/
abbrev Saved (α : Type) := Draft × Row α × Table α

/-- Appends a draft to a table. -/
def append (l : Layout α) (ctx : Context) (d : Draft) (t : Table α) :
    Except Failure (Saved α) := do
  let d := d.stamped ctx
  ctx.reach
  let cells ← Cells.convert d.values
  cells.take
  match t.append? (cells.instant "created_at") (l.record cells) with
  | none => throw .tableFull
  | some (row, t) =>
    cells.constrain l.table
    return ({ d with id := .int row.id }, row, t)

/-- Inserts a draft into a table under an id. -/
def insertAt (l : Layout α) (ctx : Context) (d : Draft) (id : Int) (t : Table α) :
    Except Failure (Saved α) := do
  let d := d.stamped ctx
  ctx.reach
  let cells ← Cells.convert d.values
  if h : minColumn ≤ id ∧ id ≤ maxColumn then
    cells.take
    cells.constrain l.table
    if (t.find? id).isSome then throw (.duplicate l.table "id")
    let row : Row α :=
      ⟨id, cells.instant "created_at", cells.instant "updated_at", l.record cells⟩
    return ({ d with id := .int id }, row, t.place row h.2)
  else throw .columnOverflow

/-- Puts a draft in the place of a row. -/
def overwrite (l : Layout α) (ctx : Context) (d : Draft) (old : Row α) (t : Table α) :
    Except Failure (Saved α) := do
  let d := d.touched ctx
  let cells ← Cells.convert d.values
  ctx.reach
  cells.take
  cells.constrain l.table
  let row : Row α :=
    ⟨old.id, cells.instant "created_at", cells.instant "updated_at", l.record cells⟩
  return (d, row, t.editAt old.id fun _ => row)

/-- Saves a draft. -/
def save (l : Layout α) (ctx : Context) (d : Draft) (t : Table α) :
    Except Failure (Saved α) := do
  ctx.pass l.site
  let key ← Key.ofJson "id" d.id
  match key.id? with
  | none => d.append l ctx t
  | some id =>
    match t.find? id with
    | some old => d.overwrite l ctx old t
    | none =>
      -- its values have to be fit for taking the place of a row, too
      let _ ← Cells.convert (d.touched ctx).values
      d.insertAt l ctx id t

/-- Inserts a draft as a new row, under its id if it has one. -/
def insert (l : Layout α) (ctx : Context) (d : Draft) (t : Table α) :
    Except Failure (Saved α) := do
  ctx.pass l.site
  let key ← Key.ofJson "id" d.id
  match key.id? with
  | none => d.append l ctx t
  | some id => d.insertAt l ctx id t

/-! ### Showing -/

/-- What is shown of a saved draft: its values as they were given, not as they are read back. -/
def toJson (d : Draft) : Except Failure Json := do
  let id ← match d.id.toInteger with
    | .ok id => pure id
    | .error e => throw (.noInteger e)
  let members ← d.values.mapM fun (c, g) => return (c.name, ← c.rendered g)
  return .object (("id", .int id) :: members)

end Draft

end CertRegistry
