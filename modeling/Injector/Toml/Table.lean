import Injector.Text
/-!
TOML tables and the rules by which a document may fill them. A table is made by a header, by the
header of a table inside it, or by a dotted key, and it remembers which.
-/
namespace Injector.Toml

mutual

/-- A value that stands after an equals sign or in an array. -/
inductive Value where
  | string (value : Text)
  | integer (value : Int)
  /-- A number that is no integer, as it is written. -/
  | float (literal : Text)
  | boolean (value : Bool)
  | moment (literal : Text)
  | array (items : List Value)
  | inline (table : Table)

/-- What a key of a table stands for. -/
inductive Node where
  | value (value : Value)
  | table (table : Table)
  /-- An array of tables that grows by headers; it has at least one. -/
  | tables (newest : Table) (older : List Table)

/-- A table with its entries in the order in which they came. It is `implied` until a header names
it, and `dotted` if a dotted key made it. -/
inductive Table where
  | mk (implied dotted : Bool) (entries : List (Text × Node))

end

/-- Where a key leads: through the tables of some names, to a name in the last of them. -/
structure Path where
  parents : List Text
  name : Text

namespace Table

def empty : Table :=
  .mk false false []

def implied : Table → Bool
  | .mk implied _ _ => implied

def dotted : Table → Bool
  | .mk _ dotted _ => dotted

def entries : Table → List (Text × Node)
  | .mk _ _ entries => entries

def get? (table : Table) (name : Text) : Option Node :=
  table.entries.lookup name

/-- The table with an entry, which replaces an entry of the same name. -/
def put (table : Table) (name : Text) (node : Node) : Table :=
  match table.get? name with
  | none => .mk table.implied table.dotted (table.entries ++ [(name, node)])
  | some _ =>
      .mk table.implied table.dotted
        (table.entries.map fun entry => if entry.1 = name then (name, node) else entry)

/-- Changes the table that a list of names leads to. A name that is not there makes a table that
is implied. The newest table of an array is entered. A dotted key enters implied tables only. -/
def change (byDottedKey : Bool) (edit : Table → Option Table) : List Text → Table → Option Table
  | [], table => edit table
  | name :: rest, table =>
      match table.get? name with
      | none => do
          let child ← change byDottedKey edit rest (.mk true byDottedKey [])
          return table.put name (.table child)
      | some (.value _) => none
      | some (.table child) =>
          if byDottedKey && !child.implied then none
          else do
            let child ← change byDottedKey edit rest child
            return table.put name (.table child)
      | some (.tables newest older) => do
          let newest ← change byDottedKey edit rest newest
          return table.put name (.tables newest older)

/-- Gives a name a value. The table must be reached as it was made, by a dotted key or not, and the
name must be free. -/
def assignName (byDottedKey : Bool) (name : Text) (value : Value) (table : Table) :
    Option Table :=
  if table.dotted == byDottedKey && (table.get? name).isNone then
    some (table.put name (.value value))
  else none

def assign (path : Path) (value : Value) (table : Table) : Option Table :=
  change true (assignName (!path.parents.isEmpty) path.name value) path.parents table

/-- Opens a table of a name, which is new or was only implied by headers of other tables. -/
def openName (name : Text) (table : Table) : Option Table :=
  match table.get? name with
  | none => some (table.put name (.table .empty))
  | some (.table child) =>
      if child.implied && !child.dotted then
        some (table.put name (.table (.mk false false child.entries)))
      else none
  | some _ => none

def openTable (path : Path) (table : Table) : Option Table :=
  change false (openName path.name) path.parents table

/-- Adds a table to the array of tables of a name. -/
def appendName (name : Text) (table : Table) : Option Table :=
  match table.get? name with
  | none => some (table.put name (.tables .empty []))
  | some (.tables newest older) => some (table.put name (.tables .empty (newest :: older)))
  | some _ => none

def appendTable (path : Path) (table : Table) : Option Table :=
  change false (appendName path.name) path.parents table

/-- The table that assignments fill, from the first to the last. -/
def ofAssignments? (assignments : List (Path × Value)) : Option Table :=
  assignments.foldlM (fun table assignment => table.assign assignment.1 assignment.2) .empty

end Table

/-- One line of a document that says something. -/
inductive Statement where
  | table (path : Path)
  | element (path : Path)
  | assignment (path : Path) (value : Value)

/-- The root table after some statements. Assignments fill the table of the last header, which is
at the end of `current`. -/
def Table.follow (root : Table) (current : List Text) : List Statement → Option Table
  | [] => some root
  | .table path :: rest => do
      follow (← root.openTable path) (path.parents ++ [path.name]) rest
  | .element path :: rest => do
      follow (← root.appendTable path) (path.parents ++ [path.name]) rest
  | .assignment path value :: rest => do
      follow (← root.change false (·.assign path value) current) current rest

end Injector.Toml
