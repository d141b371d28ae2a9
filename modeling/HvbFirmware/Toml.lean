import Mathlib.Data.List.Basic
import Mathlib.Tactic.TypeStar

/-!
# Tables of a configuration file

The nodes that a configuration file is made of, looked up the way a reader of the file looks them
up: by key, with a default for a node that is missing or of another kind. The tables are those of
some library.
-/
namespace Toml

/-! ## Nodes -/

/-- The nodes of a library whose tables are `τ`. -/
inductive Node (τ : Type) where
  | string (text : String)
  | integer (value : Int)
  | array (nodes : List (Node τ))
  | table (entries : τ)

/-- The values of a C `int`. -/
def FitsInt (value : Int) : Prop := -2147483648 ≤ value ∧ value ≤ 2147483647

instance (value : Int) : Decidable (FitsInt value) := inferInstanceAs (Decidable (_ ∧ _))

/-- The tables of a library, of which only this is relied on: a key that is assigned shows its node,
the other keys show what they did, and an integer that fits into an `int` is read as it is. -/
structure Tables where
  Table : Type
  empty : Table
  insertOrAssign : String → Node Table → Table → Table
  get : Table → String → Option (Node Table)
  intOr : (default : Int) → Option (Node Table) → Int
  get_empty : ∀ key, get empty key = none
  get_insertOrAssign_self : ∀ table key node,
    get (insertOrAssign key node table) key = some node
  get_insertOrAssign_of_ne : ∀ table {key key'} node, key' ≠ key →
    get (insertOrAssign key node table) key' = get table key'
  intOr_integer : ∀ {default value}, FitsInt value → intOr default (some (.integer value)) = value

attribute [simp] Tables.get_empty Tables.get_insertOrAssign_self Tables.get_insertOrAssign_of_ne

/-! ## Values -/

variable {τ : Type}

def stringOr (default : String) : Option (Node τ) → String
  | some (.string text) => text
  | _ => default

def asArray? : Option (Node τ) → Option (List (Node τ))
  | some (.array nodes) => some nodes
  | _ => none

def asTable? : Option (Node τ) → Option τ
  | some (.table entries) => some entries
  | _ => none

@[simp] theorem stringOr_string (default text : String) :
    stringOr default (some (.string text : Node τ)) = text := rfl

@[simp] theorem asArray?_array (nodes : List (Node τ)) :
    asArray? (some (.array nodes)) = some nodes := rfl

@[simp] theorem asArray?_none : asArray? (none : Option (Node τ)) = none := rfl

@[simp] theorem asTable?_table (entries : τ) : asTable? (some (.table entries)) = some entries :=
  rfl

/-! ## Lists of assignments -/

/-- A table by its assignments, the last one first. -/
inductive Assigned where
  | empty
  | assign (key : String) (node : Node Assigned) (rest : Assigned)

def Assigned.get : Assigned → String → Option (Node Assigned)
  | .empty, _ => none
  | .assign key node rest, key' => if key' = key then some node else rest.get key'

/-- The plainest tables; an integer that does not fit is as good as missing. -/
def assigned : Tables where
  Table := Assigned
  empty := .empty
  insertOrAssign := .assign
  get := Assigned.get
  intOr default
    | some (.integer value) => if FitsInt value then value else default
    | _ => default
  get_empty _ := rfl
  get_insertOrAssign_self _ _ _ := if_pos rfl
  get_insertOrAssign_of_ne _ _ _ _ hne := if_neg hne
  intOr_integer hfits := if_pos hfits

/-! ## Arrays of tables -/

/-- The elements that are tables, each with its index. -/
def readTables {α : Type*} (read : Nat → τ → α) (nodes : List (Node τ)) : List α :=
  nodes.zipIdx.filterMap fun p => (asTable? (some p.1)).map (read p.2)

def writeTables {α : Type*} (write : α → τ) (xs : List α) : List (Node τ) :=
  xs.map fun x => .table (write x)

/-- What the reader makes of each table, it makes of the array. -/
theorem readTables_writeTables {α : Type*} {write : α → τ} {read : Nat → τ → α} {f : α → α}
    {xs : List α} (h : ∀ x ∈ xs, ∀ i, read i (write x) = f x) :
    readTables read (writeTables write xs) = xs.map f := by
  have hread : ∀ p ∈ xs.zipIdx, (asTable? (some (.table (write p.1)))).map (read p.2) =
      some (f p.1) := fun p hp => congrArg some (h p.1 (List.fst_mem_of_mem_zipIdx hp) p.2)
  calc readTables read (writeTables write xs)
      = xs.zipIdx.filterMap fun p => (asTable? (some (.table (write p.1)))).map (read p.2) := by
        simp [readTables, writeTables, List.zipIdx_map, List.filterMap_map, Function.comp_def]
    _ = xs.zipIdx.filterMap fun p => some (f p.1) := List.filterMap_congr hread
    _ = (xs.zipIdx.map Prod.fst).map f := by rw [List.filterMap_eq_map', List.map_map]; rfl
    _ = xs.map f := by rw [List.zipIdx_map_fst]

end Toml
