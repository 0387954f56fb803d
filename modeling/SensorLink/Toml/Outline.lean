import SensorLink.Settings.Value

namespace SensorLink.Toml

open Settings (Value)

/-- How a table came about decides what later lines may add to it: each table is declared once, and
dotted keys reach only tables that dotted keys or longer headers made. -/
inductive Origin where
  /-- The document, a header of its own, or braces. -/
  | declared
  /-- A longer header. -/
  | passed
  | dotted
deriving DecidableEq, Repr

inductive Node where
  | value (v : Value)
  | table (origin : Origin) (entries : List (String × Node))
  /-- Tables under one header; the last one is open. -/
  | tables (closed : List Value) (last : List (String × Node))

abbrev Entries := List (String × Node)

mutual

def Node.toValue : Node → Value
  | .value v => v
  | .table _ entries => .table (entryValues entries)
  | .tables closed last => .list (closed ++ [.table (entryValues last)])

def entryValues : List (String × Node) → List (String × Value)
  | [] => []
  | (key, node) :: rest => (key, node.toValue) :: entryValues rest

end

def alter (key : String) (f : Option Node → Option Node) : Entries → Option Entries
  | [] => do return [(key, ← f none)]
  | (k, node) :: rest =>
    if k = key then do return (k, ← f (some node)) :: rest
    else do return (k, node) :: (← alter key f rest)

/-- Changes the table that a path leads to; tables on the way that are not there yet are made. Of
tables under one header the path enters the last. -/
def within (dotted : Bool) (change : Origin → Entries → Option Entries) :
    List String → Origin → Entries → Option Entries
  | [], origin, entries => change origin entries
  | key :: path, _, entries =>
    alter key (fun node =>
      match node with
      | none =>
        let origin := if dotted then .dotted else .passed
        (within dotted change path origin []).map (Node.table origin)
      | some (.table origin inner) =>
        if dotted && origin = .declared then none
        else (within dotted change path origin inner).map (Node.table origin)
      | some (.tables closed last) =>
        (within dotted change path .declared last).map (Node.tables closed)
      | some (.value _) => none) entries

/-- Adds a value under a dotted key, which must be new. -/
def put (path : List String) (key : String) (v : Value) (origin : Origin) (entries : Entries) :
    Option Entries :=
  within true (fun origin inner =>
    if (origin = .dotted) = (path ≠ []) then
      alter key (fun node => if node.isSome then none else some (.value v)) inner
    else none) path origin entries

/-- Declares the table of a header; a longer header may have made it before. -/
def declare (path : List String) (key : String) (entries : Entries) : Option Entries :=
  within false (fun _ inner =>
    alter key (fun node =>
      match node with
      | none => some (.table .declared [])
      | some (.table .passed inner) => some (.table .declared inner)
      | some _ => none) inner) path .declared entries

def declareNext (path : List String) (key : String) (entries : Entries) : Option Entries :=
  within false (fun _ inner =>
    alter key (fun node =>
      match node with
      | none => some (.tables [] [])
      | some (.tables closed last) => some (.tables (closed ++ [.table (entryValues last)]) [])
      | some _ => none) inner) path .declared entries

def putUnder (header path : List String) (key : String) (v : Value) (entries : Entries) :
    Option Entries :=
  within false (put path key v) header .declared entries

end SensorLink.Toml
