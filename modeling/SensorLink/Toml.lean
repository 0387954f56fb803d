import SensorLink.Toml.Outline
import SensorLink.Toml.Scalar

namespace SensorLink.Toml

open Settings (Value)

/-- The longest dotted key, and the deepest nesting of brackets and braces, plus one. -/
def depthLimit : Nat := 80

def skipBlanks (s : List Char) : List Char := s.dropWhile isBlank

def skipLines (inComment : Bool) : List Char → Option (List Char)
  | [] => some []
  | '\n' :: rest => skipLines false rest
  | '\r' :: '\n' :: rest => skipLines false rest
  | c :: rest =>
    if inComment then if isPlain c then skipLines true rest else none
    else if isBlank c then skipLines false rest
    else if c = '#' then skipLines true rest
    else if c = '\r' then none
    else some (c :: rest)

/-- The end of a line with a value or a header, before which a comment may stand. -/
def lineEnd (s : List Char) : Option (List Char) :=
  let s := skipBlanks s
  let s := if s.head? = some '#' then s.dropWhile isPlain else s
  match s with
  | [] => some []
  | '\n' :: rest => some rest
  | '\r' :: '\n' :: rest => some rest
  | _ => none

def expect (c : Char) : List Char → Option (List Char)
  | [] => none
  | d :: rest => if c = d then some rest else none

def isBareKeyChar (c : Char) : Bool := c.isAlphanum || c = '_' || c = '-'

def plainKey : Scan String := fun s =>
  if s.head? = some '"' || s.head? = some '\'' then shortQuoted s
  else
    let name := s.takeWhile isBareKeyChar
    if name.isEmpty then none else some (String.ofList name, s.drop name.length)

/-- A dotted key of at most `fuel` names: those on the way, and the last one. Blanks may stand around
each. -/
def dottedKey : Nat → Scan (List String × String)
  | 0, _ => none
  | fuel + 1, s => do
    let (name, rest) ← plainKey (skipBlanks s)
    match skipBlanks rest with
    | '.' :: rest =>
      let ((path, last), rest) ← dottedKey fuel rest
      return ((name :: path, last), rest)
    | rest => return (([], name), rest)

def key : Scan (List String × String) := dottedKey (depthLimit - 1)

def pair (value : Scan Value) : Scan ((List String × String) × Value) := fun s => do
  let (k, s) ← key s
  let (v, s) ← value (skipBlanks (← expect '=' s))
  return ((k, v), s)

def items (value : Scan Value) : Nat → Scan (List Value)
  | 0, _ => none
  | fuel + 1, s => do
    let start ← skipLines false s
    if start.head? = some ']' then return ([], start.drop 1)
    let (v, rest) ← value start
    match ← skipLines false rest with
    | ']' :: rest => return ([v], rest)
    | ',' :: rest =>
      let (vs, rest) ← items value fuel rest
      return (v :: vs, rest)
    | _ => none

/-- The pairs of a table in braces, at least one and at most `fuel` of them, up to its closing
brace. -/
def pairs (value : Scan Value) : Nat → Entries → Scan Entries
  | 0, _, _ => none
  | fuel + 1, entries, s => do
    let (((path, k), v), rest) ← pair value s
    let entries ← put path k v .declared entries
    match skipBlanks rest with
    | '\x7d' :: rest => return (entries, rest)
    | ',' :: rest => pairs value fuel entries rest
    | _ => none

/-- A value; `room` is how deep it may nest, and `fuel` how many items it may have at each level. -/
def value (fuel room : Nat) : Scan Value
  | '[' :: s =>
    match room with
    | 0 => none
    | room + 1 => do
      let (vs, rest) ← items (value fuel room) fuel s
      return (.list vs, rest)
  | '\x7b' :: s =>
    match room with
    | 0 => none
    | room + 1 =>
      match skipBlanks s with
      | '\x7d' :: rest => some (.table [], rest)
      | s => do
        let (entries, rest) ← pairs (value fuel room) fuel [] s
        return (.table (entryValues entries), rest)
  | s =>
    if s.head? = some '"' || s.head? = some '\'' then do
      let (t, rest) ← quoted s
      return (.text t, rest)
    else scalar s

/-- Reads lines into the tables; `header` is the path of the one that is being filled. No line has
more than `size` items, and each one that is read takes one from `fuel`. -/
def lines (size : Nat) : Nat → List String → Entries → List Char → Option Entries
  | 0, _, _, _ => none
  | fuel + 1, header, entries, s => do
    match ← skipLines false s with
    | [] => return entries
    | '[' :: '[' :: rest =>
      let ((path, k), rest) ← key rest
      let rest ← lineEnd (← expect ']' (← expect ']' rest))
      lines size fuel (path ++ [k]) (← declareNext path k entries) rest
    | '[' :: rest =>
      let ((path, k), rest) ← key rest
      let rest ← lineEnd (← expect ']' rest)
      lines size fuel (path ++ [k]) (← declare path k entries) rest
    | rest =>
      let (((path, k), v), rest) ← pair (value size (depthLimit - 1)) rest
      lines size fuel header (← putUnder header path k v entries) (← lineEnd rest)

/-- The table that a document describes; a byte order mark may come first. Each line and each item
takes a character at least, so a document has fewer of them than its length plus one. -/
def parse (s : String) : Option Value :=
  let s := s.toList
  let s := if s.head? = some '\uFEFF' then s.drop 1 else s
  let size := s.length + 1
  (lines size size [] [] s).map fun entries => .table (entryValues entries)

end SensorLink.Toml
