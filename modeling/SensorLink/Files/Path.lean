import SensorLink.Text.Quoted

namespace SensorLink

/-- A path as the texts between its slashes. The empty path is one empty segment, and an absolute
path begins with one. -/
structure Path where
  segments : List String
deriving DecidableEq, Repr

namespace Path

def ofString (s : String) : Path := ⟨s.splitOn "/"⟩

def toString (p : Path) : String := "/".intercalate p.segments

def inspect (p : Path) : String := Text.quoted p.toString

def isEmpty (p : Path) : Bool := p.segments.all (· = "") && p.segments.length ≤ 1

def hasZero (p : Path) : Bool := p.segments.any fun s => s.toList.contains '\x00'

def byteCount (p : Path) : Nat :=
  (p.segments.map String.utf8ByteSize).foldr (· + ·) (p.segments.length - 1)

/-- A segment that leads from a directory to itself. -/
def stays (segment : String) : Bool := segment = "" || segment = "."

def trimEnd (segments : List String) : List String := (segments.reverse.dropWhile stays).reverse

/-- The name that a path ends in, unless it ends in `..` or nowhere. -/
def fileName? (p : Path) : Option String :=
  match p.segments with
  | [] => none
  | first :: rest =>
    let last := (trimEnd rest).getLast?.getD first
    if stays last || last = ".." then none else some last

def parent? (p : Path) : Option Path :=
  match p.segments with
  | [] => none
  | first :: rest =>
    match trimEnd rest with
    | [] => if first = "" then none else some ⟨[""]⟩
    | names =>
      let above := trimEnd names.dropLast
      if first = "" ∧ above = [] then some ⟨["", ""]⟩ else some ⟨first :: above⟩

def join (p : Path) (name : String) : Path :=
  if p.segments.getLast? = some "" then ⟨p.segments.dropLast ++ [name]⟩
  else ⟨p.segments ++ [name]⟩

/-- Replaces the last name of a path, or adds one where there is none. -/
def withFileName (p : Path) (name : String) : Path :=
  match p.fileName?, p.parent? with
  | some _, some above => above.join name
  | _, _ => p.join name

end Path

end SensorLink
