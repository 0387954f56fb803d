import SensorLink.Text.Number

namespace SensorLink.Toml

abbrev Scan (α : Type) := List Char → Option (α × List Char)

def isPlain (c : Char) : Bool := c = '\t' || (0x20 ≤ c.toNat && c.toNat ≠ 0x7F)

def isBlank (c : Char) : Bool := c = ' ' || c = '\t'

def escapeLetter? : Char → Option Char
  | 'b' => some '\x08'
  | 't' => some '\t'
  | 'n' => some '\n'
  | 'f' => some '\x0c'
  | 'r' => some '\r'
  | '"' => some '"'
  | '\\' => some '\\'
  | _ => none

def escapeCode? (digits : List Char) : Option Char :=
  match Text.readDigits 16 0x110000 0 digits with
  | .ok n => if n.isValidChar then some (Char.ofNat n) else none
  | .error _ => none

def push (c : Char) (r : Option (List Char × List Char)) : Option (List Char × List Char) :=
  r.map fun (cs, rest) => (c :: cs, rest)

/-- Three quotes end a text with line breaks; up to two more before them belong to it. -/
def closing? (quote : Char) : Scan (List Char)
  | a :: b :: c :: rest =>
    if a = quote ∧ b = quote ∧ c = quote then
      let extra := (rest.take 2).takeWhile (· = quote)
      some (extra, rest.drop extra.length)
    else none
  | _ => none

def isLineEnd (s : List Char) : Bool :=
  match s.dropWhile isBlank with
  | '\n' :: _ => true
  | '\r' :: '\n' :: _ => true
  | _ => false

/-- The rest of a text between double quotes. `trim` says whether blanks and line breaks are being
passed over, as they are behind a backslash at the end of a line. -/
def escapedText (long trim : Bool) : Scan (List Char)
  | [] => none
  | '\\' :: 'u' :: a :: b :: c :: d :: rest => do
    push (← escapeCode? [a, b, c, d]) (escapedText long false rest)
  | '\\' :: 'U' :: a :: b :: c :: d :: e :: f :: g :: h :: rest => do
    push (← escapeCode? [a, b, c, d, e, f, g, h]) (escapedText long false rest)
  | '\\' :: c :: rest =>
    if long && isLineEnd (c :: rest) then escapedText long true (c :: rest)
    else do push (← escapeLetter? c) (escapedText long false rest)
  | '\r' :: '\n' :: rest =>
    if !long then none
    else if trim then escapedText long true rest
    else push '\n' (escapedText long false rest)
  | c :: rest =>
    if c = '"' then
      if !long then some ([], rest)
      else match closing? '"' (c :: rest) with
        | some r => some r
        | none => push c (escapedText long false rest)
    else if c = '\n' then
      if !long then none
      else if trim then escapedText long true rest
      else push c (escapedText long false rest)
    else if trim && isBlank c then escapedText long true rest
    else if isPlain c && c ≠ '\\' then push c (escapedText long false rest)
    else none

def literalText (long : Bool) : Scan (List Char)
  | [] => none
  | '\r' :: '\n' :: rest => if long then push '\n' (literalText long rest) else none
  | c :: rest =>
    if c = '\'' then
      if !long then some ([], rest)
      else match closing? '\'' (c :: rest) with
        | some r => some r
        | none => push c (literalText long rest)
    else if isPlain c || (long && c = '\n') then push c (literalText long rest)
    else none

/-- A line break right behind the opening quotes is not part of the text. -/
def dropLineBreak : List Char → List Char
  | '\n' :: rest => rest
  | '\r' :: '\n' :: rest => rest
  | s => s

def shortQuoted : Scan String
  | '"' :: rest => (escapedText false false rest).map fun (cs, s) => (String.ofList cs, s)
  | '\'' :: rest => (literalText false rest).map fun (cs, s) => (String.ofList cs, s)
  | _ => none

def quoted : Scan String
  | '"' :: '"' :: '"' :: rest =>
    (escapedText true false (dropLineBreak rest)).map fun (cs, s) => (String.ofList cs, s)
  | '\'' :: '\'' :: '\'' :: rest =>
    (literalText true (dropLineBreak rest)).map fun (cs, s) => (String.ofList cs, s)
  | s => shortQuoted s

end SensorLink.Toml
