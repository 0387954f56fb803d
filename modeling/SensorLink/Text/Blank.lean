
namespace SensorLink.Text

/-- White space as the character database defines it (`White_Space`). -/
def isBlank (c : Char) : Bool :=
  let n := c.toNat
  (0x9 ≤ n && n ≤ 0xD) || n == 0x20 || n == 0x85 || n == 0xA0 || n == 0x1680 ||
    (0x2000 ≤ n && n ≤ 0x200A) || n == 0x2028 || n == 0x2029 || n == 0x202F || n == 0x205F ||
    n == 0x3000

def trimStart (s : List Char) : List Char := s.dropWhile isBlank

def trimEnd (s : List Char) : List Char := (s.reverse.dropWhile isBlank).reverse

def trim (s : List Char) : List Char := trimEnd (trimStart s)

/-- Removes every leading repetition of the two characters `a` and `b`. -/
def dropPairs (a b : Char) : List Char → List Char
  | c :: d :: rest => if c = a ∧ d = b then dropPairs a b rest else c :: d :: rest
  | s => s

end SensorLink.Text
