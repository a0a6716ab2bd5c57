namespace CodeGraph.Text

def hexValue (c : Char) : Nat :=
  if c.toNat < 0x3a then c.toNat - 0x30 else c.toNat - 0x57

def readHex (cs : List Char) : Nat := cs.foldl (fun n c => n * 16 + hexValue c) 0

def rows (text : String) : List (List Char) :=
  (text.toList.splitOnP fun c => c == ' ' || c == '\n').filter fun row => !row.isEmpty

/-- Code points from `first` to `last`, both included. -/
structure Span where
  first : Nat
  last : Nat

namespace Span

def contains (s : Span) (n : Nat) : Bool := s.first ≤ n && n ≤ s.last

def ofRow (row : List Char) : Span :=
  match row.splitOn '-' with
  | [a, b] => ⟨readHex a, readHex b⟩
  | _ => ⟨readHex row, readHex row⟩

end Span

/-- The spans of a table. Its rows are hexadecimal, divided by blanks, and written `n` or `n-m`. -/
def spans (text : String) : List Span := (rows text).map Span.ofRow

def inSpans (table : List Span) (c : Char) : Bool := table.any fun s => s.contains c.toNat

/-- The spans of a table with classes, each behind a slash. -/
def classedSpans (text : String) : List (Span × Nat) :=
  (rows text).map fun row =>
    match row.splitOn '/' with
    | [span, cls] => (Span.ofRow span, readHex cls)
    | _ => (Span.ofRow row, 0)

def classIn (table : List (Span × Nat)) (c : Char) : Nat :=
  match table.find? fun row => row.1.contains c.toNat with
  | some row => row.2
  | none => 0

/-- What neighbouring characters from `first` on become. -/
structure Listing where
  first : Nat
  images : List (List Char)

namespace Listing

def image? (l : Listing) (c : Char) : Option (List Char) :=
  if c.toNat < l.first then none
  else l.images[c.toNat - l.first]?.filter fun image => !image.isEmpty

def imageOfText (cs : List Char) : List Char :=
  if cs.isEmpty then [] else (cs.splitOn '.').map fun part => Char.ofNat (readHex part)

def ofRow (row : List Char) : Listing :=
  match row.splitOn ':' with
  | [first, images] => ⟨readHex first, (images.splitOn ',').map imageOfText⟩
  | _ => ⟨readHex row, []⟩

def entries (l : Listing) : List (Char × List Char) :=
  (l.images.mapIdx fun i image => (Char.ofNat (l.first + i), image)).filter
    fun entry => !entry.2.isEmpty

end Listing

/-- The listings of a table. A row `n:a,b,c` says what `n`, `n + 1` and `n + 2` become; several
characters are joined by dots, and nothing stands for a character that the table leaves out. -/
def listings (text : String) : List Listing := (rows text).map Listing.ofRow

def imageIn? (table : List Listing) (c : Char) : Option (List Char) :=
  table.findSome? fun l => l.image? c

end CodeGraph.Text
