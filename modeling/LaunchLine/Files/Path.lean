import LaunchLine.Text.Utf8

/-!
# Files/Path — paths as they are spelled

A path is a byte string.  It is an **anchor** (the root `/`, or a `.` in front that names the
current directory) followed by pieces between slashes, of which empty ones and `.` are void.
Parents are taken textually: `ancestors` drops pieces from the end, keeps the spelling of what is
left and knows nothing of links or of `..`.
-/

namespace LaunchLine

/-- The byte of a slash. -/
def slash : UInt8 := 0x2F

/-- The byte of a dot. -/
def dot : UInt8 := 0x2E

/-- A path, by its spelling. -/
structure Path where
  bytes : Bytes
  deriving DecidableEq, Repr

namespace Path

/-- The path that a text spells. -/
def ofString (text : String) : Path :=
  ⟨Utf8.encode text⟩

/-- The path as a text; pieces that are not text show as U+FFFD. -/
def display (p : Path) : String :=
  Utf8.decodeLossy p.bytes

/-- Whether the path begins at the root. -/
def isAbsolute (p : Path) : Bool :=
  p.bytes.head? == some slash

/-- Cut bytes at every slash; there is one piece more than there are slashes. -/
def cut : Bytes → List Bytes
  | [] => [[]]
  | b :: rest =>
    if b = slash then [] :: cut rest
    else
      match cut rest with
      | [] => [[b]]
      | piece :: pieces => (b :: piece) :: pieces

theorem cut_ne_nil (bs : Bytes) : cut bs ≠ [] := by
  fun_cases cut bs <;> simp

/-- **Nothing is lost**: the pieces with slashes between them make up the bytes. -/
theorem intercalate_cut (bs : Bytes) : [slash].intercalate (cut bs) = bs := by
  fun_induction cut bs with
  | case1 => rfl
  | case2 rest ih =>
    obtain ⟨p, ps, h⟩ := List.exists_cons_of_ne_nil (cut_ne_nil rest)
    rw [h] at ih ⊢
    simp [List.intercalate_cons_cons, ih]
  | case3 b rest _ h _ => exact absurd h (cut_ne_nil rest)
  | case4 b rest _ piece pieces h ih =>
    rw [h] at ih
    cases pieces <;> simp_all [List.intercalate_cons_cons]

/-- Whether a piece adds nothing: it is empty, or a dot. -/
def isVoid (piece : Bytes) : Bool :=
  piece == [] || piece == [dot]

/-- The part of a path that no piece belongs to: the root, or a dot in front. -/
def anchor (p : Path) : Bytes :=
  match p.bytes with
  | [] => []
  | b :: rest =>
    if b = slash then [slash]
    else if b = dot && (rest = [] || rest.head? = some slash) then [dot]
    else []

/-- The pieces of a path behind its anchor. -/
def pieces (p : Path) : List Bytes :=
  cut (p.bytes.drop p.anchor.length)

/-- The path of an anchor and pieces, given from the last to the first. -/
def ofPieces (anchor : Bytes) (reversed : List Bytes) : Path :=
  ⟨anchor ++ [slash].intercalate reversed.reverse⟩

/-- The paths above an anchor and pieces, nearest first; the pieces are given from the last to the
first. -/
def above (anchor : Bytes) : (reversed : List Bytes) → List Path
  | [] => if anchor = [dot] then [⟨[]⟩] else []
  | piece :: rest =>
    if isVoid piece then above anchor rest
    else ofPieces anchor (rest.dropWhile isVoid) :: above anchor rest

/-- The path itself and all paths above it, nearest first.  A relative path ends with the empty one.
-/
def ancestors (p : Path) : List Path :=
  p :: above p.anchor p.pieces.reverse

/-- The path with a name below it. -/
def join (p : Path) (name : Bytes) : Path :=
  if p.bytes = [] || p.bytes.getLast? = some slash then ⟨p.bytes ++ name⟩
  else ⟨p.bytes ++ slash :: name⟩

/-- The name at the end of a path: its last piece that is not void, unless that is `..`. -/
def fileName? (p : Path) : Option Bytes :=
  match p.pieces.reverse.dropWhile isVoid with
  | [] => none
  | piece :: _ => if piece = [dot, dot] then none else some piece

/-- The extension of a name: what follows its last dot, if something precedes that dot. -/
def extensionOf? (name : Bytes) : Option Bytes :=
  let reversed := name.reverse
  match reversed.dropWhile (· ≠ dot) with
  | [] => none
  | [_] => none
  | _ :: _ => some (reversed.takeWhile (· ≠ dot)).reverse

/-- The extension of the name at the end of a path. -/
def extension? (p : Path) : Option Bytes :=
  p.fileName?.bind extensionOf?

/-- The pieces of a path that are not empty. -/
def names (p : Path) : List Bytes :=
  (cut p.bytes).filter (· ≠ [])

/-- The way that a path describes, step by step; a slash at the end is an empty step, to where one
is, which only a directory allows. -/
def steps (p : Path) : List Bytes :=
  if p.bytes.getLast? = some slash then p.names ++ [[]] else p.names

end Path

end LaunchLine
