/-! Lines of a text. A stored text ends its lines in LF, CR LF or CR; a report is
cut into lines at any of the Unicode line boundaries. -/
namespace Transceiver.Text

/-- Writes every line ending as LF. -/
def normalizeEndings : List Char → List Char
  | '\r' :: '\n' :: rest => '\n' :: normalizeEndings rest
  | '\r' :: rest => '\n' :: normalizeEndings rest
  | c :: rest => c :: normalizeEndings rest
  | [] => []

/-- The lines of a stored text without their endings. An ending at the very end
starts no further line. -/
def storedLines (s : String) : List String :=
  let pieces := (normalizeEndings s.toList).splitOn '\n'
  let pieces := if pieces.getLast? = some [] then pieces.dropLast else pieces
  pieces.map String.ofList

def isLineBoundary (c : Char) : Bool :=
  let n := c.toNat
  (0x0A ≤ n && n ≤ 0x0D) || (0x1C ≤ n && n ≤ 0x1E) || n == 0x85 || n == 0x2028 || n == 0x2029

/-- CR LF counts as one boundary. -/
def joinBoundaries : List Char → List Char
  | '\r' :: '\n' :: rest => '\n' :: joinBoundaries rest
  | c :: rest => (if isLineBoundary c then '\n' else c) :: joinBoundaries rest
  | [] => []

/-- The lines of a report without their boundaries. -/
def reportLines (s : String) : List String :=
  let pieces := (joinBoundaries s.toList).splitOn '\n'
  let pieces := if pieces.getLast? = some [] then pieces.dropLast else pieces
  pieces.map String.ofList

end Transceiver.Text
