import JobGate.Text.Decoded
/-! Text files are read in pieces, as they are needed. Bytes that are not UTF-8 are a fault of the
piece for which they are fetched, so all pieces before it can be read. -/
namespace JobGate.Text

def pieceSize : Nat := 4096

def chunkSize : Nat := 8192

/-- The number of characters before the piece that has the character at `n`. The first two pieces
are read as one. -/
def pieceStart (n : Nat) : Nat := if n < 2 * pieceSize then 0 else n / pieceSize * pieceSize

def within (size : Nat) : List Char → List Char
  | [] => []
  | c :: cs => if c.utf8Size ≤ size then c :: within (size - c.utf8Size) cs else []

/-- The number of characters that come from the first bytes of a text. A carriage return waits for
what is after it, with which it may be one line end. -/
def charsWithin (cs : List Char) (size : Nat) : Nat :=
  let whole := within size cs
  (unifyLineEnds (if whole.getLast? = some '\r' then whole.dropLast else whole)).length

/-- The number of characters that there are before the fetch of the byte at `bad`. As many bytes are
fetched as the piece may still need, by the bytes and the characters of the last fetch. -/
def charsBefore (cs : List Char) (bad fetched : Nat) (last : Nat × Nat) : Nat → Nat
  | 0 => charsWithin cs fetched
  | n + 1 =>
    let had := charsWithin cs fetched
    let size := max chunkSize ((pieceSize - had % pieceSize) * last.1 / last.2)
    if bad < fetched + size then had
    else
      charsBefore cs bad (fetched + size) (size, charsWithin cs (fetched + size) - had) n

def DecodeFault.charsBefore (f : DecodeFault) (cs : List Char) : Nat :=
  let before (bad : Nat) := Text.charsBefore cs bad 0 (0, 0) (bad / chunkSize + 1)
  match f.reason with
  | .start => before f.position
  | .continuation => before (f.position + f.size)
  | .ending => charsWithin cs f.position

structure Excerpt where
  text : List Char
  complete : Bool

def readable (bytes : ByteArray) : Excerpt :=
  match decode? bytes with
  | some cs => ⟨cs, true⟩
  | none =>
    let f := decodeFault 0 bytes.toList
    let cs := ((String.fromUTF8? (bytes.extract 0 f.position)).getD "").toList
    ⟨(unifyLineEnds cs).take (pieceStart (f.charsBefore cs)), false⟩

end JobGate.Text
