import VncAccess.Failure

/-!
An input stream, read line by line: as bytes, or as text, which is decoded in blocks.
-/

namespace VncAccess

/-- What is still to be read from a stream of bytes. -/
structure Input where
  rest : Bytes := []
  /-- The number of the line whose reading fails. -/
  faultAt : Option Nat := none
  linesRead : Nat := 0
  deriving DecidableEq, Repr

namespace Input

def newline : UInt8 := 10

/-- The first line with its newline, which the last line may lack, and what follows. -/
def splitLine : Bytes → Bytes × Bytes
  | [] => ([], [])
  | b :: rest =>
    if b = newline then
      ([b], rest)
    else
      let (line, rest) := splitLine rest
      (b :: line, rest)

def isFaulty (i : Input) : Bool := i.faultAt = some (i.linesRead + 1)

/-- The next line with its newline; no bytes at the end of the stream. -/
def readLine (i : Input) : Except Failure Bytes × Input :=
  let after := { i with linesRead := i.linesRead + 1 }
  if i.isFaulty then
    (.error (.system none), after)
  else
    let (line, rest) := splitLine i.rest
    (.ok line, { after with rest })

/-! ## Lines of text -/

/-- A stream of text is decoded in blocks of so many bytes. -/
def blockSize : Nat := 8192

/-- The characters of a block and the bytes of a character that ends in a later block. Bytes that
can belong to no character are refused. -/
def decodeBlock (isLast : Bool) (bytes : Bytes) : Except Failure (List Char × Bytes) :=
  let decoded := (Text.ofBytes bytes).map Glyph.char?
  let chars := (decoded.takeWhile Option.isSome).filterMap id
  let tail := bytes.drop (chars.flatMap Utf8.encodeChar).length
  if tail = [] ∨ (!isLast ∧ Utf8.isUnfinished tail) then .ok (chars, tail)
  else .error .undecodable

def isLineEnd (c : Char) : Bool := c = '\n' || c = '\r'

/-- Whether a line ends in the text. A carriage return at the end may be the first half of a line
end as long as more text can follow. -/
def hasLineEnd (isLast : Bool) (text : List Char) : Bool :=
  (if !isLast && text.getLast? = some '\r' then text.dropLast else text).any isLineEnd

/-- Reads blocks, one at each turn, until a line has ended. -/
def textLineFrom (text : List Char) (unfinished : Bytes) (rest : Bytes) :
    Nat → Except Failure (List Char × Bytes)
  | 0 => .ok (text, rest)
  | turns + 1 => do
    let block := rest.take blockSize
    let rest := rest.drop blockSize
    let isLast := block = []
    let (chars, unfinished) ← decodeBlock isLast (unfinished ++ block)
    let text := text ++ chars
    if isLast || hasLineEnd isLast text then
      return (text, rest)
    else
      textLineFrom text unfinished rest turns

/-- The next line of text without its end. -/
def readTextLine (i : Input) : Except Failure (List Char) × Input :=
  let after := { i with linesRead := i.linesRead + 1 }
  if i.isFaulty then
    (.error (.system none), after)
  else
    match textLineFrom [] [] i.rest (i.rest.length + 2) with
    | .ok (text, rest) => (.ok (text.takeWhile (!isLineEnd ·)), { after with rest })
    | .error f => (.error f, { after with rest := [] })

end Input
end VncAccess
