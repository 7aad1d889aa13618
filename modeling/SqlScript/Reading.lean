import SqlScript.Failure

/-!
Reading a script line by line. A line ends at a line feed; a carriage return in front of the line
feed belongs to the line end, and a byte order mark in front of the first line is dropped. Reading
stops at the first line that cannot be read.
-/

namespace SqlScript

structure Source where
  bytes : List UInt8
  /-- The fault that comes after the bytes, if they do not simply end. -/
  fault : Option ReadFault := none
deriving DecidableEq, Repr

/-- The lines that were read, and the fault that stopped the reading, if there was one. -/
structure Reading where
  lines : List Text
  fault : Option ReadFault := none
deriving DecidableEq, Repr

namespace Reading

def dropReturn (line : Text) : Text := Text.dropTail ['\r'] line

/-- The lines without a byte order mark at their very start. -/
def dropMark : List Text → List Text
  | ('\uFEFF' :: line) :: lines => line :: lines
  | lines => lines

/-- The last line of a text, which no line feed ends; there is none if it would be empty. -/
def lastLine (line : Text) : List Text := if line = [] then [] else [line]

def linesOf (text : Text) : List Text :=
  let parts := text.splitOn '\n'
  dropMark (parts.dropLast.map dropReturn ++ lastLine (parts.getLast?.getD []))

def decode? (bytes : List UInt8) : Option Text :=
  (ByteArray.mk bytes.toArray).utf8Decode?.map Array.toList

/-- Decodes complete lines up to the first that is not valid. -/
def decodeLines : List (List UInt8) → List Text × Option ReadFault
  | [] => ([], none)
  | line :: lines =>
    match decode? line with
    | some text => ((decodeLines lines).map (dropReturn text :: ·) id)
    | none => ([], some .notUtf8)

/-- Reads the unfinished last line: a fault of the stream comes first and loses the line. -/
def decodeLast (line : List UInt8) : Option ReadFault → List Text × Option ReadFault
  | some fault => ([], some fault)
  | none =>
    match decode? line with
    | some text => (lastLine text, none)
    | none => ([], some .notUtf8)

def ofSource (source : Source) : Reading :=
  let parts := source.bytes.splitOn 0x0A
  match decodeLines parts.dropLast with
  | (lines, some fault) => ⟨dropMark lines, some fault⟩
  | (lines, none) =>
    let (rest, fault) := decodeLast (parts.getLast?.getD []) source.fault
    ⟨dropMark (lines ++ rest), fault⟩

def ofText (text : Text) : Reading := ⟨linesOf text, none⟩

end Reading

end SqlScript
