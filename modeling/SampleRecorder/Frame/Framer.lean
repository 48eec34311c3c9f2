import SampleRecorder.Frame.Encoding
import SampleRecorder.Log.Event
import SampleRecorder.Text.Search

/-!
# From bytes to lines

A framer collects the text of a source and cuts it at every delimiter.  Lines are delivered without white space at
their ends, blank ones not at all.  Text that grows too long without a delimiter is discarded.
-/

namespace SampleRecorder.Frame

/-- Text without a delimiter may grow to this many bytes. -/
def partialLimit : Nat := 65536

/-- The delimiter of lines where none is set. -/
def defaultDelimiter : String := "\n"

/-- A framer: its settings, the bytes of an incomplete character, and the text behind the last delimiter. -/
structure Framer where
  delimiter : List Char
  encoding : Encoding
  limit : Nat
  pending : List UInt8 := []
  partialText : List Char := []
  deriving DecidableEq, Repr

/-- The number of bytes of a text in UTF-8. -/
def byteLength (s : List Char) : Nat :=
  s.foldl (fun n c => n + c.utf8Size) 0

/-- A piece of text as a line: trimmed, and absent when blank. -/
def lineOf? (piece : List Char) : Option String :=
  let line := Text.trim piece
  if line = [] then none else some (String.ofList line)

namespace Framer

/-- A framer with nothing buffered; an empty delimiter stands for the line feed. -/
def new (delimiter : String) (encoding : Encoding) (limit : Nat := partialLimit) : Framer where
  delimiter := if delimiter = "" then defaultDelimiter.toList else delimiter.toList
  encoding := encoding
  limit := max limit 1

/-- Takes text and gives the lines that it completes. -/
def pushText (f : Framer) (text : List Char) : Traced (List String × Framer) :=
  let pieces := Text.split f.delimiter (f.partialText ++ text)
  let lines := pieces.dropLast.filterMap lineOf?
  let left := pieces.getLast?.getD []
  if f.limit < byteLength left then do
    Traced.log .warn "No delimiter within the partial-line limit; discarding buffered text"
      [("bytes", .int (byteLength left)), ("max", .int f.limit)]
    pure (lines, { f with partialText := [] })
  else pure (lines, { f with partialText := left })

/-- Takes bytes and gives the lines that they complete. -/
def pushBytes (f : Framer) (bytes : List UInt8) : Traced (List String × Framer) :=
  let (text, pending) := f.encoding.decode f.pending bytes
  { f with pending }.pushText text

/-- Drops everything that is buffered. -/
def reset (f : Framer) : Framer :=
  { f with pending := [], partialText := [] }

/-- The line that is still buffered at the end of the source, with a replacement for an incomplete character. -/
def flush (f : Framer) : Option String × Framer :=
  let text := if f.pending = [] then f.partialText else f.partialText ++ [Text.Utf8.replacement]
  (lineOf? text, f.reset)

end Framer

end SampleRecorder.Frame
