import PropertyGen.Reports.Diagnostic
import PropertyGen.Syntax.Site
import PropertyGen.Text.Blank
import PropertyGen.Text.Utf8

/-!
A source file: its path, which only names it, its bytes, and its syntax tree.
-/

namespace PropertyGen

structure Source where
  path : String
  bytes : List UInt8
  root : Node
deriving Repr

namespace Source

def text (source : Source) (node : Node) : String :=
  Text.Utf8.decode ((source.bytes.drop node.start).take (node.stop - node.start))

def compactText (source : Source) (node : Node) : String := Text.compact (source.text node)

def squeezedText (source : Source) (node : Node) : String := Text.squeeze (source.text node)

/-- Line breaks passed and the offset of the current line, after some bytes. -/
def lineOf : List UInt8 → Nat → Nat × Nat → Nat × Nat
  | [], _, line => line
  | byte :: rest, offset, (count, lineStart) =>
      if byte = 10 then lineOf rest (offset + 1) (count + 1, offset + 1)
      else lineOf rest (offset + 1) (count, lineStart)

def location (source : Source) (node : Node) : Location :=
  let (line, lineStart) := lineOf (source.bytes.take node.start) 0 (0, 0)
  { path := source.path, line, column := node.start - lineStart }

def sites (source : Source) : List Site := (Site.root source.root).walk

end Source

end PropertyGen
