import PropertyGen.Files.Collect
import PropertyGen.Record.Notation

/-!
The workspace of a command as its input describes it: one record a line, either a document with
its path, its text and its syntax tree, or a folder.
-/

namespace PropertyGen.CommandLine

mutual

/-- A node is a list of its kind, a one if it is named or else a zero, the field it fills or
null, the offsets of its ends, and its children. -/
def nodeOf? : Datum → Option Node
  | .list
      [.text kind, .number named 0, field, .number start 0, .number stop 0, .list children] => do
      let field? ← match field with
        | .text name => some (some name)
        | .null => some none
        | _ => none
      let children ← nodesOf? children
      pure { kind, named := named = 1, field?, start := start.toNat, stop := stop.toNat, children }
  | _ => none

def nodesOf? : List Datum → Option (List Node)
  | [] => some []
  | first :: rest => do
      let node ← nodeOf? first
      let nodes ← nodesOf? rest
      pure (node :: nodes)

end

inductive Entry where
  | folder (path : Path)
  | document (path : Path) (bytes : List UInt8) (root : Node)
deriving Repr

def entryOf? : Datum → Option Entry
  | .record fields =>
      match Table.get? fields "folder", Table.get? fields "path", Table.get? fields "text",
        Table.get? fields "tree" with
      | some (.text path), _, _, _ => some (.folder (Path.ofText path))
      | _, some (.text path), some (.text text), some tree =>
          (nodeOf? tree).map fun root => .document (Path.ofText path) (Text.Utf8.encode text) root
      | _, _, _, _ => none
  | _ => none

/-- The entries that some lines describe; nothing if one of them is unreadable. -/
def entries? (lines : List String) : Option (List Entry) :=
  lines.mapM fun line => (Notation.read? line).bind entryOf?

def workspaceOf (here : List String) (entries : List Entry) : Workspace :=
  entries.foldl
    (fun workspace entry =>
      match entry with
      | .folder path => workspace.addFolder (workspace.locate path)
      | .document path bytes _ => workspace.putDocument (workspace.locate path) bytes)
    (Workspace.bare here)

def bareUnit (bytes : List UInt8) : Node :=
  { kind := "compilation_unit"
    named := true
    field? := none
    start := 0
    stop := bytes.length
    children := [] }

def parserOf (entries : List Entry) : Parser := fun bytes =>
  (entries.findSome? fun
    | .document _ content root => if content = bytes then some root else none
    | .folder _ => none).getD (bareUnit bytes)

end PropertyGen.CommandLine
