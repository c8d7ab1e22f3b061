import PropertyGen.Generation.Host
import PropertyGen.Record.Datum
import PropertyGen.Settings

/-!
Reading the records of this library from data. Fields without a meaning are ignored, and the
flaws of a record are listed in the order of its fields.
-/

namespace PropertyGen

def Severity.ofName? (name : String) : Option Severity :=
  Severity.all.find? fun severity => severity.name = name

def Severity.read : Datum → Checked Severity
  | .text name =>
      match Severity.ofName? name with
      | some severity => .ok severity
      | none => Checked.refuse .notLiteral
  | _ => Checked.refuse .notLiteral

def Diagnostic.readFields (fields : Fields) : Checked Diagnostic :=
  match fields.required "id" Datum.readText, fields.required "severity" Severity.read,
    fields.required "message" Datum.readText, fields.optional "path" Datum.readText,
    fields.optional "line" Datum.readInteger, fields.optional "column" Datum.readInteger with
  | .ok id, .ok severity, .ok message, .ok path, .ok line, .ok column =>
      .ok { id, severity, message, path, line, column }
  | id, severity, message, path, line, column =>
      .error (id.flaws ++ severity.flaws ++ message.flaws ++ path.flaws ++ line.flaws
        ++ column.flaws)

def Diagnostic.read : Datum → Checked Diagnostic
  | .record fields => Diagnostic.readFields fields
  | _ => Checked.refuse .notRecord

def readFragment : Datum → Checked (String × Points)
  | .record fields =>
      match Fields.required fields "key" Datum.readText,
        Fields.required fields "text" Datum.readText with
      | .ok key, .ok text => .ok (key, text)
      | key, text => .error (key.flaws ++ text.flaws)
  | _ => Checked.refuse .notRecord

def GenerationResult.read (fragments diagnostics : List Datum) : Checked GenerationResult :=
  match (Datum.readItems readFragment 0 fragments).inside "fragments",
    (Datum.readItems Diagnostic.read 0 diagnostics).inside "diagnostics" with
  | .ok fragments, .ok diagnostics => .ok { fragments, diagnostics }
  | fragments, diagnostics => .error (fragments.flaws ++ diagnostics.flaws)

def Options.Overrides.read (fields : Fields) : Checked Options.Overrides :=
  match fields.optional "qualified_keys" Datum.readBoolean,
    fields.optional "extra_references" (Datum.readList Datum.readText) with
  | .ok qualifiedKeys?, .ok extraReferences? => .ok { qualifiedKeys?, extraReferences? }
  | qualifiedKeys?, extraReferences? => .error (qualifiedKeys?.flaws ++ extraReferences?.flaws)

end PropertyGen
