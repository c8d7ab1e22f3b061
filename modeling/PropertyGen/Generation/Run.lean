import PropertyGen.Generation.Host
import PropertyGen.Generation.Render
import PropertyGen.Settings

/-!
Generating properties: binding the marker, publishing a source per group, and the two ways to
use it, generation and inspection.
-/

namespace PropertyGen

def notificationName : String := "System.ComponentModel.INotifyPropertyChanged"

/-- Reads `Metadata.Name` or `Metadata.Name=kind`; the kind is `class` unless it is given. -/
def referenceEntry (entry : String) : String × String :=
  let name := Text.trimChars (Text.beforeFirst '=' entry.toList)
  let kind := Text.trimChars (Text.afterFirst '=' entry.toList)
  (String.ofList name, if kind.isEmpty then "class" else String.ofList kind)

def referenceTable (entries : List String) : References :=
  Table.ofEntries (entries.map referenceEntry)

structure Bound where
  program : Program
  marker : TypeSymbol
  notification : TypeSymbol

def Program.bind (program : Program) (options : Options) : Logged Bound := do
  let marked ← program.addSources [Marker.source]
  let complete ←
    if options.extraReferences.isEmpty then pure marked
    else marked.addReferences (referenceTable options.extraReferences)
  match complete.type? Marker.metadataName, complete.type? notificationName with
  | some marker, some notification => pure { program := complete, marker, notification }
  | _, _ => Logged.fail (.unboundTypes Marker.metadataName notificationName)

def keySuffix : String := "_autoNotify"

/-- The key of the source of a type. Qualified keys add the namespace and the arity. -/
def fragmentKey (symbol : TypeSymbol) (qualified : Bool) : Except Fault String :=
  if qualified then do
    let arity ← symbol.arity
    let name := if arity = 0 then symbol.name else symbol.name ++ "_" ++ toString arity
    pure (Names.qualify symbol.space name ++ keySuffix)
  else pure (symbol.name ++ keySuffix)

def collisionTemplate (qualified : Bool) : Template :=
  if qualified then Templates.duplicateQualifiedKey else Templates.duplicateKey

def collision (qualified : Bool) (key : String) (symbol other : TypeSymbol) : Diagnostic :=
  (collisionTemplate qualified).report symbol.locations.head? [key, symbol.display, other.display]

/-- Publishes the groups in order. The first group that gets a text takes its key; a group
whose key is taken is not rendered. `taken` holds the types published so far by key. -/
def publish (render : TypeGroup → Rendering) (qualified : Bool) (taken : Table TypeSymbol) :
    List TypeGroup → Session Unit
  | [] => pure ()
  | group :: rest => do
      let key ← StateT.lift (Logged.ofExcept (fragmentKey group.containing qualified))
      match taken.get? key with
      | some other => do
          Session.report (collision qualified key group.containing other)
          publish render qualified taken rest
      | none =>
          match render group with
          | .text text => do
              Session.addSource key text
              Session.emit [.note (.generatedFragment key group.members.length)]
              publish render qualified (taken.put key group.containing) rest
          | rendering => do
              Session.emit (rendering.events group)
              publish render qualified taken rest

abbrev Renderer := TypeSymbol → TypeGroup → Rendering

/-- Candidates, or nothing if something else watched the sources. -/
abbrev Watched := Option (List Candidate)

def candidateReceiver : Receiver Watched :=
  { start := some []
    visit := fun source site candidates => candidates.map (Candidate.visit source site) }

def propertyGenerator (renderer : Renderer) (options : Options) : Generator :=
  { State := Watched
    receiver? := some candidateReceiver
    execute := fun program state? => do
      Session.addSource Marker.key Marker.text
      match state?.join with
      | none => pure ()
      | some candidates => do
          let bound ← StateT.lift (program.bind options)
          let fields ← StateT.lift
            (bound.program.resolveFields bound.marker.metadataName candidates)
          let groups ← StateT.lift (buildGroups fields)
          publish (renderer bound.notification) options.qualifiedKeys [] groups }

def generateWith (renderer : Renderer) (sources : List Source) (options : Options) :
    Logged GenerationResult := do
  let program ← Program.create sources References.standard
  runGenerators [propertyGenerator renderer options] program

def generate (sources : List Source) (options : Options) : Logged GenerationResult :=
  generateWith render sources options

/-- Of the sources with one path the last one counts, in the place of the first one. -/
def latestByPath (sources : List Source) : List Source :=
  (Table.ofEntries (sources.map fun source => (source.path, source))).map (·.2)

def findFields (sources : List Source) (options : Options) : Logged (List ResolvedField) := do
  let program ← Program.create sources References.standard
  let bound ← program.bind options
  bound.program.resolveFields bound.marker.metadataName
    (bound.program.sources.flatMap Source.candidates)

end PropertyGen
