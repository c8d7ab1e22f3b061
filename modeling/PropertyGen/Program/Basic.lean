import PropertyGen.Program.ConstantDeclaration
import PropertyGen.Program.Lookup
import PropertyGen.Program.TypeSymbol
import PropertyGen.Table

/-!
Programs: sources and references, and what follows from them: the types by name, the known
namespaces, and the declared constants. A program never changes; adding to it makes another.
-/

namespace PropertyGen

/-- References stand for types declared elsewhere: metadata names and kinds. -/
abbrev References := Table String

def References.standard : References :=
  [("System.Object", "class"),
   ("System.Attribute", "class"),
   ("System.AttributeUsageAttribute", "class"),
   ("System.AttributeTargets", "enum"),
   ("System.ComponentModel.INotifyPropertyChanged", "interface"),
   ("System.ComponentModel.INotifyPropertyChanging", "interface"),
   ("System.ComponentModel.PropertyChangedEventArgs", "class"),
   ("System.ComponentModel.PropertyChangedEventHandler", "delegate")]

structure Program where
  sources : List Source
  references : References
  globals : List Using
  known : KnownNames
  types : List TypeSymbol
  constants : List ConstantDeclaration

def byNesting (declarations : List TypeDeclaration) : List TypeDeclaration :=
  let depth := fun (declaration : TypeDeclaration) => Names.nesting declaration.metadataName
  (List.range ((declarations.map depth).foldl max 0 + 1)).flatMap fun level =>
    declarations.filter fun declaration => depth declaration = level

def declarationsOf (sources : List Source) : List TypeDeclaration :=
  byNesting (sources.flatMap fun source => TypeDeclaration.all source (globalUsings sources))

def knownNames (declarations : List TypeDeclaration) (references : References) : KnownNames :=
  let types := distinct (declarations.map (·.metadataName) ++ references.keys)
  { types
    spaces := distinct ((declarations.map (·.scope.space) ++ types.map Names.spaceOf).flatMap
      Names.spacesAround) }

def kindOf? (declarations : List TypeDeclaration) (references : References) (name : String) :
    Option String :=
  match declarations.find? fun declaration => declaration.metadataName = name with
  | some declaration => some declaration.kind
  | none => references.get? name

def interfacesOf (declarations : List TypeDeclaration) (references : References)
    (known : KnownNames) (parts : List TypeDeclaration) : List String :=
  let bases := parts.flatMap fun part =>
    part.bases.filterMap fun base => known.resolve? .type base part.scope
  distinct (bases.filter fun base => kindOf? declarations references base = some "interface")

/-- The symbol of a type from its parts, the first of which gives everything but the interfaces
and the locations. The type around it has to be in the table already. -/
def symbolOf (table : List TypeSymbol) (interfaces : List String) (first : TypeDeclaration)
    (parts : List TypeDeclaration) : TypeSymbol :=
  { metadataName := first.metadataName
    name := first.name
    space := first.space
    kind := first.kind
    typeParameters := first.typeParameters
    containing? := first.containing?.filter fun outer => table.any (·.metadataName = outer)
    interfaces
    locations := parts.map (·.location)
    isExternal := false }

def addDeclared (declarations : List TypeDeclaration) (references : References) (known : KnownNames)
    (table : List TypeSymbol) (name : String) : List TypeSymbol :=
  match declarations.filter fun declaration => declaration.metadataName = name with
  | [] => table
  | first :: more =>
      let parts := first :: more
      table ++ [symbolOf table (interfacesOf declarations references known parts) first parts]

/-- The references that no source declares, and then the declared types. -/
def typeTable (declarations : List TypeDeclaration) (references : References) (known : KnownNames) :
    List TypeSymbol :=
  let declared := distinct (declarations.map (·.metadataName))
  let externals := (references.filter fun entry => !declared.contains entry.1).map fun entry =>
    TypeSymbol.external entry.1 entry.2
  declared.foldl (addDeclared declarations references known) externals

namespace Program

def build (sources : List Source) (references : References) : Except Fault Program := do
  let globals := globalUsings sources
  let constants ← sources.mapM fun source => ConstantDeclaration.all source globals
  let declarations := declarationsOf sources
  let known := knownNames declarations references
  pure
    { sources
      references
      globals
      known
      types := typeTable declarations references known
      constants := constants.flatten }

def buildNotes (program : Program) : List Note :=
  let declarations := declarationsOf program.sources
  (distinct (declarations.map (·.metadataName))).flatMap fun name =>
    (declarations.filter fun declaration => declaration.metadataName = name).flatMap fun part =>
      part.bases.flatMap fun base =>
        let unresolved := if (program.known.resolve? .type base part.scope).isNone
          then [Note.unresolvedBase base name] else []
        program.known.resolveNotes .type base part.scope ++ unresolved

def create (sources : List Source) (references : References) : Logged Program := do
  let program ← Logged.ofExcept (build sources references)
  Logged.emit (program.buildNotes.map .note)
  pure program

def addSources (program : Program) (sources : List Source) : Logged Program :=
  create (program.sources ++ sources) program.references

def addReferences (program : Program) (references : References) : Logged Program :=
  create program.sources (program.references.merge references)

def type? (program : Program) (metadataName : String) : Option TypeSymbol :=
  program.types.find? fun symbol => symbol.metadataName = metadataName

def scope (program : Program) (source : Source) (site : Site) : Scope :=
  source.scope program.globals site

/-- The metadata name that a name binds to in a scope. A type without a name has no symbol. -/
def resolveName? (program : Program) (use : NameUse) (name : String) (scope : Scope) :
    Option String :=
  (program.known.resolve? use name scope).filter (· ≠ "")

def resolveType? (program : Program) (use : NameUse) (name : String) (source : Source)
    (site : Site) : Option TypeSymbol :=
  (program.resolveName? use name (program.scope source site)).bind program.type?

end Program

end PropertyGen
