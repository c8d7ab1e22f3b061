import PropertyGen.Program.Basic

/-!
Running generators. A generator may watch the sources through a receiver, which visits every
node of every source, and then adds sources under keys of its own and reports diagnostics.
Generators do not see each other.
-/

namespace PropertyGen

/-- A run of one generator, with the sources added so far. -/
abbrev Session := StateT (Table Points) Logged

namespace Session

def emit (events : List Event) : Session Unit := StateT.lift (Logged.emit events)

def report (diagnostic : Diagnostic) : Session Unit := emit [.report diagnostic]

def fail (fault : Fault) : Session Unit := StateT.lift (Logged.fail fault)

/-- Adds a source. A key can be used once. -/
def addSource (key : String) (text : Points) : Session Unit := fun sources =>
  if sources.keys.contains key then Logged.fail (.duplicateSource key)
  else pure ((), sources ++ [(key, text)])

end Session

structure Receiver (State : Type) where
  start : State
  visit : Source → Site → State → State

def Receiver.collect {State : Type} (receiver : Receiver State) (sources : List Source) : State :=
  sources.foldl
    (fun state source =>
      source.sites.foldl (fun state site => receiver.visit source site state) state)
    receiver.start

structure Generator where
  State : Type
  receiver? : Option (Receiver State)
  execute : Program → Option State → Session Unit

def Generator.run (generator : Generator) (program : Program) : Logged (Table Points) := do
  let state? := generator.receiver?.map fun receiver => receiver.collect program.sources
  let ((), sources) ← (generator.execute program state?).run []
  pure sources

structure GenerationResult where
  fragments : List (String × Points)
  diagnostics : List Diagnostic
deriving DecidableEq, Repr

namespace GenerationResult

def hasErrors (result : GenerationResult) : Bool :=
  result.diagnostics.any fun diagnostic => diagnostic.severity = .error

def keys (result : GenerationResult) : List String := result.fragments.map (·.1)

def fragment? (result : GenerationResult) (key : String) : Option Points :=
  (result.fragments.find? fun fragment => fragment.1 = key).map (·.2)

end GenerationResult

/-- Runs the generators in order; the first fault ends the run. -/
def runGenerators (generators : List Generator) (program : Program) : Logged GenerationResult :=
  let run := Logged.forEach (fun generator => Generator.run generator program) generators
  let result := run >>= fun sources => pure
    { fragments := sources.flatten, diagnostics := run.diagnostics : GenerationResult }
  result >>= fun result => do
    Logged.emit [.note (.generatedSources result.fragments.length program.sources.length)]
    pure result

end PropertyGen
