import PropertyGen.Generation.Group
import PropertyGen.Generation.Layout

/-!
The source text of a group: a partial declaration of the type that implements change
notification, raises the event for every property, and declares the event unless a part of the
type already asks for the interface.
-/

namespace PropertyGen

namespace Render

def header : String := "// <auto-generated/>"

def eventArguments : String := "global::System.ComponentModel.PropertyChangedEventArgs"

def eventHandler : String := "global::System.ComponentModel.PropertyChangedEventHandler"

def escapeCharacter : Char → List Char
  | '&' => "&amp;".toList
  | '<' => "&lt;".toList
  | '>' => "&gt;".toList
  | character => [character]

def escape (text : String) : String := String.ofList (text.toList.flatMap escapeCharacter)

def summaryLines (summary? : Option String) : List Layout :=
  match summary? with
  | none => []
  | some summary =>
      if summary.toList.all Text.isBlank then []
      else [.line "/// <summary>", .line ("/// " ++ escape summary), .line "/// </summary>"]

def property (spec : PropertySpec) : List Layout :=
  summaryLines spec.summary?
    ++ [.block ("public " ++ spec.type ++ " " ++ spec.name)
        [.line ("get => this." ++ spec.backingField ++ ";"),
         .block "set"
          [.line ("this." ++ spec.backingField ++ " = value;"),
           .line ("this.PropertyChanged?.Invoke(this, new " ++ eventArguments ++ "(nameof("
              ++ spec.name ++ ")));")]]]

def event : List Layout := [.line ("public event " ++ eventHandler ++ " PropertyChanged;")]

def separated : List (List Layout) → List Layout
  | [] => []
  | [member] => member
  | member :: rest => member ++ .line "" :: separated rest

/-- The members of the declaration: the event unless it is inherited, and the properties. -/
def membersOf (group : TypeGroup) (notification : TypeSymbol) : List (List Layout) :=
  let inherited := group.containing.interfaces.contains notification.metadataName
  (if inherited then [] else [event]) ++ group.members.map property

def declaration (group : TypeGroup) (notification : TypeSymbol) : Layout :=
  let type := group.containing
  .block
    ("partial " ++ type.kind ++ " " ++ type.name ++ type.typeParameters ++ " : global::"
      ++ notification.display)
    (separated (membersOf group notification))

def directives (usings : List Using) : List Layout :=
  if usings.isEmpty then [] else usings.map (fun directive => .line directive.text) ++ [.line ""]

def layout (group : TypeGroup) (notification : TypeSymbol) : List Layout :=
  let body := directives group.usings ++ [declaration group notification]
  .line header
    :: (if group.containing.space = "" then body
        else [.block ("namespace " ++ group.containing.space) body])

end Render

/-- What becomes of rendering a group: a text; nothing, for a type nested in another one, which
no separate source can extend; or a failure. -/
inductive Rendering where
  | text (text : Points)
  | nested
  | failed (reason : String)
deriving DecidableEq, Repr

def render (notification : TypeSymbol) (group : TypeGroup) : Rendering :=
  if group.containing.isTopLevel then .text (Layout.text (Render.layout group notification))
  else .nested

def Rendering.events (group : TypeGroup) : Rendering → List Event
  | .text _ => []
  | .nested =>
      [.note (.skippedNested group.containing.display),
       .report (Templates.typeNotTopLevel.report group.containing.locations.head?
        [group.containing.display])]
  | .failed reason =>
      [.note (.failedType group.containing.display),
       .report (Templates.generationFailed.report group.containing.locations.head?
        [group.containing.display, reason])]

end PropertyGen
