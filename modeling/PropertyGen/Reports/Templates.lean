import PropertyGen.Reports.Diagnostic

/-!
The templates of the diagnostics of property generation.
-/

namespace PropertyGen.Templates

def generationFailed : Template :=
  { id := "ANG000"
    severity := .error
    pieces := [.fixed "Generating notifiable properties for '", .hole 0, .fixed "' failed: ",
      .hole 1] }

def typeNotTopLevel : Template :=
  { id := "ANG001"
    severity := .warning
    pieces := [.fixed "Type '", .hole 0,
      .fixed "' must be declared directly in a namespace to generate notifiable properties"] }

def duplicateMarker : Template :=
  { id := "ANG002"
    severity := .warning
    pieces := [.fixed "Field '", .hole 0, .fixed "' carries ", .hole 1,
      .fixed " NotifiableProperty attributes; only the first is used"] }

def unsupportedField : Template :=
  { id := "ANG003"
    severity := .warning
    pieces := [.fixed "Field '", .hole 0, .fixed "' is ", .hole 1,
      .fixed " and cannot back a notifiable property"] }

def duplicateKey : Template :=
  { id := "ANG004"
    severity := .warning
    pieces := [.fixed "Generated source '", .hole 0, .fixed "' for '", .hole 1,
      .fixed "' collides with '", .hole 2, .fixed "'; enable qualified keys to generate both"] }

def duplicateQualifiedKey : Template :=
  { id := "ANG004"
    severity := .warning
    pieces := [.fixed "Generated source '", .hole 0, .fixed "' for '", .hole 1,
      .fixed "' collides with '", .hole 2, .fixed "'; rename one of the types to generate both"] }

def nonConstantName : Template :=
  { id := "ANG005"
    severity := .warning
    pieces := [.fixed "PropertyName of field '", .hole 0,
      .fixed "' is not a constant string; the field is skipped"] }

def conflictingAlias : Template :=
  { id := "ANG006"
    severity := .warning
    pieces := [.fixed "Using alias '", .hole 0, .fixed "' names '", .hole 1, .fixed "' and '",
      .hole 2, .fixed "' in different parts of '", .hole 3,
      .fixed "'; no properties can be generated for it"] }

end PropertyGen.Templates
