import PropertyGen.Generation.ResolvedField
import PropertyGen.Proofs.Silence

/-!
Marked fields. Each one is settled in exactly one way: its modifiers or its name argument rule
it out, or it is resolved with the name that its first marker asks for.
-/

namespace PropertyGen

/-- A field with the attributes of it that bind to the marker, of which there is at least one. -/
structure Marking where
  field : FieldSymbol
  first : AttributeUse
  more : List AttributeUse
deriving DecidableEq, Repr

namespace Marking

def ofField? (marker : String) (field : FieldSymbol) : Option Marking :=
  match field.markers marker with
  | [] => none
  | first :: more => some { field, first, more }

theorem of_field_some {marker : String} {field : FieldSymbol} {marking : Marking} :
    ofField? marker field = some marking ↔
      marking.field = field ∧ field.markers marker = marking.first :: marking.more := by
  unfold ofField?
  cases field.markers marker with
  | nil => simp
  | cons first more =>
      constructor
      · intro same
        rw [← Option.some.inj same]
        exact ⟨rfl, rfl⟩
      · intro given
        rcases given with ⟨rfl, same⟩
        obtain ⟨rfl, rfl⟩ := List.cons.inj same
        rfl

/-- What a marking says of the attributes of its field: which is the first that is bound to the
marker, and which are so behind it. -/
structure Reads (marker : String) (marking : Marking) : Prop where
  place : ∃ before after, marking.field.attributes = before ++ marking.first :: after ∧
    (∀ other ∈ before, other.type? ≠ some marker) ∧
    marking.more = after.filter fun used => used.type? = some marker
  bound : marking.first.type? = some marker
  count : (marking.first :: marking.more).length =
    marking.field.attributes.countP fun used => used.type? = some marker

theorem reads_of_field {marker : String} {field : FieldSymbol} {marking : Marking}
    (ofField : ofField? marker field = some marking) : marking.Reads marker := by
  obtain ⟨rfl, markers⟩ := of_field_some.mp ofField
  have count := congrArg List.length markers
  obtain ⟨before, after, split, none, bound, rest⟩ := List.filter_eq_cons_iff.mp markers
  exact
    { place := ⟨before, after, split, by simpa using none, rest.symm⟩
      bound := of_decide_eq_true bound
      count := by rw [← count, FieldSymbol.markers, List.countP_eq_length_filter] }

theorem of_field_marked {marker : String} {field : FieldSymbol} :
    (ofField? marker field).isSome = decide (∃ used ∈ field.attributes, used.type? = some marker) := by
  have some_iff : (ofField? marker field).isSome ↔ field.markers marker ≠ [] := by
    unfold ofField?
    cases field.markers marker <;> simp
  rw [Bool.eq_iff_iff, some_iff]
  simp [FieldSymbol.markers]

variable (marking : Marking)

def argument? : Option Folding := marking.first.argument? Marker.nameArgument

def resolved : ResolvedField :=
  { identifier := marking.field.name
    declaredType := marking.field.type
    containing := marking.field.containing
    nameArgument? := marking.argument?
    documentation? := marking.field.documentation?
    location? := some marking.field.location
    usings := marking.field.usings }

def verdict : Verdict := Verdict.ofField marking.field marking.first

def duplicateReports : List Diagnostic :=
  match marking.more with
  | [] => []
  | second :: _ =>
      [Templates.duplicateMarker.report second.location?
        [marking.field.display, toString (marking.more.length + 1)]]

def verdictReports : Verdict → List Diagnostic
  | .unsupported reason =>
      [Templates.unsupportedField.report (some marking.field.location)
        [marking.field.display, reason]]
  | .nonConstantName =>
      [Templates.nonConstantName.report marking.first.location? [marking.field.display]]
  | .accepted _ => []

def reports : List Diagnostic := marking.duplicateReports ++ marking.verdictReports marking.verdict

def reportIds (verdict : Verdict) : List String :=
  (if 2 ≤ (marking.first :: marking.more).length then ["ANG002"] else []) ++
    match verdict with
    | .unsupported _ => ["ANG003"]
    | .nonConstantName => ["ANG005"]
    | .accepted _ => []

theorem reports_ids : marking.reports.map (·.id) = marking.reportIds marking.verdict := by
  unfold reports reportIds duplicateReports
  rw [List.map_append]
  congr 1
  · cases marking.more with
    | nil => rfl
    | cons second rest => simp [Template.report, Template.diagnostic, Templates.duplicateMarker]
  · cases marking.verdict <;> rfl

/-- What a name argument asks for, if it asks for something that can be a name: an absent one and
`null` leave the name to be derived, a text is the name. -/
inductive Asks : Option Folding → Option Points → Prop
  | absent : Asks none none
  | null : Asks (some (some .null)) none
  | text (name : Points) : Asks (some (some (.text name))) (some name)

/-- The modifier that rules a field out: the first of these that it has. -/
inductive RuledOut (modifiers : List String) : String → Prop
  | const (isConst : "const" ∈ modifiers) : RuledOut modifiers "const"
  | static (isStatic : "static" ∈ modifiers) (notConst : "const" ∉ modifiers) :
      RuledOut modifiers "static"
  | readonly (isReadonly : "readonly" ∈ modifiers) (notConst : "const" ∉ modifiers)
      (notStatic : "static" ∉ modifiers) : RuledOut modifiers "readonly"

def Plain (modifiers : List String) : Prop :=
  "const" ∉ modifiers ∧ "static" ∉ modifiers ∧ "readonly" ∉ modifiers

inductive Gives : Option Folding → Prop
  | absent (unnamed : ∀ argument ∈ marking.first.named, argument.1 ≠ "PropertyName") : Gives none
  | given (folding : Folding) (before after : List (String × Folding))
      (place : marking.first.named = before ++ ("PropertyName", folding) :: after)
      (isFirst : ∀ argument ∈ before, argument.1 ≠ "PropertyName") : Gives (some folding)

/-- The ways in which a marking can be settled. -/
inductive Settles : Verdict → Prop
  | unsupported (reason : String) (ruledOut : RuledOut marking.field.modifiers reason) :
      Settles (.unsupported reason)
  | nonConstantName (folding : Folding) (plain : Plain marking.field.modifiers)
      (given : marking.Gives (some folding)) (isNull : folding ≠ some .null)
      (isText : ∀ name, folding ≠ some (.text name)) :
      Settles .nonConstantName
  | accepted (argument? : Option Folding) (plain : Plain marking.field.modifiers)
      (given : marking.Gives argument?) (asks : Asks argument? marking.resolved.override?) :
      Settles (.accepted marking.resolved)

theorem ruled_out_iff {field : FieldSymbol} {reason : String} :
    RuledOut field.modifiers reason ↔ field.unsupported? = some reason := by
  simp only [FieldSymbol.unsupported?, FieldSymbol.isConst, FieldSymbol.isStatic,
    FieldSymbol.isReadonly, List.contains_iff_mem]
  constructor
  · intro ruledOut
    cases ruledOut with
    | const isConst => simp [isConst]
    | static isStatic notConst => simp [isStatic, notConst]
    | readonly isReadonly notConst notStatic => simp [isReadonly, notConst, notStatic]
  · intro found
    split at found
    case isTrue isConst => exact Option.some.inj found ▸ .const isConst
    case isFalse notConst =>
      split at found
      case isTrue isStatic => exact Option.some.inj found ▸ .static isStatic notConst
      case isFalse notStatic =>
        split at found
        case isTrue isReadonly =>
          exact Option.some.inj found ▸ .readonly isReadonly notConst notStatic
        case isFalse => cases found

theorem plain_iff {field : FieldSymbol} :
    Plain field.modifiers ↔ field.unsupported? = none := by
  simp only [Plain, FieldSymbol.unsupported?, FieldSymbol.isConst, FieldSymbol.isStatic,
    FieldSymbol.isReadonly, List.contains_iff_mem]
  by_cases isConst : "const" ∈ field.modifiers
  · simp [isConst]
  · by_cases isStatic : "static" ∈ field.modifiers
    · simp [isConst, isStatic]
    · by_cases isReadonly : "readonly" ∈ field.modifiers <;> simp [isConst, isStatic, isReadonly]

theorem gives_iff {argument? : Option Folding} :
    marking.Gives argument? ↔ marking.argument? = argument? := by
  have named : Marker.nameArgument = "PropertyName" := rfl
  unfold Marking.argument? AttributeUse.argument?
  rw [named]
  constructor
  · intro gives
    cases gives with
    | absent unnamed =>
        rw [List.find?_eq_none.mpr (by simpa using unnamed), Option.map_none]
    | given folding before after place isFirst =>
        rw [List.find?_eq_some_iff_append.mpr
          ⟨by simp, before, after, place, by simpa using isFirst⟩, Option.map_some]
  · rintro rfl
    cases found : marking.first.named.find? (fun argument => argument.1 = "PropertyName") with
    | none => exact .absent (by simpa using found)
    | some argument =>
        obtain ⟨isNamed, before, after, place, isFirst⟩ := List.find?_eq_some_iff_append.mp found
        have written : argument = ("PropertyName", argument.2) :=
          Prod.ext (of_decide_eq_true isNamed) rfl
        exact .given argument.2 before after (written ▸ place) (by simpa using isFirst)

theorem name_asks {folding : Folding} (isName : Verdict.isName folding) :
    Asks (some folding) folding.display? := by
  match folding, isName with
  | some (.text name), _ => exact .text name
  | some .null, _ => exact .null

theorem not_name {folding : Folding} (other : ¬ Verdict.isName folding) :
    folding ≠ some .null ∧ ∀ name, folding ≠ some (.text name) := by
  constructor
  · intro isNull
    rw [isNull] at other
    exact other rfl
  · intro name isText
    rw [isText] at other
    exact other rfl

theorem verdict_settles : marking.Settles marking.verdict := by
  unfold verdict Verdict.ofField
  cases found : marking.field.unsupported? with
  | some reason => exact .unsupported reason (ruled_out_iff.mpr found)
  | none =>
      have plain := plain_iff.mpr found
      show marking.Settles
        (if marking.argument?.all Verdict.isName then .accepted marking.resolved
         else .nonConstantName)
      cases argument : marking.argument? with
      | none =>
          apply Settles.accepted none plain (marking.gives_iff.mpr argument)
          have override : marking.resolved.override? = none := by
            simp [ResolvedField.override?, resolved, argument]
          rw [override]
          exact .absent
      | some folding =>
          have given := marking.gives_iff.mpr argument
          by_cases isName : Verdict.isName folding
          · rw [Option.all_some, if_pos isName]
            apply Settles.accepted (some folding) plain given
            have override : marking.resolved.override? = folding.display? := by
              simp [ResolvedField.override?, resolved, argument]
            rw [override]
            exact name_asks isName
          · rw [Option.all_some, if_neg isName]
            obtain ⟨isNull, isText⟩ := not_name isName
            exact .nonConstantName folding plain given isNull isText

theorem not_ruled_out {field : FieldSymbol} {reason : String} (plain : Plain field.modifiers) :
    ¬ RuledOut field.modifiers reason := by
  intro ruledOut
  cases (plain_iff.mp plain).symm.trans (ruled_out_iff.mp ruledOut)

theorem not_asks {folding : Folding} {override? : Option Points} (isNull : folding ≠ some .null)
    (isText : ∀ name, folding ≠ some (.text name)) : ¬ Asks (some folding) override? := by
  intro asks
  cases asks with
  | null => exact isNull rfl
  | text name => exact isText name rfl

/-- No marking is settled in two ways. -/
theorem settles_unique {verdict other : Verdict} (settles : marking.Settles verdict)
    (otherSettles : marking.Settles other) : verdict = other := by
  cases settles with
  | unsupported reason ruledOut =>
      cases otherSettles with
      | unsupported another again =>
          have same := (ruled_out_iff.mp ruledOut).symm.trans (ruled_out_iff.mp again)
          rw [Option.some.inj same]
      | nonConstantName _ plain => exact absurd ruledOut (not_ruled_out plain)
      | accepted _ plain => exact absurd ruledOut (not_ruled_out plain)
  | nonConstantName folding plain given isNull isText =>
      cases otherSettles with
      | unsupported _ ruledOut => exact absurd ruledOut (not_ruled_out plain)
      | nonConstantName => rfl
      | accepted argument? _ again asks =>
          have same := (marking.gives_iff.mp given).symm.trans (marking.gives_iff.mp again)
          exact absurd (same ▸ asks) (not_asks isNull isText)
  | accepted argument? plain given asks =>
      cases otherSettles with
      | unsupported _ ruledOut => exact absurd ruledOut (not_ruled_out plain)
      | nonConstantName folding _ again isNull isText =>
          have same := (marking.gives_iff.mp again).symm.trans (marking.gives_iff.mp given)
          exact absurd (same ▸ asks) (not_asks isNull isText)
      | accepted => rfl

theorem verdict_unique : ∃! verdict, marking.Settles verdict :=
  ⟨marking.verdict, marking.verdict_settles,
    fun _ settles => marking.settles_unique settles marking.verdict_settles⟩

end Marking

namespace FieldSymbol

theorem resolve_returns (field : FieldSymbol) (marker : String) :
    (field.resolve? marker).outcome =
      .ok ((Marking.ofField? marker field).bind fun marking => marking.verdict.field?) := by
  unfold resolve? Marking.ofField?
  cases field.markers marker with
  | nil => rfl
  | cons first more => rfl

theorem resolve_reports (field : FieldSymbol) (marker : String) :
    (field.resolve? marker).diagnostics =
      (Marking.ofField? marker field).toList.flatMap Marking.reports := by
  unfold resolve? Marking.ofField?
  cases field.markers marker with
  | nil => rfl
  | cons first more =>
      have duplicates : diagnosticsOf (duplicateEvents field (first :: more)) =
          Marking.duplicateReports { field, first, more } := by
        cases more <;> rfl
      have settled (verdict : Verdict) : diagnosticsOf (verdict.events field first) =
          Marking.verdictReports { field, first, more } verdict := by
        cases verdict <;> rfl
      show diagnosticsOf (duplicateEvents field (first :: more)
        ++ (Verdict.ofField field first).events field first ++ []) = _
      rw [List.append_nil, diagnostics_append, duplicates, settled]
      simp [Marking.reports, Marking.verdict]

end FieldSymbol

namespace Program

variable (program : Program) (marker : String)

/-- The symbols of some declarators: one place for each of them, empty where it has none. -/
def HaveSymbols (declarators : List (Source × Site)) (symbols : List (Option FieldSymbol)) : Prop :=
  List.Forall₂ (fun declarator symbol =>
    (program.fieldSymbol? declarator.1 declarator.2).outcome = .ok symbol) declarators symbols

variable {program} in
theorem HaveSymbols.outcomes {declarators : List (Source × Site)} {symbols : List (Option FieldSymbol)}
    (have_ : program.HaveSymbols declarators symbols) :
    (declarators.map fun declarator =>
      (program.fieldSymbol? declarator.1 declarator.2).outcome.toOption) = symbols.map some := by
  induction have_ with
  | nil => rfl
  | cons found rest induction => rw [List.map_cons, List.map_cons, found, induction]; rfl

def markingsOf (marker : String) (symbols : List (Option FieldSymbol)) : List Marking :=
  (symbols.filterMap id).filterMap (Marking.ofField? marker)

theorem markings_of_fields (marker : String) (symbols : List (Option FieldSymbol)) :
    (markingsOf marker symbols).map Marking.field =
      (symbols.filterMap id).filter fun field =>
        ∃ used ∈ field.attributes, used.type? = some marker := by
  unfold markingsOf
  induction symbols.filterMap id with
  | nil => rfl
  | cons field fields induction =>
      rw [List.filter_cons, ← Marking.of_field_marked]
      cases ofField : Marking.ofField? marker field with
      | none => simpa [ofField] using induction
      | some marking => simpa [ofField, (Marking.of_field_some.mp ofField).1] using induction

theorem markings_of_read {marker : String} {symbols : List (Option FieldSymbol)} {marking : Marking}
    (member : marking ∈ markingsOf marker symbols) : marking.Reads marker := by
  obtain ⟨field, -, ofField⟩ := List.mem_filterMap.mp member
  exact Marking.reads_of_field ofField

def declaratorsOf (candidates : List Candidate) : List (Source × Site) :=
  candidates.flatMap fun candidate =>
    candidate.declarators.map fun declarator => (candidate.source, declarator)

theorem resolve_declarator_returns {source : Source} {declarator : Site}
    {symbol : Option FieldSymbol}
    (found : (program.fieldSymbol? source declarator).outcome = .ok symbol) :
    (program.resolveDeclarator? marker source declarator).outcome =
        .ok ((symbol.bind (Marking.ofField? marker)).bind fun marking => marking.verdict.field?) ∧
      (program.resolveDeclarator? marker source declarator).diagnostics =
        (symbol.bind (Marking.ofField? marker)).toList.flatMap Marking.reports := by
  have silent : diagnosticsOf (program.fieldSymbol? source declarator).events = [] :=
    program.field_symbol_silent source declarator
  unfold resolveDeclarator? Logged.diagnostics
  rw [Logged.outcome_bind, Logged.events_bind_ok found, diagnostics_append, silent, found]
  cases symbol with
  | none => exact ⟨rfl, rfl⟩
  | some field => exact ⟨field.resolve_returns marker, field.resolve_reports marker⟩

theorem resolve_declarators {declarators : List (Source × Site)} {results : List (Option ResolvedField)}
    (returned : (Logged.forEach
      (fun declarator => program.resolveDeclarator? marker declarator.1 declarator.2)
      declarators).outcome = .ok results) :
    ∃ symbols, program.HaveSymbols declarators symbols ∧
      results.filterMap id =
        ((markingsOf marker symbols).map Marking.verdict).filterMap Verdict.field? ∧
      (declarators.flatMap fun declarator =>
          (program.resolveDeclarator? marker declarator.1 declarator.2).diagnostics) =
        (markingsOf marker symbols).flatMap Marking.reports := by
  have each := Logged.for_each_returns.mp returned
  clear returned
  induction each with
  | nil => exact ⟨[], .nil, rfl, rfl⟩
  | @cons declarator result declarators results returned rest induction =>
      obtain ⟨symbols, have_, fields, reports⟩ := induction
      obtain ⟨symbol, found, -⟩ := Logged.bind_returns.mp returned
      obtain ⟨own, ownReports⟩ := program.resolve_declarator_returns marker found
      have same := Except.ok.inj (returned.symm.trans own)
      refine ⟨symbol :: symbols, .cons found have_, ?_, ?_⟩
      · subst same
        cases symbol with
        | none => simpa [markingsOf] using fields
        | some field =>
            cases marked : Marking.ofField? marker field with
            | none => simpa [markingsOf, marked] using fields
            | some marking =>
                cases settled : marking.verdict.field? <;>
                  simpa [markingsOf, marked, settled] using fields
      · rw [List.flatMap_cons, ownReports, reports]
        cases symbol with
        | none => rfl
        | some field =>
            cases marked : Marking.ofField? marker field with
            | none => simp [markingsOf, marked]
            | some marking => simp [markingsOf, marked]

/-- Resolving the fields of some candidates: every marking in order, and nothing else. -/
theorem resolve_fields_returns {candidates : List Candidate} {fields : List ResolvedField}
    (returned : (program.resolveFields marker candidates).outcome = .ok fields) :
    ∃ symbols, program.HaveSymbols (declaratorsOf candidates) symbols ∧
      fields = ((markingsOf marker symbols).map Marking.verdict).filterMap Verdict.field? ∧
      (program.resolveFields marker candidates).diagnostics =
        (markingsOf marker symbols).flatMap Marking.reports := by
  unfold resolveFields at returned ⊢
  obtain ⟨results, found, later⟩ := Logged.bind_returns.mp returned
  obtain ⟨symbols, have_, same, reports⟩ := program.resolve_declarators marker found
  have fieldsEq : results.filterMap id = fields := Except.ok.inj later
  refine ⟨symbols, have_, fieldsEq.symm.trans same, ?_⟩
  rw [Logged.diagnostics, Logged.events_bind_ok found, Logged.for_each_events found,
    diagnostics_append, diagnostics_flatMap, ← reports]
  exact List.append_nil _

end Program

end PropertyGen
