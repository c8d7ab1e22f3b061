import PropertyGen.Proofs.Properties

/-!
The name that a property gets, and the fields that get none. A derived name is what its identifier
is behind the leading underscores, with a capital in front; a field is passed over if nothing is
left of its identifier or if the name would be the one of the field.
-/

namespace PropertyGen

namespace Names

def IsSmall (character : Char) : Prop := 'a' ≤ character ∧ character ≤ 'z'

/-- A small letter and the capital of it; any other character stands for itself. -/
inductive Capital : Char → Char → Prop
  | letter {small capital : Char} (isSmall : IsSmall small)
      (code : capital.toNat + 32 = small.toNat) : Capital small capital
  | other {character : Char} (notSmall : ¬ IsSmall character) : Capital character character

/-- The name that is left of an identifier without its underscores in front, with a capital. -/
inductive Derives (identifier name : String) : Prop
  | intro (underscores : Nat) (first capital : Char) (rest : List Char)
      (written : identifier.toList = List.replicate underscores '_' ++ first :: rest)
      (visible : first ≠ '_') (raised : Capital first capital)
      (named : name.toList = capital :: rest)

/-- An identifier without a name of its own to derive: there are only underscores, or the name would
be the identifier itself. -/
inductive Nameless (identifier : String) : Prop
  | underscores (only : ∀ character ∈ identifier.toList, character = '_')
  | unchanged (first : Char) (rest : List Char) (written : identifier.toList = first :: rest)
      (visible : first ≠ '_') (notSmall : ¬ IsSmall first)

section Capitals

theorem is_small_iff (character : Char) :
    IsSmall character ↔ 97 ≤ character.toNat ∧ character.toNat ≤ 122 := Iff.rfl

theorem upper_small {character : Char} (isSmall : IsSmall character) :
    (Text.upperAscii character).toNat + 32 = character.toNat := by
  have least := ((is_small_iff character).mp isSmall).1
  have code : (Text.upperAscii character).toNat = character.toNat - 32 :=
    (upper_to_nat character).trans (if_pos isSmall)
  omega

theorem upper_capital (character : Char) : Capital character (Text.upperAscii character) := by
  by_cases isSmall : IsSmall character
  · exact .letter isSmall (upper_small isSmall)
  · have same : Text.upperAscii character = character := if_neg isSmall
    rw [same]
    exact .other isSmall

theorem Capital.eq_upper {character capital : Char} (raised : Capital character capital) :
    capital = Text.upperAscii character := by
  cases raised with
  | letter isSmall code =>
      have own := upper_small isSmall
      rw [← Char.toNat_inj]
      omega
  | other notSmall => exact (if_neg notSmall).symm

theorem Capital.not_small {character capital : Char} (raised : Capital character capital) :
    ¬ IsSmall capital := by
  cases raised with
  | letter isSmall code =>
      rw [is_small_iff] at isSmall ⊢
      omega
  | other notSmall => exact notSmall

theorem Capital.visible {character capital : Char} (raised : Capital character capital)
    (visible : character ≠ '_') : capital ≠ '_' := by
  cases raised with
  | letter isSmall code =>
      rintro rfl
      rw [is_small_iff] at isSmall
      have underscore : ('_' : Char).toNat = 95 := rfl
      omega
  | other notSmall => exact visible

theorem upper_eq_self_iff {character : Char} :
    Text.upperAscii character = character ↔ ¬ IsSmall character := by
  constructor
  · intro same
    have notSmall := (upper_capital character).not_small
    rwa [same] at notSmall
  · exact fun notSmall => if_neg notSmall

end Capitals

section Stems

variable {identifier name : String}

theorem derived_name_chars (identifier : String) :
    (derivedName identifier).toList = capitalized (stem identifier) := String.toList_ofList

theorem underscores_stem (identifier : String) :
    ∃ underscores, identifier.toList = List.replicate underscores '_' ++ stem identifier := by
  have only : ∀ character ∈ identifier.toList.takeWhile (· = '_'), character = '_' := by
    intro character member
    have passed := List.mem_takeWhile_imp member
    exact of_decide_eq_true passed
  refine ⟨(identifier.toList.takeWhile (· = '_')).length, ?_⟩
  rw [← List.eq_replicate_of_mem only]
  exact List.takeWhile_append_dropWhile.symm

theorem stem_visible {first : Char} {rest : List Char} (begins : stem identifier = first :: rest) :
    first ≠ '_' := by
  have stops := List.head?_dropWhile_not (· = '_') identifier.toList
  have dropped : identifier.toList.dropWhile (· = '_') = first :: rest := begins
  rw [dropped, List.head?_cons] at stops
  exact of_decide_eq_false stops

theorem stem_of_written {underscores : Nat} {first : Char} {rest : List Char}
    (written : identifier.toList = List.replicate underscores '_' ++ first :: rest)
    (visible : first ≠ '_') : stem identifier = first :: rest := by
  unfold stem
  rw [written, List.dropWhile_append_of_pos]
  · exact List.dropWhile_cons_of_neg (by simpa using visible)
  · intro character member
    exact decide_eq_true (List.eq_of_mem_replicate member)

theorem derives_iff :
    Derives identifier name ↔ name ≠ "" ∧ name = derivedName identifier := by
  constructor
  · rintro ⟨underscores, first, capital, rest, written, visible, raised, named⟩
    have own : name = derivedName identifier := by
      apply String.toList_inj.mp
      rw [derived_name_chars, stem_of_written written visible, named, raised.eq_upper]
      rfl
    refine ⟨?_, own⟩
    rintro rfl
    cases named
  · rintro ⟨nonempty, rfl⟩
    obtain ⟨underscores, written⟩ := underscores_stem identifier
    have named := derived_name_chars identifier
    cases begins : stem identifier with
    | nil =>
        rw [begins] at named
        exact absurd (String.toList_inj.mp named) nonempty
    | cons first rest =>
        rw [begins] at written named
        exact .intro underscores first _ rest written (stem_visible begins) (upper_capital first)
          named

theorem derived_name_empty_iff :
    derivedName identifier = "" ↔ ∀ character ∈ identifier.toList, character = '_' := by
  rw [← String.toList_inj, derived_name_chars, show "".toList = [] from rfl]
  have empty : capitalized (stem identifier) = [] ↔ stem identifier = [] := by
    cases stem identifier with
    | nil => exact Iff.rfl
    | cons first rest => exact iff_of_false (List.cons_ne_nil _ _) (List.cons_ne_nil _ _)
  rw [empty]
  unfold stem
  rw [List.dropWhile_eq_nil_iff]
  simp only [decide_eq_true_eq]

/-- Only a name that begins with neither an underscore nor a small letter is derived from itself. -/
theorem derived_name_eq_self_iff {first : Char} {rest : List Char}
    (written : identifier.toList = first :: rest) :
    derivedName identifier = identifier ↔ first ≠ '_' ∧ ¬ IsSmall first := by
  rw [← String.toList_inj, derived_name_chars, written]
  by_cases visible : first = '_'
  · refine iff_of_false ?_ fun both => both.1 visible
    -- the underscore in front is gone, so the name is shorter
    intro same
    have shorter : (stem identifier).length ≤ rest.length := by
      have dropped : stem identifier = rest.dropWhile (· = '_') := by
        unfold stem
        rw [written, visible]
        rfl
      rw [dropped]
      exact (List.dropWhile_sublist _).length_le
    have lengths := congrArg List.length same
    cases begins : stem identifier with
    | nil =>
        rw [begins] at lengths
        cases lengths
    | cons other more =>
        rw [begins] at lengths shorter
        rw [capitalized, List.length_cons, List.length_cons] at lengths
        rw [List.length_cons] at shorter
        omega
  · have bare : identifier.toList = List.replicate 0 '_' ++ first :: rest := written
    rw [stem_of_written bare visible, capitalized, List.cons.injEq,
      and_iff_left rfl, upper_eq_self_iff]
    exact (and_iff_right visible).symm

theorem nameless_iff :
    Nameless identifier ↔
      derivedName identifier = "" ∨ derivedName identifier = identifier := by
  constructor
  · rintro (only | ⟨first, rest, written, visible, notSmall⟩)
    · exact .inl (derived_name_empty_iff.mpr only)
    · exact .inr ((derived_name_eq_self_iff written).mpr ⟨visible, notSmall⟩)
  · rintro (empty | same)
    · exact .underscores (derived_name_empty_iff.mp empty)
    · cases written : identifier.toList with
      | nil =>
          apply Nameless.underscores
          rw [written]
          exact fun character member => absurd member List.not_mem_nil
      | cons first rest =>
          obtain ⟨visible, notSmall⟩ := (derived_name_eq_self_iff written).mp same
          exact .unchanged first rest written visible notSmall

/-- What is derived from an identifier is no longer changed. -/
theorem Derives.stable (derived : Derives identifier name) :
    (∀ first ∈ name.toList.head?, first ≠ '_') ∧ derivedName name = name := by
  obtain ⟨underscores, first, capital, rest, written, visible, raised, named⟩ := derived
  constructor
  · intro other begins
    rw [named, List.head?_cons] at begins
    rw [← Option.some.inj begins]
    exact raised.visible visible
  · exact (derived_name_eq_self_iff named).mpr ⟨raised.visible visible, raised.not_small⟩

end Stems

end Names

namespace ResolvedField

variable {field : ResolvedField}

theorem override_none_iff :
    field.override? = none ↔
      field.nameArgument? = none ∨ field.nameArgument? = some (some .null) := by
  unfold override?
  cases field.nameArgument? with
  | none => simp
  | some folding =>
      rw [Option.bind_some]
      match folding with
      | none => simp [Folding.display?]
      | some .null => simp [Folding.display?]
      | some (.boolean true) => simp [Folding.display?]
      | some (.boolean false) => simp [Folding.display?]
      | some (.integer value) => simp [Folding.display?]
      | some (.text value) => simp [Folding.display?]

theorem spec_none_iff :
    field.spec? = none ↔ field.derivedName = "" ∨ field.derivedName = field.identifier := by
  unfold spec? hasUsableName
  simp [Classical.or_iff_not_imp_left]

theorem spec_some {spec : PropertySpec} (given : field.spec? = some spec) :
    spec.name = field.derivedName ∧ spec.backingField = field.identifier ∧
      field.derivedName ≠ "" ∧ field.derivedName ≠ field.identifier := by
  have usable : ¬ (field.derivedName = "" ∨ field.derivedName = field.identifier) := by
    rw [← spec_none_iff, given]
    exact Option.some_ne_none spec
  obtain ⟨some, other⟩ := not_or.mp usable
  unfold spec? at given
  split at given
  · rw [← Option.some.inj given]
    exact ⟨rfl, rfl, some, other⟩
  · cases given

/-- Exactly the nameless fields get no property, and the others get one under the derived name,
which differs from the field and from which the same name is derived again; a name that is asked
for is taken as it is, unless it is empty or the one of the field. -/
theorem property_named_iff (field : ResolvedField) :
    (field.override? = none ↔
      field.nameArgument? = none ∨ field.nameArgument? = some (some .null)) ∧
    (field.override? = none →
      (field.spec? = none ↔ Names.Nameless field.identifier) ∧
      ∀ spec, field.spec? = some spec →
        ∃ name : String, spec.name = name ∧ Names.Derives field.identifier name ∧ name ≠ "" ∧
          (∀ first ∈ name.toList.head?, first ≠ '_') ∧
          spec.backingField = field.identifier ∧ name ≠ spec.backingField ∧
          Names.propertyName name none = name) ∧
    (∀ override, field.override? = some override →
      (field.spec? = none ↔ override = "" ∨ override = field.identifier) ∧
      ∀ spec, field.spec? = some spec →
        spec.name = override ∧ spec.backingField = field.identifier) := by
  refine ⟨override_none_iff, ?derived, ?asked⟩
  case derived =>
    intro unasked
    have own : field.derivedName = Names.derivedName field.identifier := by
      unfold derivedName
      rw [unasked]
      rfl
    refine ⟨?_, fun spec given => ?_⟩
    · rw [spec_none_iff, own, Names.nameless_iff, Points.of_text_inj, Points.of_text_inj]
    · obtain ⟨named, backing, some, other⟩ := spec_some given
      rw [own, ne_eq, Points.of_text_inj] at some other
      have derived := Names.derives_iff.mpr ⟨some, rfl⟩
      refine ⟨_, named.trans own, derived, some, derived.stable.1, backing, ?_,
        congrArg Points.ofText derived.stable.2⟩
      rw [backing]
      exact other
  case asked =>
    intro override asked
    have own : field.derivedName = override := by
      unfold derivedName
      rw [asked]
      rfl
    refine ⟨?_, fun spec given => ?_⟩
    · rw [spec_none_iff, own]
    · obtain ⟨named, backing, -⟩ := spec_some given
      exact ⟨named.trans own, backing⟩

end ResolvedField

section Sample

def fieldNamed (identifier : String) (asked? : Option Folding) : ResolvedField :=
  { identifier
    declaredType := "int"
    containing := TypeSymbol.external "X" "class"
    nameArgument? := asked?
    documentation? := none
    location? := none
    usings := [] }

/-- Underscores and a small letter give a name, and an override with the name of the field none. -/
theorem property_named_iff_underscores :
    (∃ spec, (fieldNamed "__count" (some (some .null))).spec? = some spec ∧
      spec.name = "Count" ∧ Names.Derives "__count" "Count" ∧
      Names.propertyName "Count" none = "Count") ∧
    (fieldNamed "_Count" (some (some (.text "_Count")))).spec? = none := by
  obtain ⟨asks, derived, -⟩ :=
    ResolvedField.property_named_iff (fieldNamed "__count" (some (some .null)))
  obtain ⟨-, -, taken⟩ :=
    ResolvedField.property_named_iff (fieldNamed "_Count" (some (some (.text "_Count"))))
  obtain ⟨spec, given, named⟩ :
      ∃ spec, (fieldNamed "__count" (some (some .null))).spec? = some spec ∧ spec.name = "Count" :=
    ⟨_, rfl, by decide⟩
  obtain ⟨-, each⟩ := derived (asks.mpr (.inr rfl))
  obtain ⟨name, own, derives, -, -, -, -, again⟩ := each spec given
  obtain rfl : name = "Count" := Points.of_text_inj.mp (own.symm.trans named)
  exact ⟨⟨spec, given, named, derives, again⟩, (taken "_Count" rfl).1.mpr (.inr rfl)⟩

end Sample

end PropertyGen
