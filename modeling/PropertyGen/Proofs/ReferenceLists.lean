import PropertyGen.Proofs.Binding
import PropertyGen.Proofs.Closure
import PropertyGen.Proofs.FragmentKeys
import PropertyGen.Proofs.Strangeness
import PropertyGen.Proofs.Symbols
import PropertyGen.Proofs.Words

/-!
Lists of references in the environment. References stand between commas, each as a name alone or
with its kind behind an equals sign, with blanks around everything and blank pieces among them.
Whatever the blanks, the references are read back in their order, and a program that they are added
to knows each of them that it does not declare.
-/

namespace PropertyGen

namespace Text

structure Trimmed (text : List Char) : Prop where
  nonempty : text ≠ []
  begins : ∀ character ∈ text.head?, isBlank character = false
  ends : ∀ character ∈ text.getLast?, isBlank character = false

instance (text : List Char) : Decidable (Trimmed text) :=
  decidable_of_iff
    (text ≠ [] ∧ text.head?.toList.all (!isBlank ·) = true ∧
      text.getLast?.toList.all (!isBlank ·) = true)
    ⟨fun all => ⟨all.1, by simpa using all.2.1, by simpa using all.2.2⟩,
      fun own => ⟨own.nonempty, by simpa using own.begins, by simpa using own.ends⟩⟩

def Padded (inner text : List Char) : Prop :=
  ∃ front back, front.all isBlank = true ∧ back.all isBlank = true ∧
    text = front ++ (inner ++ back)

theorem drop_blanks {blanks text : List Char} (blank : blanks.all isBlank = true)
    (begins : ∀ character ∈ text.head?, isBlank character = false) :
    (blanks ++ text).dropWhile isBlank = text := by
  rw [List.dropWhile_append_of_pos (List.all_eq_true.mp blank)]
  cases text with
  | nil => rfl
  | cons first rest =>
      exact List.dropWhile_cons_of_neg (ne_true_of_eq_false (begins first rfl))

theorem trim_padded {inner text : List Char} (trimmed : Trimmed inner)
    (padded : Padded inner text) : trimChars text = inner := by
  obtain ⟨front, back, frontBlank, backBlank, rfl⟩ := padded
  have left : trimLeft (front ++ (inner ++ back)) = inner ++ back := by
    apply drop_blanks frontBlank
    rw [List.head?_append_of_ne_nil _ trimmed.nonempty]
    exact trimmed.begins
  have right : (back.reverse ++ inner.reverse).dropWhile isBlank = inner.reverse := by
    apply drop_blanks
    · rw [List.all_reverse]
      exact backBlank
    · rw [List.head?_reverse]
      exact trimmed.ends
  rw [trimChars, left, trimRight, List.reverse_append, right, List.reverse_reverse]

theorem trim_blank {text : List Char} (blank : text.all isBlank = true) : trimChars text = [] := by
  have left : text.dropWhile isBlank = [] := by
    have dropped := drop_blanks blank (show ∀ character ∈ ([] : List Char).head?, _ by simp)
    rwa [List.append_nil] at dropped
  rw [trimChars, trimLeft, left]
  rfl

theorem Padded.clean {inner text : List Char} {mark : Char} (padded : Padded inner text)
    (visible : isBlank mark = false) (absent : mark ∉ inner) : mark ∉ text := by
  obtain ⟨front, back, frontBlank, backBlank, rfl⟩ := padded
  have notBlank : ∀ blanks : List Char, blanks.all isBlank = true → mark ∉ blanks :=
    fun blanks blank member =>
      ne_true_of_eq_false visible (List.all_eq_true.mp blank mark member)
  simp only [List.mem_append, not_or]
  exact ⟨notBlank front frontBlank, absent, notBlank back backBlank⟩

theorem Trimmed.spanning {first last : List Char} (begins : Trimmed first) (ends : Trimmed last)
    (middle : List Char) : Trimmed (first ++ (middle ++ last)) := by
  have nonempty : middle ++ last ≠ [] := List.append_ne_nil_of_right_ne_nil _ ends.nonempty
  refine ⟨List.append_ne_nil_of_left_ne_nil begins.nonempty _, ?_, ?_⟩
  · rw [List.head?_append_of_ne_nil _ begins.nonempty]
    exact begins.begins
  · rw [List.getLast?_append_of_ne_nil _ nonempty, List.getLast?_append_of_ne_nil _ ends.nonempty]
    exact ends.ends

theorem trim_marked {first last left right : List Char} {mark : Char} (begins : Trimmed first)
    (ends : Trimmed last) (leftPadded : Padded first left) (rightPadded : Padded last right) :
    ∃ front back, trimChars (left ++ mark :: right) = front ++ mark :: back ∧ Padded first front ∧
      Padded last back := by
  obtain ⟨before, between, beforeBlank, betweenBlank, rfl⟩ := leftPadded
  obtain ⟨behind, after, behindBlank, afterBlank, rfl⟩ := rightPadded
  have outer : Padded (first ++ ((between ++ mark :: behind) ++ last))
      (before ++ (first ++ between) ++ mark :: (behind ++ (last ++ after))) :=
    ⟨before, after, beforeBlank, afterBlank, by simp⟩
  refine ⟨first ++ between, behind ++ last, ?_, ⟨[], between, rfl, betweenBlank, rfl⟩,
    ⟨behind, [], behindBlank, rfl, by rw [List.append_nil]⟩⟩
  rw [trim_padded (begins.spanning ends _) outer]
  simp

theorem after_first_clean {mark : Char} {text : List Char} (clean : mark ∉ text) :
    afterFirst mark text = [] := by
  have all : text.dropWhile (· ≠ mark) = [] := by
    apply List.dropWhile_eq_nil_iff.mpr
    intro character member
    apply decide_eq_true
    intro same
    exact clean (same ▸ member)
  rw [afterFirst, all]
  rfl

/-- Pieces without the separator are found again between the separators. -/
theorem pieces_at_intercalate {separator : Char} {pieces : List (List Char)}
    (nonempty : pieces ≠ []) (clean : ∀ piece ∈ pieces, separator ∉ piece) :
    piecesAt separator ([separator].intercalate pieces) = pieces := by
  induction pieces with
  | nil => exact absurd rfl nonempty
  | cons piece rest induction =>
      obtain ⟨own, others⟩ := List.forall_mem_cons.mp clean
      by_cases last : rest = []
      · rw [last, List.intercalate_singleton, pieces_at_plain own]
      · rw [List.intercalate_cons_of_ne_nil last, List.append_assoc, List.singleton_append,
          pieces_at_append, pieces_at_plain own, induction last others]
        rfl

end Text

namespace Options

/-- A reference that can stand in a list: its name and its kind are not empty, have no blanks at
their ends and hold no commas, and the name holds no equals sign. -/
structure Listable (entry : String × String) : Prop where
  name : Text.Trimmed entry.1.toList
  kind : Text.Trimmed entry.2.toList
  nameCommaless : ',' ∉ entry.1.toList
  kindCommaless : ',' ∉ entry.2.toList
  equalless : '=' ∉ entry.1.toList

instance (entry : String × String) : Decidable (Listable entry) :=
  decidable_of_iff
    (Text.Trimmed entry.1.toList ∧ Text.Trimmed entry.2.toList ∧ ',' ∉ entry.1.toList ∧
      ',' ∉ entry.2.toList ∧ '=' ∉ entry.1.toList)
    ⟨fun all => ⟨all.1, all.2.1, all.2.2.1, all.2.2.2.1, all.2.2.2.2⟩,
      fun own => ⟨own.name, own.kind, own.nameCommaless, own.kindCommaless, own.equalless⟩⟩

/-- The ways to write a reference. A class can do without its kind. -/
inductive WritesEntry : String × String → List Char → Prop
  | alone {name : String} {text : List Char} (paddedName : Text.Padded name.toList text) :
      WritesEntry (name, "class") text
  | withKind {name kind : String} {left right : List Char}
      (paddedName : Text.Padded name.toList left) (paddedKind : Text.Padded kind.toList right) :
      WritesEntry (name, kind) (left ++ '=' :: right)

/-- Pieces that write some references in order, with blank pieces anywhere among them. -/
inductive WritesEntries : List (String × String) → List (List Char) → Prop
  | nothing : WritesEntries [] []
  | blank {piece : List Char} {entries : List (String × String)} {pieces : List (List Char)}
      (isBlank : piece.all Text.isBlank = true) (later : WritesEntries entries pieces) :
      WritesEntries entries (piece :: pieces)
  | entry {entry : String × String} {piece : List Char} {entries : List (String × String)}
      {pieces : List (List Char)} (writes : WritesEntry entry piece)
      (later : WritesEntries entries pieces) : WritesEntries (entry :: entries) (piece :: pieces)

def Lists (value : String) (table : References) : Prop :=
  ∃ pieces, WritesEntries table pieces ∧ pieces ≠ [] ∧ value.toList = [','].intercalate pieces

theorem read_alone {name kind : String} (listable : Listable (name, kind)) :
    referenceEntry name = (name, "class") := by
  have kept := Text.trim_padded listable.name ⟨[], [], rfl, rfl, (List.append_nil _).symm⟩
  unfold referenceEntry
  rw [Text.before_first_clean listable.equalless, Text.after_first_clean listable.equalless, kept]
  dsimp only
  rw [String.ofList_toList]
  rfl

theorem read_with_kind {name kind : String} (listable : Listable (name, kind))
    {left right : List Char} (paddedName : Text.Padded name.toList left)
    (paddedKind : Text.Padded kind.toList right) :
    referenceEntry (String.ofList (left ++ '=' :: right)) = (name, kind) := by
  have equalless : '=' ∉ left := paddedName.clean (by decide) listable.equalless
  unfold referenceEntry
  rw [String.toList_ofList, Text.before_first_mark, Text.before_first_clean equalless,
    Text.after_first_mark equalless, Text.trim_padded listable.name paddedName,
    Text.trim_padded listable.kind paddedKind]
  dsimp only
  rw [if_neg fun empty => listable.kind.nonempty (List.isEmpty_iff.mp empty),
    String.ofList_toList, String.ofList_toList]

/-- Without the blanks around it, what writes a reference is read as that reference. -/
theorem read_entry {entry : String × String} (listable : Listable entry) {piece : List Char}
    (writes : WritesEntry entry piece) :
    ',' ∉ piece ∧ Text.trimChars piece ≠ [] ∧
      referenceEntry (String.ofList (Text.trimChars piece)) = entry := by
  cases writes with
  | alone padded =>
      refine ⟨padded.clean (by decide) listable.nameCommaless, ?_, ?_⟩
      · rw [Text.trim_padded listable.name padded]
        exact listable.name.nonempty
      · rw [Text.trim_padded listable.name padded, String.ofList_toList, read_alone listable]
  | withKind paddedName paddedKind =>
      have leftClean := paddedName.clean (by decide) listable.nameCommaless
      have rightClean := paddedKind.clean (by decide) listable.kindCommaless
      obtain ⟨front, back, trimmed, frontPadded, backPadded⟩ :=
        Text.trim_marked listable.name listable.kind paddedName paddedKind
      refine ⟨?_, ?_, ?_⟩
      · simp only [List.mem_append, List.mem_cons, not_or]
        exact ⟨leftClean, by decide, rightClean⟩
      · rw [trimmed]
        simp
      · rw [trimmed, read_with_kind listable frontPadded backPadded]

theorem read_entries {table : References} {pieces : List (List Char)}
    (writes : WritesEntries table pieces) (listable : ∀ entry ∈ table, Listable entry) :
    (∀ piece ∈ pieces, ',' ∉ piece) ∧
      ((pieces.map fun piece => String.ofList (Text.trimChars piece)).filter (· ≠ "")).map
        referenceEntry = table := by
  induction writes with
  | nothing => simp
  | @blank piece _ _ isBlank _ induction =>
      obtain ⟨clean, read⟩ := induction listable
      have own : ',' ∉ piece := fun member =>
        absurd (List.all_eq_true.mp isBlank ',' member) (by decide)
      refine ⟨List.forall_mem_cons.mpr ⟨own, clean⟩, ?_⟩
      rw [List.map_cons, Text.trim_blank isBlank, List.filter_cons_of_neg (by decide), read]
  | @entry entry piece entries pieces writes _ induction =>
      obtain ⟨own, others⟩ := List.forall_mem_cons.mp listable
      obtain ⟨clean, read⟩ := induction others
      obtain ⟨ownClean, nonempty, ownRead⟩ := read_entry own writes
      have named : String.ofList (Text.trimChars piece) ≠ "" :=
        fun empty => nonempty (by simpa using congrArg String.toList empty)
      refine ⟨List.forall_mem_cons.mpr ⟨ownClean, clean⟩, ?_⟩
      rw [List.map_cons, List.filter_cons, if_pos (decide_eq_true named), List.map_cons, ownRead,
        read]

theorem read_list {table : References} (apart : table.keys.Nodup)
    (listable : ∀ entry ∈ table, Listable entry) {value : String} (lists : Lists value table) :
    referenceTable (entries value) = table := by
  obtain ⟨pieces, writes, nonempty, whole⟩ := lists
  obtain ⟨clean, read⟩ := read_entries writes listable
  unfold referenceTable entries
  rw [whole, Text.pieces_at_intercalate nonempty clean, read, Table.of_entries_apart apart]

theorem load_references (environment : String → Option String) (overrides : Overrides) :
    (load environment overrides).extraReferences =
      overrides.extraReferences?.getD (entries ((environment referencesVariable).getD "")) :=
  rfl

end Options

namespace Program

/-- Each reference of a table that no source of a program declares is an external type of it, of the
kind that the table tells. -/
def HasExternals (program : Program) (table : References) : Prop :=
  ∀ entry ∈ table, entry.1 ∉ (declarationsOf program.sources).map (·.metadataName) →
    ∃ symbol, program.type? entry.1 = some symbol ∧ symbol = .external entry.1 entry.2 ∧
      symbol.metadataName = entry.1 ∧ symbol.kind = entry.2 ∧ symbol.isExternal = true

theorem has_externals {sources : List Source} {references table : References} {program : Program}
    (built : build sources (references.merge table) = .ok program) (apart : table.keys.Nodup) :
    program.HasExternals table := by
  intro entry member undeclared
  obtain ⟨sourcesEq, -, -, -, types⟩ := build_eq built
  rw [sourcesEq] at undeclared
  refine ⟨.external entry.1 entry.2, ?_, rfl, rfl, rfl, rfl⟩
  unfold type?
  rw [types, external_of_undeclared undeclared, Table.get_merge apart member]
  rfl

theorem add_references_returns {program : Program} (arisen : program.Arises) (table : References) :
    ∃ complete, (program.addReferences table).outcome = .ok complete ∧
      build program.sources (program.references.merge table) = .ok complete := by
  have initialized := (build_returns _ _).mp ⟨program, arisen.built⟩
  obtain ⟨complete, built⟩ :=
    (build_returns program.sources (program.references.merge table)).mpr initialized
  exact ⟨complete, create_returns.mpr built, built⟩

end Program

/-- A list of references in the environment stands for the table that it lists, unless a caller
gives another list. Every program takes the references, and those of them that it does not declare
are external types; so it is when a program is bound with these options. -/
theorem reference_list_reads_back {table : References} (apart : table.keys.Nodup)
    (listable : ∀ entry ∈ table, Options.Listable entry) {value : String}
    (lists : Options.Lists value table) :
    (∀ (environment : String → Option String) (overrides : Options.Overrides),
      (environment Options.referencesVariable).getD "" = value →
      overrides.extraReferences? = none →
        referenceTable (Options.load environment overrides).extraReferences = table ∧
          ∀ sources program, (Program.create sources References.standard).outcome = .ok program →
            ∃ bound, (program.bind (Options.load environment overrides)).outcome = .ok bound ∧
              bound.program.HasExternals table) ∧
      (∀ program : Program, program.Arises →
        ∃ complete, (program.addReferences table).outcome = .ok complete ∧
          complete.sources = program.sources ∧ complete.HasExternals table) ∧
      ∀ (environment : String → Option String) (overrides : Options.Overrides) (list : List String),
        overrides.extraReferences? = some list →
          (Options.load environment overrides).extraReferences = list := by
  refine ⟨fun environment overrides given unset => ?read, fun program arisen => ?add,
    fun environment overrides list set => ?replaced⟩
  case read =>
    have read : referenceTable (Options.load environment overrides).extraReferences = table := by
      rw [Options.load_references, unset, Option.getD_none, given,
        Options.read_list apart listable lists]
    refine ⟨read, fun sources program created => ?_⟩
    have built := Program.create_returns.mp created
    obtain ⟨bound, returned⟩ :=
      Program.bind_returns (Options.load environment overrides) built
    refine ⟨bound, returned, ?_⟩
    have own := (bound_in_iff.mp ⟨program, built, returned⟩).1
    unfold Options.references at own
    rw [read] at own
    split at own
    · next empty =>
        rw [List.isEmpty_iff.mp empty] at read
        rw [← read]
        exact fun entry member => by cases member
    · exact Program.has_externals own apart
  case add =>
    obtain ⟨complete, returned, built⟩ := Program.add_references_returns arisen table
    exact ⟨complete, returned, (Program.build_eq built).1, Program.has_externals built apart⟩
  case replaced => rw [Options.load_references, set, Option.getD_some]

section Samples

def listedShapes : References := [("Acme.Widget", "class"), ("Acme.IShape", "interface")]

def shapeList : String := " Acme.Widget ,, Acme.IShape = interface ,"

def shapeEnvironment (name : String) : Option String :=
  if name = Options.referencesVariable then some shapeList else none

theorem reference_list_reads_back_shapes :
    listedShapes.keys.Nodup ∧ (∀ entry ∈ listedShapes, Options.Listable entry) ∧
      Options.Lists shapeList listedShapes ∧
      (shapeEnvironment Options.referencesVariable).getD "" = shapeList ∧
      referenceTable (Options.load shapeEnvironment
        { qualifiedKeys? := none, extraReferences? := none }).extraReferences = listedShapes ∧
      (∃ program complete, (Program.create [] References.standard).outcome = .ok program ∧
        (program.addReferences listedShapes).outcome = .ok complete ∧
        complete.type? "Acme.IShape" = some (TypeSymbol.external "Acme.IShape" "interface") ∧
        (listedShapes.map fun entry => (complete.type? entry.1).map fun symbol =>
          (symbol.metadataName, symbol.kind, symbol.isExternal)) =
            [some ("Acme.Widget", "class", true), some ("Acme.IShape", "interface", true)]) ∧
      (Options.load shapeEnvironment
        { qualifiedKeys? := none, extraReferences? := some ["Acme.Other"] }).extraReferences =
          ["Acme.Other"] := by
  have apart : listedShapes.keys.Nodup := by decide
  have listable : ∀ entry ∈ listedShapes, Options.Listable entry := by decide +kernel
  have widget : Text.Padded "Acme.Widget".toList " Acme.Widget ".toList := ⟨[' '], [' '], by decide⟩
  have shape : Text.Padded "Acme.IShape".toList " Acme.IShape ".toList := ⟨[' '], [' '], by decide⟩
  have kind : Text.Padded "interface".toList " interface ".toList := ⟨[' '], [' '], by decide⟩
  have lists : Options.Lists shapeList listedShapes :=
    ⟨[" Acme.Widget ".toList, [], " Acme.IShape ".toList ++ '=' :: " interface ".toList, []],
      .entry (.alone widget) (.blank rfl (.entry (.withKind shape kind) (.blank rfl .nothing))),
      List.cons_ne_nil _ _, by decide +kernel⟩
  have given : (shapeEnvironment Options.referencesVariable).getD "" = shapeList := rfl
  obtain ⟨reads, added, replaced⟩ := reference_list_reads_back apart listable lists
  have read := reads shapeEnvironment { qualifiedKeys? := none, extraReferences? := none } given rfl
  obtain ⟨program, built⟩ := (Program.build_returns [] References.standard).mpr (by simp)
  have created := Program.create_returns.mpr built
  obtain ⟨complete, returned, same, externals⟩ := added program (.created created)
  have undeclared (name : String) :
      name ∉ (declarationsOf complete.sources).map (·.metadataName) := by
    rw [same, (Program.build_eq built).1]
    exact List.not_mem_nil
  obtain ⟨widgetSymbol, widgetFound, -, widgetReads⟩ :=
    externals ("Acme.Widget", "class") (by decide) (undeclared _)
  obtain ⟨shapeSymbol, shapeFound, rfl, shapeReads⟩ :=
    externals ("Acme.IShape", "interface") (by decide) (undeclared _)
  have seen : (listedShapes.map fun entry => (complete.type? entry.1).map fun symbol =>
      (symbol.metadataName, symbol.kind, symbol.isExternal)) =
        [some ("Acme.Widget", "class", true), some ("Acme.IShape", "interface", true)] := by
    simp [listedShapes, widgetFound, widgetReads, shapeFound, shapeReads]
  exact ⟨apart, listable, lists, given, read.1,
    ⟨program, complete, created, returned, shapeFound, seen⟩, replaced _ _ _ rfl⟩

end Samples

end PropertyGen
