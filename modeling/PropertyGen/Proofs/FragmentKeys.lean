import PropertyGen.Proofs.Numerals
import PropertyGen.Proofs.Parts
import PropertyGen.Proofs.Publication

/-!
The keys of fragments. A qualified key tells the namespace, the name and the number of type
parameters of a type, unless another type of the namespace has the name that a generic one gets by
its number.
-/

namespace PropertyGen

namespace Text

theorem after_first_mark {mark : Char} {front : List Char} (clean : mark ∉ front)
    (back : List Char) : afterFirst mark (front ++ mark :: back) = back := by
  have each : ∀ character ∈ front, decide (character ≠ mark) = true :=
    fun character member => decide_eq_true fun same => clean (same ▸ member)
  unfold afterFirst
  rw [List.dropWhile_append_of_pos each, List.dropWhile_cons_of_neg (by simp)]
  rfl

theorem after_last_append {mark : Char} (front : List Char) {back : List Char}
    (clean : mark ∉ back) : afterLast mark (front ++ back) = afterLast mark front ++ back := by
  have each : ∀ character ∈ back.reverse, decide (character ≠ mark) = true :=
    fun character member =>
      decide_eq_true fun same => clean (same ▸ List.mem_reverse.mp member)
  unfold afterLast
  rw [List.reverse_append, List.takeWhile_append_of_pos each, List.reverse_append,
    List.reverse_reverse]

theorem after_last_ends (mark : Char) (text : List Char) : afterLast mark text <:+ text := by
  unfold afterLast
  rw [← List.reverse_prefix, List.reverse_reverse]
  exact List.takeWhile_prefix _

theorem last_mark_inj {mark : Char} {front other back more : List Char} (clean : mark ∉ back)
    (alsoClean : mark ∉ more) (same : front ++ mark :: back = other ++ mark :: more) :
    front = other ∧ back = more := by
  rcases List.append_eq_append_iff.mp same with ⟨between, rfl, rest⟩ | ⟨between, rfl, rest⟩
  · cases between with
    | nil => exact ⟨(List.append_nil _).symm, (List.cons_eq_cons.mp rest).2⟩
    | cons first between =>
        rw [(List.cons_eq_cons.mp rest).2] at clean
        exact absurd (List.mem_append_right _ List.mem_cons_self) clean
  · cases between with
    | nil => exact ⟨List.append_nil _, (List.cons_eq_cons.mp rest).2.symm⟩
    | cons first between =>
        rw [(List.cons_eq_cons.mp rest).2] at alsoClean
        exact absurd (List.mem_append_right _ List.mem_cons_self) alsoClean

end Text

namespace Names

variable {space name : String} {count : Nat}

theorem qualified_front (space : String) :
    ∃ front : List Char, (∀ name, (qualify space name).toList = front ++ name.toList) ∧
      ∀ mark ∈ front, mark ∈ space.toList ∨ mark = '.' := by
  by_cases isGlobal : space = ""
  · refine ⟨[], fun name => ?_, fun mark member => absurd member List.not_mem_nil⟩
    rw [to_list_qualify, if_pos isGlobal]
    rfl
  · refine ⟨space.toList ++ ['.'], fun name => ?_, fun mark member => ?_⟩
    · rw [to_list_qualify, if_neg isGlobal, List.append_assoc]
      rfl
    · exact (List.mem_append.mp member).imp_right List.mem_singleton.mp

theorem arity_qualified (noTick : '`' ∉ space.toList)
    (clean : ∀ mark ∈ ['+', '`'], mark ∉ name.toList) (count : Nat) :
    arity (qualify space (keySegment (name, count))) =
      if count ≠ 0 ∧ Numeral.digitLimit < (Nat.toDigits 10 count).length then
        .error (.tooManyDigits (Nat.toDigits 10 count).length)
      else .ok (count : Int) := by
  obtain ⟨front, characters, within⟩ := qualified_front space
  have noPlus : '+' ∉ (keySegment (name, count)).toList :=
    key_segment_clean (by decide) (by decide) (clean '+' (by decide))
  have ownClean : '`' ∉ Text.afterLast '+' front ++ name.toList := by
    rw [List.mem_append, not_or]
    refine ⟨fun member => ?_, clean '`' (by decide)⟩
    have inside := within '`' ((Text.after_last_ends _ _).subset member)
    exact inside.elim noTick (by decide)
  unfold arity
  dsimp only
  rw [characters, Text.after_last_append _ noPlus]
  by_cases none : count = 0
  · have noneTicked : ¬ (Text.afterLast '+' front ++ (keySegment (name, count)).toList).contains
        '`' = true := by
      rw [List.contains_iff_mem, none]
      exact ownClean
    rw [if_neg noneTicked, none]
    rfl
  · have segment : (keySegment (name, count)).toList =
        name.toList ++ '`' :: Nat.toDigits 10 count := by
      unfold keySegment
      rw [if_neg none, String.toList_append, String.toList_append, List.append_assoc, to_list_count]
      rfl
    rw [segment, ← List.append_assoc, Text.after_first_mark ownClean, Numeral.read_int_printed,
      if_pos]
    · by_cases tooLong : Numeral.digitLimit < (Nat.toDigits 10 count).length
      · rw [if_pos tooLong, if_pos ⟨none, tooLong⟩]
      · rw [if_neg tooLong, if_neg fun both => tooLong both.2]
    · rw [List.contains_iff_mem]
      exact List.mem_append_right _ List.mem_cons_self

def keyStem (key : String × Nat) : String :=
  if key.2 = 0 then key.1 else key.1 ++ "_" ++ toString key.2

theorem key_stem_clean {key : String × Nat} (own : '.' ∉ key.1.toList) :
    '.' ∉ (keyStem key).toList := by
  unfold keyStem
  split
  · exact own
  · rw [String.toList_append, String.toList_append, List.mem_append, List.mem_append]
    rintro ((inside | underscore) | digit)
    · exact own inside
    · exact absurd (List.mem_singleton.mp underscore) (by decide)
    · exact digits_clean (by decide) _ digit

theorem underscored_inj {another : String} {other : Nat}
    (same : name ++ "_" ++ toString count = another ++ "_" ++ toString other) :
    name = another ∧ count = other := by
  have clean (number : Nat) : '_' ∉ Nat.toDigits 10 number := by
    rw [← to_list_count]
    exact digits_clean (by decide) number
  have characters := congrArg String.toList same
  simp only [String.toList_append, List.append_assoc, to_list_count] at characters
  have parts := Text.last_mark_inj (clean count) (clean other) characters
  have counts := congrArg (Nat.ofDigitChars 10 · 0) parts.2
  simp only [Nat.ofDigitChars_ten_toDigits] at counts
  exact ⟨String.toList_inj.mp parts.1, counts⟩

/-- One of two names belongs to a generic type, and the other one spells it with the number of its
type parameters behind an underscore. -/
def SpelledOut (generic plain : String × Nat) : Prop :=
  generic.2 ≠ 0 ∧ plain.2 = 0 ∧ plain.1 = generic.1 ++ "_" ++ toString generic.2

theorem key_stem_eq_iff {first second : String × Nat} (apart : first ≠ second) :
    keyStem first = keyStem second ↔ SpelledOut first second ∨ SpelledOut second first := by
  obtain ⟨name, count⟩ := first
  obtain ⟨another, other⟩ := second
  unfold keyStem SpelledOut
  dsimp only
  by_cases plain : count = 0
  · by_cases otherPlain : other = 0
    · rw [if_pos plain, if_pos otherPlain]
      refine iff_of_false (fun same => apart ?_) ?_
      · rw [same, plain, otherPlain]
      · exact not_or.mpr ⟨fun both => both.1 plain, fun both => both.1 otherPlain⟩
    · rw [if_pos plain, if_neg otherPlain]
      refine ⟨fun same => .inr ⟨otherPlain, plain, same⟩, ?_⟩
      rintro (both | both)
      · exact absurd plain both.1
      · exact both.2.2
  · by_cases otherPlain : other = 0
    · rw [if_neg plain, if_pos otherPlain]
      refine ⟨fun same => .inl ⟨plain, otherPlain, same.symm⟩, ?_⟩
      rintro (both | both)
      · exact both.2.2.symm
      · exact absurd otherPlain both.1
    · rw [if_neg plain, if_neg otherPlain]
      refine iff_of_false (fun same => apart ?_) ?_
      · obtain ⟨names, counts⟩ := underscored_inj same
        rw [names, counts]
      · exact not_or.mpr ⟨fun both => otherPlain both.2.1, fun both => plain both.2.1⟩

def Undivided (name : String) : Prop := ∀ mark ∈ ['.', '+', '`'], mark ∉ name.toList

-- the marks are gone through one by one, and not all characters there are
instance (name : String) : Decidable (Undivided name) :=
  List.decidableBAll (fun mark => mark ∉ name.toList) ['.', '+', '`']

end Names

/-- The metadata name of a type is made of its namespace, its name and the number of its type
parameters. -/
structure TypeSymbol.Titled (symbol : TypeSymbol) (parameters : Nat) : Prop where
  named : symbol.name ≠ ""
  clean : Names.Undivided symbol.name
  metadataName : symbol.metadataName =
    Names.qualify symbol.space (Names.keySegment (symbol.name, parameters))

namespace TypeSymbol.Titled

variable {symbol : TypeSymbol} {parameters : Nat}

theorem arity_eq (titled : symbol.Titled parameters) (noTick : '`' ∉ symbol.space.toList) :
    symbol.arity =
      if parameters ≠ 0 ∧ Numeral.digitLimit < (Nat.toDigits 10 parameters).length then
        .error (.tooManyDigits (Nat.toDigits 10 parameters).length)
      else .ok (parameters : Int) := by
  unfold TypeSymbol.arity
  rw [titled.metadataName]
  refine Names.arity_qualified noTick (fun mark listed => titled.clean mark ?_) parameters
  exact List.mem_cons_of_mem _ listed

theorem key_eq (titled : symbol.Titled parameters) (noTick : '`' ∉ symbol.space.toList)
    (within : (Nat.toDigits 10 parameters).length ≤ Numeral.digitLimit) :
    fragmentKey symbol true =
      .ok (Names.qualify symbol.space (Names.keyStem (symbol.name, parameters)) ++ keySuffix) := by
  have read : symbol.arity = .ok (parameters : Int) := by
    rw [titled.arity_eq noTick, if_neg fun both => both.2.not_ge within]
  unfold fragmentKey Names.keyStem
  rw [if_pos rfl, read]
  by_cases plain : parameters = 0
  · rw [plain]
    rfl
  · rw [if_neg plain]
    show Except.ok (Names.qualify symbol.space (if (parameters : Int) = 0 then symbol.name
      else symbol.name ++ "_" ++ toString (parameters : Int)) ++ keySuffix) = _
    rw [if_neg (Int.natCast_ne_zero.mpr plain)]
    rfl

theorem parameters_inj (titled : symbol.Titled parameters) {second : TypeSymbol} {others : Nat}
    (otherTitled : second.Titled others) (same : symbol.metadataName = second.metadataName) :
    parameters = others := by
  have simple {symbol : TypeSymbol} {count : Nat} (titled : symbol.Titled count) :
      '.' ∉ (Names.keySegment (symbol.name, count)).toList :=
    Names.key_segment_clean (by decide) (by decide) (titled.clean '.' (by decide))
  have noTick {symbol : TypeSymbol} {count : Nat} (titled : symbol.Titled count) :
      '`' ∉ (symbol.name, count).1.toList := titled.clean '`' (by decide)
  rw [titled.metadataName, otherTitled.metadataName,
    Names.qualify_inj (simple titled) (simple otherTitled),
    Names.key_segment_inj (noTick titled) (noTick otherTitled)] at same
  exact (Prod.mk.inj same.2).2

end TypeSymbol.Titled

/-- Two qualified keys are the same exactly if one type is generic and another one of its namespace
has its name with the number of its type parameters. No key is the one of the marker. -/
theorem qualified_keys_collide_iff {first second : TypeSymbol} {parameters others : Nat}
    (titled : first.Titled parameters) (otherTitled : second.Titled others)
    (noTick : '`' ∉ first.space.toList) (otherNoTick : '`' ∉ second.space.toList)
    (within : (toString parameters).length ≤ Numeral.digitLimit)
    (otherWithin : (toString others).length ≤ Numeral.digitLimit)
    (apart : first.metadataName ≠ second.metadataName) :
    ∃ key other, fragmentKey first true = .ok key ∧ fragmentKey second true = .ok other ∧
      (key = other ↔
        first.space = second.space ∧
          (Names.SpelledOut (first.name, parameters) (second.name, others) ∨
            Names.SpelledOut (second.name, others) (first.name, parameters))) ∧
      (first.space ≠ second.space ∨ (parameters = 0 ↔ others = 0) → key ≠ other) ∧
      ∀ symbol qualified key, fragmentKey symbol qualified = .ok key → key ≠ Marker.key := by
  rw [← String.length_toList, Names.to_list_count] at within otherWithin
  have simple {symbol : TypeSymbol} {count : Nat} (titled : symbol.Titled count) :
      '.' ∉ (Names.keyStem (symbol.name, count)).toList :=
    Names.key_stem_clean (titled.clean '.' (by decide))
  have collide : Names.qualify first.space (Names.keyStem (first.name, parameters)) ++ keySuffix =
      Names.qualify second.space (Names.keyStem (second.name, others)) ++ keySuffix ↔
        first.space = second.space ∧
          (Names.SpelledOut (first.name, parameters) (second.name, others) ∨
            Names.SpelledOut (second.name, others) (first.name, parameters)) := by
    rw [String.append_left_inj, Names.qualify_inj (simple titled) (simple otherTitled)]
    apply and_congr_right
    intro spaces
    apply Names.key_stem_eq_iff
    intro same
    apply apart
    rw [titled.metadataName, otherTitled.metadataName, spaces, same]
  refine ⟨_, _, titled.key_eq noTick within, otherTitled.key_eq otherNoTick otherWithin, collide,
    ?_, fun symbol qualified key => Publication.key_ne_marker⟩
  rintro (spaces | alike) same
  · exact spaces (collide.mp same).1
  · rcases (collide.mp same).2 with ⟨generic, plain, -⟩ | ⟨generic, plain, -⟩
    · exact generic (alike.mpr plain)
    · exact generic (alike.mp plain)

section Samples

def classTitled (space name : String) (parameters : Nat) : TypeSymbol :=
  { metadataName := Names.qualify space (Names.keySegment (name, parameters))
    name
    space
    kind := "class"
    typeParameters := ""
    containing? := none
    interfaces := []
    locations := []
    isExternal := false }

theorem class_titled {name : String} (named : name ≠ "")
    (clean : Names.Undivided name) (space : String) (parameters : Nat) :
    (classTitled space name parameters).Titled parameters where
  named := named
  clean := clean
  metadataName := rfl

/-- A class with two type parameters, and one that is named like it with a two behind. -/
theorem qualified_keys_collide_iff_generic :
    (classTitled "N.M" "X_1" 2).metadataName ≠ (classTitled "N.M" "X_1_2" 0).metadataName ∧
      ∃ key, fragmentKey (classTitled "N.M" "X_1" 2) true = .ok key ∧
        fragmentKey (classTitled "N.M" "X_1_2" 0) true = .ok key ∧ key ≠ Marker.key := by
  have apart : (classTitled "N.M" "X_1" 2).metadataName ≠
      (classTitled "N.M" "X_1_2" 0).metadataName := by decide
  obtain ⟨key, other, read, otherRead, collide, -, unmarked⟩ :=
    qualified_keys_collide_iff (class_titled (by decide) (by decide) "N.M" 2)
      (class_titled (by decide) (by decide) "N.M" 0) (by decide) (by decide) (by decide) (by decide)
      apart
  obtain rfl := collide.mpr ⟨rfl, .inl ⟨by decide, rfl, by decide⟩⟩
  exact ⟨apart, key, read, otherRead, unmarked _ _ _ read⟩

def classSpelling (space name : String) (parameters : Nat) : TypeSymbol :=
  classTitled space (name ++ "_" ++ toString parameters) 0

section Spelling

variable {name : String} (clean : Names.Undivided name)
  (space : String) (parameters : Nat)

include clean

theorem spelling_clean :
    Names.Undivided (name ++ "_" ++ toString parameters) := by
  intro mark listed
  have noDigits : ['.', '+', '`'].filter Char.isDigit = [] := rfl
  have noUnderscore : Names.Undivided "_" := by decide
  rw [String.toList_append, String.toList_append, List.mem_append, List.mem_append, not_or, not_or]
  exact ⟨⟨clean mark listed, noUnderscore mark listed⟩, Names.digits_clean
    (Bool.eq_false_iff.mpr (List.filter_eq_nil_iff.mp noDigits mark listed)) parameters⟩

theorem spelling_titled : (classSpelling space name parameters).Titled 0 := by
  apply class_titled _ (spelling_clean clean parameters)
  intro empty
  have characters := congrArg String.toList empty
  rw [String.toList_append, String.toList_append, List.append_assoc] at characters
  exact List.append_ne_nil_of_right_ne_nil _ (List.cons_ne_nil _ _) characters

theorem spelling_apart (named : name ≠ "") (generic : parameters ≠ 0) :
    (classTitled space name parameters).metadataName ≠
      (classSpelling space name parameters).metadataName := by
  intro same
  have own := class_titled named clean space parameters
  have other := spelling_titled clean space parameters
  exact generic (own.parameters_inj other same)

theorem keys_of_too_many (named : name ≠ "") (global : '`' ∉ space.toList)
    (tooLong : Numeral.digitLimit < (Nat.toDigits 10 parameters).length)
    (generic : parameters ≠ 0) :
    fragmentKey (classTitled space name parameters) true =
        .error (.tooManyDigits (Nat.toDigits 10 parameters).length) ∧
      ∃ key, fragmentKey (classSpelling space name parameters) true = .ok key := by
  refine ⟨?_, _, (spelling_titled clean space parameters).key_eq global (by decide)⟩
  unfold fragmentKey
  rw [if_pos rfl, (class_titled named clean space parameters).arity_eq global,
    if_pos ⟨generic, tooLong⟩]
  rfl

end Spelling

def tooMany : Nat := 10 ^ Numeral.digitLimit

theorem too_many_digits : (Nat.toDigits 10 tooMany).length = Numeral.digitLimit + 1 := by
  apply Nat.le_antisymm
  · rw [Nat.length_toDigits_le_iff (by decide) (Nat.succ_pos _)]
    exact Nat.pow_lt_pow_right (by decide) (Nat.lt_succ_self _)
  · rw [Nat.succ_le_iff, ← Nat.not_le, Numeral.within_limit_iff]
    exact Nat.lt_irrefl _

theorem too_many_ne_zero : tooMany ≠ 0 := (Nat.pow_pos (by decide)).ne'

theorem key_of_ticked {symbol : TypeSymbol} (rest : List Char)
    (read : Text.afterFirst '`' (Text.afterLast '+' symbol.metadataName.toList) =
      '2' :: '.' :: rest) :
    fragmentKey symbol true = .error (.notANumber 10 (String.ofList ('2' :: '.' :: rest))) := by
  have ticked : (Text.afterLast '+' symbol.metadataName.toList).contains '`' = true := by
    by_contra clean
    rw [List.contains_iff_mem] at clean
    have others : ∀ character ∈ Text.afterLast '+' symbol.metadataName.toList,
        decide (character ≠ '`') = true :=
      fun character member => decide_eq_true fun same => clean (same ▸ member)
    unfold Text.afterFirst at read
    rw [List.dropWhile_eq_nil_iff.mpr others] at read
    cases read
  unfold fragmentKey TypeSymbol.arity Names.arity
  dsimp only
  rw [if_pos rfl, if_pos ticked, read, Numeral.read_int_interrupted (by decide) (by decide)
    (by decide +kernel) (by decide +kernel)]
  rfl

/-- No key can be made of a type with too many type parameters, or of one in a namespace with a
backtick in its name, although another type of the namespace spells the number out. -/
theorem qualified_keys_unreadable :
    fragmentKey (classTitled "" "X" tooMany) true =
        .error (.tooManyDigits (Numeral.digitLimit + 1)) ∧
      fragmentKey (classTitled "A`2" "X" 1) true = .error (.notANumber 10 "2.X`1") ∧
      (¬ ∀ (first second : TypeSymbol) (parameters others : Nat), first.Titled parameters →
        second.Titled others → '`' ∉ first.space.toList → '`' ∉ second.space.toList →
        first.metadataName ≠ second.metadataName →
          (fragmentKey first true = fragmentKey second true ↔
            first.space = second.space ∧
              (Names.SpelledOut (first.name, parameters) (second.name, others) ∨
                Names.SpelledOut (second.name, others) (first.name, parameters)))) ∧
      ¬ ∀ (first second : TypeSymbol) (parameters others : Nat), first.Titled parameters →
        second.Titled others → (toString parameters).length ≤ Numeral.digitLimit →
        (toString others).length ≤ Numeral.digitLimit →
        first.metadataName ≠ second.metadataName →
          (fragmentKey first true = fragmentKey second true ↔
            first.space = second.space ∧
              (Names.SpelledOut (first.name, parameters) (second.name, others) ∨
                Names.SpelledOut (second.name, others) (first.name, parameters))) := by
  have named : "X" ≠ "" := by decide
  have clean : Names.Undivided "X" := by decide
  obtain ⟨unread, key, spelled⟩ := keys_of_too_many clean "" tooMany named (by decide)
    (too_many_digits ▸ Nat.lt_succ_self _) too_many_ne_zero
  have ticked : fragmentKey (classTitled "A`2" "X" 1) true = .error (.notANumber 10 "2.X`1") :=
    key_of_ticked ['X', '`', '1'] (by decide +kernel)
  have spelledTicked :
      fragmentKey (classSpelling "A`2" "X" 1) true = .error (.notANumber 10 "2.X_1") :=
    key_of_ticked ['X', '_', '1'] (by decide +kernel)
  refine ⟨too_many_digits ▸ unread, ticked, fun always => ?_, fun always => ?_⟩
  · have keys := (always _ _ tooMany 0 (class_titled named clean "" tooMany)
      (spelling_titled clean "" tooMany) (by decide) (by decide)
      (spelling_apart clean "" tooMany named too_many_ne_zero)).mpr
        ⟨rfl, .inl ⟨too_many_ne_zero, rfl, rfl⟩⟩
    rw [unread, spelled] at keys
    cases keys
  · have keys := (always _ _ 1 0 (class_titled named clean "A`2" 1)
      (spelling_titled clean "A`2" 1) (by decide) (by decide)
      (spelling_apart clean "A`2" 1 named (by decide))).mpr ⟨rfl, .inl ⟨by decide, rfl, rfl⟩⟩
    rw [ticked, spelledTicked] at keys
    exact absurd keys (by decide)

end Samples

end PropertyGen
