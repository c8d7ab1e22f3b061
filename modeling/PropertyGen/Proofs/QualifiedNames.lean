import PropertyGen.Constant.Expression
import PropertyGen.Proofs.Segments

/-!
Names in syntax trees. A name ends with an identifier, perhaps with type arguments, and what is read
off its text is that identifier, unless the name is no more than an identifier behind an alias.
-/

namespace PropertyGen

def Node.IsToken (node : Node) (text : String) : Prop :=
  node.kind = text ∧ node.named = false ∧ node.children = []

def Node.uncommented (node : Node) : List Node :=
  node.children.filter fun child => child.kind ≠ "comment"

def Node.parts (node : Node) : List Node := (Site.root node).walk.map (·.node)

theorem Node.mem_parts_self (node : Node) : node ∈ node.parts :=
  List.mem_map.mpr ⟨Site.root node, (Site.mem_walk _ _).mpr .here, rfl⟩

theorem Node.mem_parts_child {node part child : Node} (inside : part ∈ node.parts)
    (isChild : child ∈ part.children) : child ∈ node.parts := by
  obtain ⟨site, below, rfl⟩ := List.mem_map.mp inside
  obtain ⟨childSite, step, rfl⟩ := Site.site_of_child isChild
  exact List.mem_map.mpr
    ⟨childSite, (Site.mem_walk _ _).mpr (.down ((Site.mem_walk _ _).mp below) step), rfl⟩

namespace Source

variable (source : Source)

def identifier (node : Node) : String :=
  let text := source.compactText node
  ((Text.dropPrefix? ['@'] text.toList).map String.ofList).getD text

/-- A name without qualification, perhaps with type arguments, and its identifier. -/
inductive SimpleName : Node → String → Prop
  | identifier {node : Node} (isIdentifier : node.kind = "identifier") :
      SimpleName node (source.identifier node)
  | generic {node name arguments : Node} (isGeneric : node.kind = "generic_name")
      (children : node.uncommented = [name, arguments]) (isIdentifier : name.kind = "identifier")
      (areArguments : arguments.kind = "type_argument_list") :
      SimpleName node (source.identifier name)

/-- What can stand before a dot without being a name. -/
def receiverKinds : List String :=
  ["this", "this_expression", "base", "base_expression", "predefined_type"]

inductive QualifiedName : Node → String → Prop
  | simple {node : Node} {name : String} (isName : source.SimpleName node name) :
      QualifiedName node name
  | aliased {node label colons right : Node} {name : String}
      (isAliased : node.kind = "alias_qualified_name")
      (children : node.uncommented = [label, colons, right]) (isLabel : label.kind = "identifier")
      (areColons : colons.IsToken "::") (last : source.SimpleName right name) :
      QualifiedName node name
  | qualified {node left dot right : Node} {outer name : String}
      (isQualified : node.kind = "qualified_name" ∨ node.kind = "member_access_expression")
      (children : node.uncommented = [left, dot, right]) (isName : QualifiedName left outer)
      (isDot : dot.IsToken ".") (last : source.SimpleName right name) : QualifiedName node name
  | received {node left dot right : Node} {name : String}
      (isQualified : node.kind = "qualified_name" ∨ node.kind = "member_access_expression")
      (children : node.uncommented = [left, dot, right]) (isReceiver : left.kind ∈ receiverKinds)
      (isDot : dot.IsToken ".") (last : source.SimpleName right name) : QualifiedName node name

def joinedKinds : List String :=
  ["invocation_expression", "argument_list", "argument", "generic_name", "qualified_name",
   "member_access_expression", "alias_qualified_name"]

/-- A node with the text that its kind is written with. There are no comments. -/
structure Spelled (node : Node) : Prop where
  noComment : node.kind ≠ "comment"
  joined : node.kind ∈ joinedKinds → node.children ≠ [] → (source.compactText node).toList =
    node.children.flatMap fun child => (source.compactText child).toList
  token : node.named = false → node.children = [] → source.compactText node = node.kind
  identifier : node.kind = "identifier" → Names.Plain (source.identifier node)
  receiver : node.kind ∈ receiverKinds → Names.Plain (source.compactText node)
  arguments : node.kind = "type_argument_list" →
    Names.Bracketed (source.compactText node).toList

instance (node : Node) : Decidable (source.Spelled node) :=
  decidable_of_iff
    (node.kind ≠ "comment" ∧
      (node.kind ∈ joinedKinds → node.children ≠ [] → (source.compactText node).toList =
        node.children.flatMap fun child => (source.compactText child).toList) ∧
      (node.named = false → node.children = [] → source.compactText node = node.kind) ∧
      (node.kind = "identifier" → Names.Plain (source.identifier node)) ∧
      (node.kind ∈ receiverKinds → Names.Plain (source.compactText node)) ∧
      (node.kind = "type_argument_list" → Names.Bracketed (source.compactText node).toList))
    ⟨fun all => ⟨all.1, all.2.1, all.2.2.1, all.2.2.2.1, all.2.2.2.2.1, all.2.2.2.2.2⟩,
      fun all =>
        ⟨all.noComment, all.joined, all.token, all.identifier, all.receiver, all.arguments⟩⟩

/-- A tree that is spelled throughout. -/
def Legible (node : Node) : Prop := ∀ part ∈ node.parts, source.Spelled part

instance (node : Node) : Decidable (source.Legible node) :=
  inferInstanceAs (Decidable (∀ part ∈ node.parts, _))

end Source

namespace Names

theorem identifier_of_piece {name : String} (plain : Plain name) {mark tail : List Char}
    (isMark : mark = [] ∨ mark = ['@']) (isTail : tail = [] ∨ Bracketed tail) :
    Text.beforeFirst '`' (segmentChars (mark ++ (name.toList ++ tail))) = name.toList := by
  have own : unmarked (mark ++ (name.toList ++ tail)) = name.toList ++ tail := by
    rcases isMark with rfl | rfl
    · exact plain.unmarked isTail
    · exact (unmarked_verbatim _).trans (plain.unmarked isTail)
  have clean := Text.before_first_clean (plain.2 '`' (by decide))
  unfold segmentChars
  dsimp only
  rw [own]
  rcases isTail with rfl | bracketed
  · rw [List.append_nil, if_neg, clean]
    rw [List.contains_iff_mem]
    exact plain.2 '<' (by decide)
  · cases tail with
    | nil => cases bracketed.opening
    | cons first rest =>
        have isOpening : first = '<' := Option.some.inj bracketed.opening
        rw [isOpening, if_pos, Text.before_first_mark, Text.before_first_mark,
          Text.before_first_clean (plain.2 '<' (by decide)), clean]
        rw [List.contains_iff_mem]
        exact List.mem_append_right _ List.mem_cons_self

/-- A colon in front of all brackets stays in the identifier that is read off a piece. -/
theorem colon_of_piece {front : List Char} (clean : ∀ mark ∈ ['<', '`'], mark ∉ front)
    (back : List Char) : ':' ∈ Text.beforeFirst '`' (segmentChars (front ++ ':' :: back)) := by
  have kept {mark : Char} (notColon : ':' ≠ mark) {front : List Char} (clean : mark ∉ front)
      (back : List Char) :
      ∃ rest, Text.beforeFirst mark (front ++ ':' :: back) = front ++ ':' :: rest := by
    unfold Text.beforeFirst
    rw [List.takeWhile_append_of_pos, List.takeWhile_cons, if_pos (decide_eq_true notColon)]
    · exact ⟨_, rfl⟩
    · exact fun character member => decide_eq_true fun same => clean (same ▸ member)
  obtain ⟨rest, own⟩ : ∃ rest,
      unmarked (front ++ ':' :: back) = front.dropWhile (· = '@') ++ ':' :: rest := by
    unfold unmarked
    rw [List.reverse_append, List.reverse_cons, List.append_assoc, List.singleton_append,
      drop_while_stop (by decide), List.reverse_append, List.reverse_cons, List.reverse_reverse,
      List.append_assoc, List.singleton_append, drop_while_stop (by decide)]
    exact ⟨_, rfl⟩
  have stillClean : ∀ mark ∈ ['<', '`'], mark ∉ front.dropWhile (· = '@') :=
    fun mark listed member => clean mark listed ((List.dropWhile_suffix _).subset member)
  unfold segmentChars
  dsimp only
  rw [own]
  split
  · obtain ⟨first, begins⟩ := kept (by decide) (stillClean '<' (by decide)) rest
    rw [begins, List.append_assoc, List.cons_append]
    obtain ⟨second, whole⟩ := kept (by decide) (stillClean '`' (by decide)) (first ++ _)
    rw [whole]
    exact List.mem_append_right _ List.mem_cons_self
  · obtain ⟨second, whole⟩ := kept (by decide) (stillClean '`' (by decide)) rest
    rw [whole]
    exact List.mem_append_right _ List.mem_cons_self

end Names

namespace Expression

theorem name_of_eq {target : String} {segment : List Char}
    (last : (Names.segmentsChars target.toList).getLast? = some segment) :
    nameOf target = .ok (some (.text (String.ofList (Text.beforeFirst '`' segment)))) := by
  unfold nameOf Names.segments
  rw [List.getLast?_map, last]
  simp only [Option.map_some, String.toList_ofList]

theorem name_of_last {front piece : List Char} (own : Names.Piece piece)
    (before : front = [] ∨ ∃ left, front = left ++ ['.'] ∧ left.foldl Names.bracketDepth 0 = 0) :
    nameOf (String.ofList (front ++ piece)) =
      .ok (some (.text (String.ofList (Text.beforeFirst '`' (Names.segmentChars piece))))) := by
  apply name_of_eq
  rw [String.toList_ofList]
  unfold Names.segmentsChars
  have last : (([piece].filter fun piece => !piece.isEmpty).map Names.segmentChars) =
      [Names.segmentChars piece] := by
    rw [List.filter_cons_of_pos]
    · rfl
    · rw [Bool.not_eq_true', List.isEmpty_eq_false_iff]
      exact own.some
  rcases before with rfl | ⟨left, rfl, closed⟩
  · rw [List.nil_append, own.whole, last]
    rfl
  · rw [List.append_assoc, List.singleton_append, Names.dotted_pieces_append closed, own.whole,
      List.filter_append, List.map_append, last, List.getLast?_concat]

end Expression

namespace Source

variable {source : Source}

theorem identifier_text (source : Source) (node : Node) :
    ∃ mark, (mark = [] ∨ mark = ['@']) ∧
      (source.compactText node).toList = mark ++ (source.identifier node).toList := by
  unfold identifier
  generalize source.compactText node = text
  dsimp only
  cases characters : text.toList with
  | nil =>
      refine ⟨[], .inl rfl, ?_⟩
      rw [Text.dropPrefix?, Option.map_none, Option.getD_none, characters, List.append_nil]
  | cons first rest =>
      by_cases verbatim : '@' = first
      · refine ⟨['@'], .inr rfl, ?_⟩
        rw [Text.dropPrefix?, if_pos verbatim, Text.dropPrefix?, Option.map_some, Option.getD_some,
          String.toList_ofList, ← verbatim, List.singleton_append]
      · refine ⟨[], .inl rfl, ?_⟩
        rw [Text.dropPrefix?, if_neg verbatim, Option.map_none, Option.getD_none, characters,
          List.nil_append]

theorem Legible.child {node child : Node} (legible : source.Legible node)
    (isChild : child ∈ node.children) : source.Legible child := by
  intro part inside
  apply legible
  obtain ⟨site, walked, rfl⟩ := List.mem_map.mp inside
  have below := (Site.mem_walk _ _).mp walked
  clear walked inside
  induction below with
  | here => exact Node.mem_parts_child node.mem_parts_self isChild
  | @down above below reached step induction =>
      apply Node.mem_parts_child induction
      rw [← above.map_node_children]
      exact List.mem_map_of_mem step

theorem Legible.joined {node : Node} (legible : source.Legible node)
    (isJoined : node.kind ∈ joinedKinds) {parts : List Node} (children : node.uncommented = parts)
    (some : parts ≠ []) : (∀ part ∈ parts, source.Legible part) ∧
      (source.compactText node).toList =
        parts.flatMap fun part => (source.compactText part).toList := by
  have own := legible node node.mem_parts_self
  have all : node.children = parts := by
    rw [← children]
    apply (List.filter_eq_self.mpr _).symm
    intro child isChild
    exact decide_eq_true (legible.child isChild child child.mem_parts_self).noComment
  constructor
  · intro part listed
    rw [← all] at listed
    exact legible.child listed
  · rw [own.joined isJoined (all ▸ some), all]

theorem Legible.token {node : Node} {text : String} (legible : source.Legible node)
    (isToken : node.IsToken text) : source.compactText node = text :=
  ((legible node node.mem_parts_self).token isToken.2.1 isToken.2.2).trans isToken.1

theorem Legible.three {node left middle right : Node} {token : String}
    (legible : source.Legible node) (isJoined : node.kind ∈ joinedKinds)
    (children : node.uncommented = [left, middle, right]) (isToken : middle.IsToken token) :
    source.Legible left ∧ source.Legible right ∧ (source.compactText node).toList =
      (source.compactText left).toList ++ (token.toList ++ (source.compactText right).toList) := by
  obtain ⟨each, text⟩ := legible.joined isJoined children (List.cons_ne_nil _ _)
  refine ⟨each left (by simp), each right (by simp), ?_⟩
  rw [text, ← (each middle (by simp)).token isToken]
  simp only [List.flatMap_cons, List.flatMap_nil, List.append_nil]

theorem simple_text {node : Node} {name : String} (isName : source.SimpleName node name)
    (legible : source.Legible node) :
    Names.Plain name ∧ ∃ mark tail, (mark = [] ∨ mark = ['@']) ∧
      (tail = [] ∨ Names.Bracketed tail) ∧
        (source.compactText node).toList = mark ++ (name.toList ++ tail) := by
  have own := legible node node.mem_parts_self
  cases isName with
  | identifier isIdentifier =>
      obtain ⟨mark, isMark, text⟩ := source.identifier_text node
      refine ⟨own.identifier isIdentifier, mark, [], isMark, .inl rfl, ?_⟩
      rw [List.append_nil, text]
  | @generic identifier arguments isGeneric children isIdentifier areArguments =>
      obtain ⟨mark, isMark, written⟩ := source.identifier_text identifier
      obtain ⟨each, text⟩ :=
        legible.joined (by rw [isGeneric]; decide) children (List.cons_ne_nil _ _)
      refine ⟨(each identifier (by simp) _ identifier.mem_parts_self).identifier isIdentifier, mark,
        (source.compactText arguments).toList, isMark,
        .inr ((each arguments (by simp) _ arguments.mem_parts_self).arguments areArguments), ?_⟩
      rw [text]
      simp only [List.flatMap_cons, List.flatMap_nil, List.append_nil, written, List.append_assoc]

theorem simple_piece {node : Node} {name : String} (isName : source.SimpleName node name)
    (legible : source.Legible node) : Names.Piece (source.compactText node).toList := by
  obtain ⟨plain, mark, tail, isMark, isTail, text⟩ := simple_text isName legible
  rw [text, ← List.append_assoc]
  apply Names.piece_of_brackets _ _ isTail
  · apply List.append_ne_nil_of_right_ne_nil
    exact fun empty => plain.1 (String.toList_inj.mp empty)
  · have among : ['.', '<', '>'] ⊆ Names.marks := by decide
    intro other listed
    exact plain.clean isMark (among listed) fun same => absurd (same ▸ listed) (by decide)

theorem dotted_joined {node : Node}
    (isQualified : node.kind = "qualified_name" ∨ node.kind = "member_access_expression") :
    node.kind ∈ joinedKinds := by
  rcases isQualified with kind | kind
  · rw [kind]
    decide
  · rw [kind]
    decide

theorem aliased_text {node label colons right : Node} {name : String}
    (isAliased : node.kind = "alias_qualified_name")
    (children : node.uncommented = [label, colons, right]) (isLabel : label.kind = "identifier")
    (areColons : colons.IsToken "::") (last : source.SimpleName right name)
    (legible : source.Legible node) :
    Names.Piece (source.compactText node).toList ∧
      ∃ front back, (∀ mark ∈ ['<', '`'], mark ∉ front) ∧
        (source.compactText node).toList = front ++ ':' :: back := by
  obtain ⟨legibleLabel, legibleRight, text⟩ :=
    legible.three (by rw [isAliased]; decide) children areColons
  have plainLabel := (legibleLabel label label.mem_parts_self).identifier isLabel
  obtain ⟨labelMark, isLabelMark, labelText⟩ := source.identifier_text label
  obtain ⟨plain, mark, tail, isMark, isTail, rightText⟩ := simple_text last legibleRight
  rw [labelText, rightText] at text
  rw [text]
  constructor
  · rw [← List.append_assoc mark, ← List.append_assoc, ← List.append_assoc]
    apply Names.piece_of_brackets _ _ isTail
    · apply List.append_ne_nil_of_left_ne_nil
      exact List.append_ne_nil_of_right_ne_nil _ (List.cons_ne_nil _ _)
    · intro other listed member
      have among : ['.', '<', '>'] ⊆ Names.marks := by decide
      have notVerbatim : other ≠ '@' := fun same => absurd (same ▸ listed) (by decide)
      rcases List.mem_append.mp member with inFront | inName
      · rcases List.mem_append.mp inFront with inLabel | inColons
        · exact plainLabel.clean isLabelMark (among listed) notVerbatim inLabel
        · have isColon : other = ':' := by simpa using inColons
          exact absurd (isColon ▸ listed) (by decide)
      · exact plain.clean isMark (among listed) notVerbatim inName
  · refine ⟨labelMark ++ (source.identifier label).toList, ':' :: (mark ++ (name.toList ++ tail)),
      ?_, rfl⟩
    have among : ['<', '`'] ⊆ Names.marks := by decide
    intro other listed
    exact plainLabel.clean isLabelMark (among listed) fun same => absurd (same ▸ listed) (by decide)

theorem qualified_closed {node : Node} {name : String} (isName : source.QualifiedName node name)
    (legible : source.Legible node) :
    (source.compactText node).toList.foldl Names.bracketDepth 0 = 0 := by
  induction isName with
  | simple isName => exact (simple_piece isName legible).closed
  | aliased isAliased children isLabel areColons last =>
      exact (aliased_text isAliased children isLabel areColons last legible).1.closed
  | qualified isQualified children isName isDot last induction =>
      obtain ⟨legibleLeft, legibleRight, text⟩ :=
        legible.three (dotted_joined isQualified) children isDot
      rw [text, List.foldl_append, induction legibleLeft, List.foldl_append]
      exact (simple_piece last legibleRight).closed
  | received isQualified children isReceiver isDot last =>
      obtain ⟨legibleLeft, legibleRight, text⟩ :=
        legible.three (dotted_joined isQualified) children isDot
      have plain := (legibleLeft _ (Node.mem_parts_self _)).receiver isReceiver
      rw [text, List.foldl_append, (Names.piece_of_plain plain).closed, List.foldl_append]
      exact (simple_piece last legibleRight).closed

theorem qualified_some {node : Node} {name : String} (isName : source.QualifiedName node name)
    (legible : source.Legible node) : source.compactText node ≠ "" := by
  have dotted {left dot right : Node}
      (isQualified : node.kind = "qualified_name" ∨ node.kind = "member_access_expression")
      (children : node.uncommented = [left, dot, right]) (isDot : dot.IsToken ".") :
      (source.compactText node).toList ≠ [] := by
    rw [(legible.three (dotted_joined isQualified) children isDot).2.2]
    exact List.append_ne_nil_of_right_ne_nil _ (List.cons_ne_nil _ _)
  have some : (source.compactText node).toList ≠ [] := by
    cases isName with
    | simple isName => exact (simple_piece isName legible).some
    | aliased isAliased children isLabel areColons last =>
        exact (aliased_text isAliased children isLabel areColons last legible).1.some
    | qualified isQualified children isName isDot last => exact dotted isQualified children isDot
    | received isQualified children isReceiver isDot last => exact dotted isQualified children isDot
  exact fun empty => some (String.toList_inj.mpr empty)

/-- The last piece of a name is the simple name at its end, unless that one has an alias. -/
theorem name_of_qualified {node : Node} {name : String} (isName : source.QualifiedName node name)
    (legible : source.Legible node) (notAliased : node.kind ≠ "alias_qualified_name") :
    Expression.nameOf (source.compactText node) = .ok (some (.text name)) := by
  have simple {front : List Char} {right : Node} (last : source.SimpleName right name)
      (legibleRight : source.Legible right)
      (text : (source.compactText node).toList = front ++ (source.compactText right).toList)
      (before : front = [] ∨
        ∃ left, front = left ++ ['.'] ∧ left.foldl Names.bracketDepth 0 = 0) :
      Expression.nameOf (source.compactText node) = .ok (some (.text name)) := by
    obtain ⟨plain, mark, tail, isMark, isTail, rightText⟩ := simple_text last legibleRight
    have identifier := Names.identifier_of_piece plain isMark isTail
    have named := Expression.name_of_last (simple_piece last legibleRight) before
    rw [rightText, identifier, String.ofList_toList, ← rightText, ← text,
      String.ofList_toList] at named
    exact named
  cases isName with
  | simple isName => exact simple isName legible (List.nil_append _).symm (.inl rfl)
  | aliased isAliased => exact absurd isAliased notAliased
  | @qualified _ left dot right outer _ isQualified children isName isDot last =>
      obtain ⟨legibleLeft, legibleRight, text⟩ :=
        legible.three (dotted_joined isQualified) children isDot
      rw [← List.append_assoc] at text
      exact simple last legibleRight text (.inr ⟨_, rfl, qualified_closed isName legibleLeft⟩)
  | received isQualified children isReceiver isDot last =>
      obtain ⟨legibleLeft, legibleRight, text⟩ :=
        legible.three (dotted_joined isQualified) children isDot
      have plain := (legibleLeft _ (Node.mem_parts_self _)).receiver isReceiver
      rw [← List.append_assoc] at text
      exact simple last legibleRight text (.inr ⟨_, rfl, (Names.piece_of_plain plain).closed⟩)

/-- The alias stays in what is read off a name that has it right before its only identifier. -/
theorem name_of_aliased {node : Node} {name : String} (isName : source.QualifiedName node name)
    (legible : source.Legible node) (isAliased : node.kind = "alias_qualified_name") :
    Expression.nameOf (source.compactText node) ≠ .ok (some (.text name)) := by
  cases isName with
  | simple isName =>
      exfalso
      cases isName with
      | identifier isIdentifier => exact absurd (isIdentifier.symm.trans isAliased) (by decide)
      | generic isGeneric => exact absurd (isGeneric.symm.trans isAliased) (by decide)
  | qualified isQualified =>
      rw [isAliased] at isQualified
      exact absurd isQualified (by decide)
  | received isQualified =>
      rw [isAliased] at isQualified
      exact absurd isQualified (by decide)
  | @aliased _ label colons right _ _ children isLabel areColons last =>
      obtain ⟨own, front, back, clean, text⟩ :=
        aliased_text isAliased children isLabel areColons last legible
      have plain := (simple_text last ((legible.three (by rw [isAliased]; decide) children
        areColons).2.1)).1
      have read := Expression.name_of_last own (.inl rfl)
      rw [List.nil_append, String.ofList_toList] at read
      rw [read]
      intro same
      have points := Value.text.inj (Option.some.inj (Except.ok.inj same))
      have isName := congrArg String.toList (Points.of_text_inj.mp points)
      rw [String.toList_ofList, text] at isName
      apply plain.2 ':' (by decide)
      rw [← isName]
      exact Names.colon_of_piece clean back

end Source

end PropertyGen
