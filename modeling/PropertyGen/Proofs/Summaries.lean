import PropertyGen.Documentation.Comment
import PropertyGen.Proofs.Content
import PropertyGen.Proofs.Layouts
import PropertyGen.Proofs.Words

/-!
Summaries that are written out and read again. A summary is on one line, the comment made of it
has three lines, and the comment has the same summary.
-/

namespace PropertyGen

namespace Documentation

open Xml

section Found

theorem outline_allowed (depth : Nat) {read : List Token} (plain : ∀ token ∈ read, token.Plain) :
    (∀ character ∈ (outline depth read).1, isAllowed character = true) ∧
      ∀ element ∈ (outline depth read).2, ∀ character ∈ element.2, isAllowed character = true := by
  fun_induction outline depth read with
  | case1 => simp
  | case2 name attributes rest induction =>
      obtain ⟨-, others⟩ := List.forall_mem_cons.mp plain
      exact ⟨by simp, List.forall_mem_cons.mpr ⟨by simp, (induction others).2⟩⟩
  | case3 name attributes rest text elements same induction =>
      obtain ⟨-, others⟩ := List.forall_mem_cons.mp plain
      have inner := induction others
      rw [same] at inner
      exact ⟨by simp, List.forall_mem_cons.mpr inner⟩
  | case4 => simp
  | case5 first rest _ _ _ induction => 
      exact induction (List.forall_mem_cons.mp plain).2
  | case6 depth characters rest text elements same induction =>
      obtain ⟨own, others⟩ := List.forall_mem_cons.mp plain
      have inner := induction others
      rw [same] at inner
      refine ⟨fun character member => ?_, inner.2⟩
      rcases List.mem_append.mp member with here | later
      · exact own character here
      · exact inner.1 character later
  | case7 depth name attributes rest induction => exact induction (List.forall_mem_cons.mp plain).2
  | case8 depth name attributes rest induction => exact induction (List.forall_mem_cons.mp plain).2
  | case9 depth name rest induction => exact induction (List.forall_mem_cons.mp plain).2
  | case10 depth rest induction => exact induction (List.forall_mem_cons.mp plain).2

theorem summary_of_mem {elements : List (Tag × List Char)} {text : List Char}
    (found : summaryOf? elements = some text) : ∃ tag, (tag, text) ∈ elements := by
  unfold summaryOf? at found
  split at found
  · next element same =>
      rw [← Option.some.inj found]
      exact ⟨element.1, List.mem_of_find?_eq_some same⟩
  · obtain ⟨element, first, same⟩ := Option.map_eq_some_iff.mp found
    rw [← same]
    exact ⟨element.1, List.mem_of_head? first⟩

/-- A summary is what is left on one line of a text that a document may hold. -/
theorem summary_chars_eq {documentation summary : List Char}
    (found : summaryChars? documentation = some summary) :
    ∃ text, summary = Text.squeezeChars text ∧ summary ≠ [] ∧
      ∀ character ∈ text, isAllowed character = true := by
  unfold summaryChars? at found
  split at found
  · cases found
  · split at found
    · cases found
    · next inside same =>
        obtain ⟨text, summarized, left⟩ := Option.bind_eq_some_iff.mp found
        obtain ⟨all, tokenized, rfl⟩ := map_returns.mp same
        have plain : ∀ token ∈ all.drop 1, token.Plain := fun token member =>
          tokens_plain tokenized token (List.mem_of_mem_drop member)
        obtain ⟨tag, member⟩ := summary_of_mem summarized
        unfold nonEmpty? at left
        split at left
        · cases left
        · next some =>
            rw [← Option.some.inj left]
            exact ⟨text, rfl, by simpa using some, (outline_allowed 0 plain).2 _ member⟩

end Found

section Shown

theorem outline_characters (depth : Nat) (text : List Char) (rest : List Token) :
    outline (depth + 1) (characterTokens text ++ rest) =
      (text ++ (outline (depth + 1) rest).1, (outline (depth + 1) rest).2) := by
  induction text with
  | nil => rfl
  | cons first text induction =>
      simp only [characterTokens, List.map_cons, List.cons_append] at induction ⊢
      rw [outline, induction]
      rfl

def marked (content : List Char) : List Char :=
  '<' :: "summary".toList ++ '>' :: content ++ '<' :: '/' :: "summary".toList ++ ['>']

theorem read_marked {text : List Char} (allowed : ∀ character ∈ text, isAllowed character = true) :
    read (marked (escaped text)) =
      .ok (.opening "summary".toList [] false ::
        (characterTokens text ++ [.closing "summary".toList, .closing wrapper])) := by
  have outer : IsSimpleName 'm' "ember".toList := ⟨by decide, List.all_eq_true.mp (by decide)⟩
  have inner : IsSimpleName 's' "ummary".toList := ⟨by decide, List.all_eq_true.mp (by decide)⟩
  have written : wrapped (marked (escaped text)) =
      '<' :: 'm' :: ("ember".toList ++ '>' :: '<' :: 's' :: ("ummary".toList ++ '>' ::
        (escaped text ++ '<' :: '/' :: 's' :: ("ummary".toList ++ '>' :: '<' :: '/' :: 'm' ::
          ("ember".toList ++ '>' :: []))))) := by
    unfold wrapped marked
    simp only [List.append_assoc, List.cons_append]
    rfl
  unfold read
  rw [written, tokens_nested outer inner allowed]
  rfl

theorem summary_chars_marked {text : List Char}
    (allowed : ∀ character ∈ text, isAllowed character = true)
    (left : Text.squeezeChars text ≠ []) :
    summaryChars? (marked (escaped text)) = some (Text.squeezeChars text) := by
  have notBlank : (marked (escaped text)).all Text.isBlank = false := by
    have angle : Text.isBlank '<' = false := by decide
    simp [marked, angle]
  have outlined : (outline 0 (.opening "summary".toList [] false ::
      (characterTokens text ++ [.closing "summary".toList, .closing wrapper]))).2 =
        [({ name := "summary".toList, attributes := [] }, text)] := by
    simp [outline, outline_characters]
  have counts : summaryOf? [({ name := "summary".toList, attributes := [] }, text)] = some text := rfl
  unfold summaryChars?
  rw [if_neg (by simp [notBlank]), read_marked allowed]
  simp only [outlined, counts]
  simp [nonEmpty?, left]

end Shown

section Comments

def lineTerminators : List Char := ['\r', '\n', '\u0085', '\u2028', '\u2029']

/-- The lines of the comment that shows a summary. -/
def shownLines (summary : String) : List String :=
  ["/// <summary>", "/// " ++ Render.escape summary, "/// </summary>"]

theorem escaped_blank {text : List Char} {character : Char} (member : character ∈ escaped text)
    (blank : Text.isBlank character = true) : character ∈ text := by
  have clean : ['&', 'a', 'm', 'p', 'l', 't', 'g', ';'].all (!Text.isBlank ·) = true := by decide
  obtain ⟨source, inside, shown⟩ := List.mem_flatMap.mp member
  rcases escape_cases source with ⟨-, same⟩ | ⟨-, same⟩ | ⟨-, same⟩ | ⟨-, -, -, same⟩
  case inr.inr.inr =>
    rw [same] at shown
    exact List.mem_singleton.mp shown ▸ inside
  all_goals
    have mark : character ∈ ['&', 'a', 'm', 'p', 'l', 't', 'g', ';'] := by
      rw [same] at shown
      simp only [List.mem_cons, List.not_mem_nil, or_false] at shown ⊢
      grind
    have plain := List.all_eq_true.mp clean character mark
    simp [blank] at plain

theorem escape_ends {character : Char} (plain : Text.isBlank character = false) :
    ∃ front last, Render.escapeCharacter character = front ++ [last] ∧
      Text.isBlank last = false := by
  have semicolon : Text.isBlank ';' = false := by decide
  rcases escape_cases character with ⟨-, same⟩ | ⟨-, same⟩ | ⟨-, same⟩ | ⟨-, -, -, same⟩
  · exact ⟨['&', 'a', 'm', 'p'], ';', same, semicolon⟩
  · exact ⟨['&', 'l', 't'], ';', same, semicolon⟩
  · exact ⟨['&', 'g', 't'], ';', same, semicolon⟩
  · exact ⟨[], character, same, plain⟩

theorem escaped_ends {text : List Char} (nonempty : text ≠ [])
    (ends : ∀ character ∈ text.getLast?, Text.isBlank character = false) :
    ∃ front last, escaped text = front ++ [last] ∧ Text.isBlank last = false := by
  obtain ⟨before, final, rfl⟩ := List.eq_nil_or_concat text |>.resolve_left nonempty
  obtain ⟨front, last, shown, plain⟩ := escape_ends (ends final (by simp))
  exact ⟨escaped before ++ front, last, by simp [escaped, shown], plain⟩

theorem only_spaces {text : List Char}
    (checked : text.all (fun character => !Text.isBlank character || character == ' ') = true) :
    ∀ character ∈ text, Text.isBlank character = true → character = ' ' := by
  intro character member blank
  simpa [blank] using List.all_eq_true.mp checked character member

theorem shown_spaces {summary : String} (oneLine : Text.OneLine summary.toList) :
    ∀ line ∈ shownLines summary, ∀ character ∈ line.toList, Text.isBlank character = true →
      character = ' ' := by
  have beginning : ∀ character ∈ "/// ".toList, Text.isBlank character = true → character = ' ' :=
    only_spaces (by decide)
  intro line member
  rcases List.mem_cons.mp member with rfl | rest
  · exact only_spaces (by decide)
  · rcases List.mem_cons.mp rest with rfl | last
    · intro character inside blank
      rw [String.toList_append] at inside
      rcases List.mem_append.mp inside with before | text
      · exact beginning character before blank
      · have source := escaped_blank (by simpa [Render.escape] using text) blank
        exact oneLine.spaces character source blank
    · rw [List.mem_singleton.mp last]
      exact only_spaces (by decide)

/-- Comments right above a declaration, with no documentation comment above them. -/
structure Above (source : Source) (site : Site) (comments : List Node) : Prop where
  kinds : ∀ comment ∈ comments, comment.kind = "comment"
  rest : ∃ others, site.earlier = comments.reverse ++ others ∧ linesAbove source others = []

theorem lines_above_run {source : Source} {comments others : List Node} {lines : List (List Char)}
    (kinds : ∀ comment ∈ comments, comment.kind = "comment")
    (given : (comments.map source.text).map commentLine? = lines.map some)
    (ended : linesAbove source others = []) :
    linesAbove source (comments ++ others) = lines := by
  induction comments generalizing lines with
  | nil =>
      have none : lines = [] := by simpa using given.symm
      simpa [none] using ended
  | cons comment comments induction =>
      cases lines with
      | nil => simp at given
      | cons line lines =>
          obtain ⟨kind, others⟩ := List.forall_mem_cons.mp kinds
          obtain ⟨first, rest⟩ := List.cons.inj given
          simp only [List.cons_append, linesAbove, if_pos kind, first, induction others rest]

/-- The documentation of a declaration is the lines of the comments above it. -/
theorem collect_above {source : Source} {site : Site} {comments : List Node}
    (above : Above source site comments) (lines : List (List Char)) (nonempty : lines ≠ [])
    (given : (comments.map source.text).map commentLine? = lines.map some) :
    collect? source site = some (String.ofList (joinLines lines)) := by
  obtain ⟨others, earlier, ended⟩ := above.rest
  have run : linesAbove source site.earlier = lines.reverse := by
    rw [earlier]
    apply lines_above_run
    · simpa using above.kinds
    · rw [List.map_reverse, List.map_reverse, given, List.map_reverse]
    · exact ended
  unfold collect?
  rw [run]
  split
  · next empty => exact absurd (by simpa using empty) nonempty
  · simp

theorem comment_line_eq {front : List Char} {last : Char} (plain : Text.isBlank last = false) :
    commentLine? (String.ofList ('/' :: '/' :: '/' :: (front ++ [last]))) =
      some (front ++ [last]) := by
  have slash : Text.isBlank '/' = false := by decide
  have trimmed : Text.trimChars ('/' :: '/' :: '/' :: (front ++ [last])) =
      '/' :: '/' :: '/' :: (front ++ [last]) := by
    apply Text.trim_chars_eq
    · simp [slash]
    · show ∀ character ∈ (('/' :: '/' :: '/' :: front) ++ [last]).getLast?, _
      rw [List.getLast?_concat]
      simpa using plain
  simp [commentLine?, Text.trim, trimmed, Text.dropPrefix?]

theorem shown_comment_lines {summary : String} (oneLine : Text.OneLine summary.toList) :
    (shownLines summary).map commentLine? =
      [" <summary>".toList, ' ' :: escaped summary.toList, " </summary>".toList].map some := by
  obtain ⟨front, last, ends, plain⟩ := escaped_ends oneLine.nonempty oneLine.ends
  have opened : commentLine? "/// <summary>" = some " <summary>".toList := by decide
  have closed : commentLine? "/// </summary>" = some " </summary>".toList := by decide
  have middle : commentLine? ("/// " ++ Render.escape summary) =
      some (' ' :: escaped summary.toList) := by
    have same : "/// " ++ Render.escape summary =
        String.ofList ('/' :: '/' :: '/' :: ((' ' :: front) ++ [last])) := by
      apply String.toList_injective
      simp [Render.escape, ← ends]
    rw [same, comment_line_eq plain, ends]
    rfl
  simp only [shownLines, List.map_cons, List.map_nil, opened, middle, closed]

theorem collect_shown {source : Source} {site : Site} {comments : List Node} {summary : String}
    (oneLine : Text.OneLine summary.toList) (above : Above source site comments)
    (shown : comments.map source.text = shownLines summary) :
    collect? source site =
      some (String.ofList (marked (escaped ('\n' :: summary.toList ++ ['\n'])))) := by
  have lines := shown_comment_lines oneLine
  have newline : Render.escapeCharacter '\n' = ['\n'] := rfl
  have broken : escaped ('\n' :: summary.toList ++ ['\n']) =
      '\n' :: (escaped summary.toList ++ ['\n']) := by
    simp [escaped, newline]
  have joined (content : List Char) :
      joinLines [" <summary>".toList, ' ' :: content, " </summary>".toList] =
        marked ('\n' :: (content ++ ['\n'])) := by
    simp [joinLines, unindented, marked, List.intercalate]
  rw [← shown] at lines
  rw [collect_above above _ (by simp) lines, joined, broken]

/-- A shown summary is the summary of its comment. -/
theorem summary_shown {source : Source} {site : Site} {comments : List Node} {text : List Char}
    (allowed : ∀ character ∈ text, isAllowed character = true)
    (left : Text.squeezeChars text ≠ []) (above : Above source site comments)
    (shown : comments.map source.text = shownLines (String.ofList (Text.squeezeChars text))) :
    summary? (collect? source site) = some (String.ofList (Text.squeezeChars text)) := by
  have newline : Text.isBlank '\n' = true := by decide
  have oneLine : Text.OneLine (String.ofList (Text.squeezeChars text)).toList := by
    simpa using Text.one_line_squeeze left
  have kept := Text.squeeze_between newline newline text
  have allAllowed : ∀ character ∈ '\n' :: Text.squeezeChars text ++ ['\n'],
      isAllowed character = true := by
    have spaces : isAllowed '\n' = true ∧ isAllowed ' ' = true := by decide
    intro character member
    simp only [List.cons_append, List.mem_cons, List.mem_append, List.not_mem_nil, or_false]
      at member
    rcases member with rfl | inside | rfl
    · exact spaces.1
    · rcases Text.mem_squeeze inside with rfl | found
      · exact spaces.2
      · exact allowed character found
    · exact spaces.1
  have read := summary_chars_marked allAllowed (by rw [kept]; exact left)
  rw [kept] at read
  rw [collect_shown oneLine above shown]
  simp only [summary?, String.toList_ofList, Option.bind_eq_bind, Option.bind_some, read,
    Option.pure_def]

end Comments

section Emitted

theorem lines_of_property {spec : PropertySpec} {summary : String}
    (given : spec.summary? = some summary) (oneLine : Text.OneLine summary.toList) (depth : Nat) :
    Layout.linesOf depth (Render.property spec) =
      ((shownLines summary).map fun line : String => Layout.indentation depth ++ line) ++
        Layout.linesOf depth (Render.property { spec with summary? := none }) := by
  have notBlank : summary.toList.all Text.isBlank = false := by
    cases shape : summary.toList with
    | nil => exact absurd shape oneLine.nonempty
    | cons first rest => simp [oneLine.begins first (by simp [shape])]
  have shown : Render.summaryLines (some summary) = (shownLines summary).map fun line : String => .line line := by
    simp [Render.summaryLines, notBlank, shownLines]
  have lines : Layout.linesOf depth ((shownLines summary).map fun line : String => .line line) =
      ((shownLines summary).map fun line : String => Layout.indentation depth ++ line) := by
    simp [shownLines, Layout.linesOf, Layout.lines, Layout.indented]
  rw [Render.property, given, shown]
  simp only [Render.property, Render.summaryLines, List.nil_append]
  rw [Layout.lines_of_append, lines]

/-- A summary survives being shown: it is on one line; the comment that shows it above a property
has three lines; and the comment, above any declaration, has the same summary. -/
theorem summary_survives {documentation : Option String} {summary : String}
    (found : summary? documentation = some summary) :
    Text.OneLine summary.toList ∧
      (∀ line ∈ shownLines summary, ∀ terminator ∈ lineTerminators, terminator ∉ line.toList) ∧
      (∀ (spec : PropertySpec) (depth : Nat), spec.summary? = some summary →
        Layout.linesOf depth (Render.property spec) =
          ((shownLines summary).map fun line : String => Layout.indentation depth ++ line) ++
            Layout.linesOf depth (Render.property { spec with summary? := none })) ∧
      ∀ (source : Source) (site : Site) (comments : List Node), Above source site comments →
        comments.map source.text = shownLines summary →
          summary? (collect? source site) = some summary := by
  obtain ⟨original, -, read⟩ := Option.bind_eq_some_iff.mp found
  obtain ⟨characters, summarized, packed⟩ := Option.bind_eq_some_iff.mp read
  obtain ⟨text, rfl, left, allowed⟩ := summary_chars_eq summarized
  obtain rfl : String.ofList (Text.squeezeChars text) = summary := Option.some.inj packed
  have oneLine : Text.OneLine (String.ofList (Text.squeezeChars text)).toList := by
    simpa using Text.one_line_squeeze left
  have terminators : lineTerminators.all Text.isBlank = true ∧ ' ' ∉ lineTerminators := by decide
  refine ⟨oneLine, ?_, ?_, ?_⟩
  · intro line member terminator ends inside
    have blank := List.all_eq_true.mp terminators.1 terminator ends
    obtain rfl := shown_spaces oneLine line member terminator inside blank
    exact terminators.2 ends
  · exact fun spec depth given => lines_of_property given oneLine depth
  · exact fun source site comments above shown => summary_shown allowed left above shown

open Marker (branch leaf token fieldToken fieldLeaf fieldBranch) in
def summarizedClass : Source :=
  { path := "A.cs",
    bytes := Text.Utf8.encode "/// <summary>\n/// a &lt; b\n/// </summary>\nclass A \x7b \x7d",
    root :=
      branch "compilation_unit" 0 53 [
        leaf "comment" 0 13,
        leaf "comment" 14 26,
        leaf "comment" 27 41,
        branch "class_declaration" 42 53 [
          token "class" 42 47,
          fieldLeaf "identifier" "name" 48 49,
          fieldBranch "declaration_list" "body" 50 53 [
            token "\x7b" 50 51,
            token "\x7d" 52 53]]] }

def summarizedSite : Site :=
  { node := summarizedClass.root.children.getLastD summarizedClass.root,
    path :=
      [{ parent := summarizedClass.root,
         earlier := (summarizedClass.root.children.take 3).reverse }] }

/-- What a comment writes with escapes and marked sections is shown with escapes alone. -/
theorem summary_survives_marks :
    summary? (some "<summary> a &lt; <![CDATA[b]]> </summary>") = some "a < b" ∧
      Text.OneLine "a < b".toList ∧
      Layout.linesOf 1 (Render.summaryLines (some "a < b")) =
        ["    /// <summary>", "    /// a &lt; b", "    /// </summary>"] ∧
      summarizedSite ∈ summarizedClass.sites ∧
      summary? (collect? summarizedClass summarizedSite) = some "a < b" := by
  have found : summary? (some "<summary> a &lt; <![CDATA[b]]> </summary>") = some "a < b" := by
    decide +kernel
  have above : Above summarizedClass summarizedSite (summarizedClass.root.children.take 3) :=
    ⟨by decide +kernel, [], by simp [summarizedSite, Site.earlier], rfl⟩
  have shown : (summarizedClass.root.children.take 3).map summarizedClass.text =
      shownLines "a < b" := by decide +kernel
  obtain ⟨oneLine, -, -, read⟩ := summary_survives found
  have there : summarizedSite ∈ summarizedClass.sites := by
    simp [Source.sites, Site.walk, Site.walkAll, Site.root, Site.children, Site.childrenFrom,
      summarizedClass, summarizedSite, Marker.branch, Marker.leaf, Marker.token]
  exact ⟨found, oneLine, by decide +kernel, there, read _ _ _ above shown⟩

end Emitted

end Documentation

end PropertyGen
