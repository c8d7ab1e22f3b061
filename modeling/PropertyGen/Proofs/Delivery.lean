import PropertyGen.CommandLine.Run
import PropertyGen.Proofs.Evaluation
import PropertyGen.Proofs.Listings
import PropertyGen.Proofs.Marks
import PropertyGen.Proofs.Outline
import PropertyGen.Proofs.Workspaces

/-!
Delivery of what was generated. A run of the generating command either comes to nothing, with
the workspace as it was, or puts every source where it is asked for, and nothing else.
-/

namespace PropertyGen

namespace Workspace

section Reading

variable {workspace : Workspace}

/-- A path that stands for itself and cannot be read: it has another suffix than sources have, or
no document is there. -/
def Unreadable (workspace : Workspace) (path : Path) : Prop :=
  (∀ names, workspace.place path ≠ .folder names) ∧
    (path.isSupported = false ∨ ∀ names bytes, workspace.place path ≠ .document names bytes)

theorem supported_of_language {path : Path} {language : Language}
    (spoken : Language.ofPath path = .ok language) : path.isSupported = true := by
  unfold Language.ofPath at spoken
  unfold Path.isSupported
  dsimp only at spoken
  generalize Language.ofSuffix? (Text.lower path.suffix) = known at spoken ⊢
  cases known with
  | none => cases spoken
  | some language => rfl

theorem read_source_returns {parse : Parser} {path : Path} {source : Source}
    (returned : workspace.readSource parse path = .ok source) :
    path.isSupported = true ∧ ∃ names bytes, workspace.place path = .document names bytes := by
  obtain ⟨language, spoken, read⟩ := except_bind_returns.mp returned
  refine ⟨supported_of_language spoken, ?_⟩
  split at read
  · cases read
  · split at read
    · next names bytes found => exact ⟨names, bytes, found⟩
    all_goals cases read

/-- Wherever a path that cannot be read stands in a list, the list is not read. -/
theorem read_sources_returns {parse : Parser} {paths : List Path} {sources : List Source}
    (returned : workspace.readSources parse paths = .ok sources) :
    ∀ path ∈ paths, ¬ workspace.Unreadable path := by
  obtain ⟨collected, listed, read⟩ := except_bind_returns.mp returned
  obtain ⟨lists, each, same⟩ := except_bind_returns.mp listed
  intro path member unreadable
  obtain ⟨notFolder, notRead⟩ := unreadable
  obtain ⟨list, inside, own⟩ := forall_two_member (except_each_returns each).flip member
  have alone : list = [path] := by
    unfold collectPath at own
    split at own
    · next names found => exact absurd found (notFolder names)
    · cases own
    · exact (Except.ok.inj own).symm
  have collectedPath : path ∈ collected := by
    rw [← Except.ok.inj same]
    exact List.mem_flatten.mpr ⟨list, inside, by simp [alone]⟩
  obtain ⟨source, found⟩ := except_each_succeeds.mp ⟨sources, read⟩ path collectedPath
  obtain ⟨supported, names, bytes, there⟩ := read_source_returns found
  rcases notRead with unsupported | absent
  · simp [supported] at unsupported
  · exact absent names bytes there

end Reading

end Workspace

theorem generated_keys_nodup {renderer : Renderer} {sources : List Source} {options : Options}
    {result : GenerationResult}
    (returned : (generateWith renderer sources options).outcome = .ok result) :
    result.keys.Nodup := by
  obtain ⟨program, bound, fields, -, -, -, readable, fragments, -⟩ := generate_returns.mp returned
  rw [GenerationResult.keys, fragments]
  exact Publication.marked_keys_nodup readable

section Errors

variable {renderer : Renderer} {sources : List Source} {options : Options}
  {result : GenerationResult}

theorem marking_severity {marking : Marking} {diagnostic : Diagnostic}
    (reported : diagnostic ∈ marking.reports) : diagnostic.severity = .warning := by
  unfold Marking.reports at reported
  rcases List.mem_append.mp reported with duplicate | verdict
  · unfold Marking.duplicateReports at duplicate
    split at duplicate
    · cases duplicate
    · rw [List.mem_singleton.mp duplicate]
      rfl
  · unfold Marking.verdictReports at verdict
    split at verdict
    · rw [List.mem_singleton.mp verdict]
      rfl
    · rw [List.mem_singleton.mp verdict]
      rfl
    · cases verdict

theorem collision_severity (qualified : Bool) (key : String) (symbol other : TypeSymbol) :
    (collision qualified key symbol other).severity = .warning := by
  cases qualified <;> rfl

theorem fate_severity {render : TypeGroup → Rendering} {qualified : Bool}
    {earlier : List TypeGroup} {group : TypeGroup} {diagnostic : Diagnostic}
    (reported : diagnostic ∈ (Publication.fate render qualified earlier group).reports qualified
      group) (error : diagnostic.severity = .error) : ∃ reason, render group = .failed reason := by
  unfold Publication.fate at reported
  split at reported
  · rw [List.mem_singleton.mp reported, collision_severity] at error
    cases error
  · cases rendered : render group with
    | text text =>
        rw [rendered] at reported
        cases reported
    | nested =>
        rw [rendered] at reported
        rw [List.mem_singleton.mp reported] at error
        cases error
    | failed reason => exact ⟨reason, rfl⟩

theorem errors_are_failures
    (returned : (generateWith renderer sources options).outcome = .ok result)
    (error : ∃ diagnostic ∈ result.diagnostics, diagnostic.severity = .error) :
    ∃ notification group reason, renderer notification group = .failed reason := by
  obtain ⟨program, bound, fields, -, -, resolved, -, -, diagnostics⟩ := generate_returns.mp returned
  obtain ⟨symbols, -, -, reports⟩ := bound.program.resolve_fields_returns _ resolved
  obtain ⟨diagnostic, member, severe⟩ := error
  rw [diagnostics, reports] at member
  rcases List.mem_append.mp member with earlier | published
  · rcases List.mem_append.mp earlier with marked | conflicting
    · obtain ⟨marking, -, own⟩ := List.mem_flatMap.mp marked
      rw [marking_severity own] at severe
      cases severe
    · obtain ⟨conflict, -, rfl⟩ := List.mem_map.mp conflicting
      cases severe
  · obtain ⟨settled, inside, own⟩ := List.mem_flatMap.mp published
    obtain ⟨before, -, -, fate⟩ := Publication.fates_member inside
    rw [fate] at own
    obtain ⟨reason, failed⟩ := fate_severity own severe
    exact ⟨bound.notification, settled.1, reason, failed⟩

theorem render_never_fails (notification : TypeSymbol) (group : TypeGroup) (reason : String) :
    render notification group ≠ .failed reason := by
  unfold render
  split <;> simp

end Errors

namespace CommandLine

def fileName (key : String) : String := key ++ ".g.cs"

theorem file_name_plain {key : String} (plain : '/' ∉ key.toList) :
    '/' ∉ (fileName key).toList := by
  simpa [fileName] using plain

theorem file_name_ne (key : String) {short : String} (few : short.length < 5) :
    fileName key ≠ short := by
  intro same
  have lengths := congrArg String.length same
  simp only [fileName, String.length_append] at lengths
  have ending : ".g.cs".length = 5 := rfl
  omega

theorem path_of_plain {name : String} (plain : '/' ∉ name.toList) (some : name ≠ "")
    (other : name ≠ ".") : Path.ofText name = { root := "", names := [name] } := by
  have begins : name.toList.takeWhile (· = '/') = [] := by
    cases shape : name.toList with
    | nil => rfl
    | cons first rest =>
        have differs : first ≠ '/' := fun same => plain (by simp [shape, same])
        simp [differs]
  have kept : (name ≠ "" && name ≠ ".") = true := by simp [some, other]
  simp only [Path.ofText, Path.rootOf, begins, Text.pieces_at_plain plain, List.map_cons, List.map_nil,
    String.ofList_toList, List.filter_cons, kept, if_true, List.filter_nil, List.length_nil]

theorem target_eq (folder : Path) {key : String} (plain : '/' ∉ key.toList) :
    targetOf folder key = folder.document (fileName key) := by
  have path := path_of_plain (file_name_plain plain) (file_name_ne key (by decide))
    (file_name_ne key (by decide))
  rw [targetOf, ← fileName, path]
  rfl

/-- A folder that can be made and then takes a document for each key. -/
def Usable (workspace : Workspace) (folder : Path) (keys : List String) : Prop :=
  ∃ ready, workspace.makeFolder folder = (ready, true) ∧
    ∀ key ∈ keys, ready.Takes folder (fileName key)

def placeOf (workspace : Workspace) (folder : Path) (key : String) : List String :=
  workspace.locate folder ++ [fileName key]

theorem place_injective (workspace : Workspace) (folder : Path) :
    Function.Injective (placeOf workspace folder) := by
  intro first second same
  have names : fileName first = fileName second := by
    simpa using List.append_cancel_left same
  have characters := congrArg String.toList names
  simp only [fileName, String.toList_append] at characters
  exact String.toList_injective (List.append_cancel_right characters)

def asSources (texts : List (String × String)) : List (String × Points) :=
  texts.map fun entry => (entry.1, Points.ofText entry.2)

section Deposits

variable {workspace ready later : Workspace} {folder : Path}

/-- The folder is there, on the way that led to it in an earlier workspace. -/
structure Keeps (workspace : Workspace) (folder : Path) (later : Workspace) : Prop where
  here : later.here = workspace.here
  there : ∀ names ∈ workspace.passed folder, later.isFolder names = true

theorem keeps_made (made : workspace.makeFolder folder = (ready, true)) :
    Keeps workspace folder ready := by
  obtain ⟨here, -, folders⟩ := Workspace.make_folder_shows made
  exact ⟨here, fun names member => (folders names).mpr (.inr member)⟩

def deposit (workspace : Workspace) (folder : Path) (later : Workspace) (entry : String × String) :
    Workspace :=
  later.putDocument (placeOf workspace folder entry.1) (Text.Utf8.encode entry.2)

section Deposit

variable (keeps : Keeps workspace folder later) (entry : String × String)

include keeps

theorem deposit_folders (names : List String) :
    (deposit workspace folder later entry).isFolder names = later.isFolder names := by
  have inside := keeps.there _ (workspace.locate_passed folder)
  exact Bool.eq_iff_iff.mpr (Workspace.is_folder_put inside _ _ names)

theorem Keeps.deposited : Keeps workspace folder (deposit workspace folder later entry) := by
  constructor
  · exact (later.here_put _ _).trans keeps.here
  · intro names member
    rw [deposit_folders keeps, keeps.there names member]

theorem deposit_takes (name : String) :
    (deposit workspace folder later entry).Takes folder name ↔ later.Takes folder name := by
  have free : (deposit workspace folder later entry).isFolder
      ((deposit workspace folder later entry).locate folder ++ [name]) =
        later.isFolder (later.locate folder ++ [name]) := by
    have same : (deposit workspace folder later entry).here = later.here := later.here_put _ _
    rw [deposit_folders keeps, Workspace.locate_same same]
  constructor
  · intro takes
    exact { takes with free := free ▸ takes.free }
  · intro takes
    exact { takes with free := free.trans takes.free }

theorem write_taken (made : workspace.makeFolder folder = (ready, true))
    (plain : '/' ∉ entry.1.toList) (takes : later.Takes folder (fileName entry.1)) :
    later.write (targetOf folder entry.1) entry.2 = some (deposit workspace folder later entry) := by
  rw [target_eq folder plain, Workspace.write_made made keeps.here keeps.there takes,
    Workspace.locate_same keeps.here]
  rfl

end Deposit

theorem deposit_document (entry : String × String) (names : List String) :
    (deposit workspace folder later entry).document? names =
      if names = placeOf workspace folder entry.1 then some (Text.Utf8.encode entry.2)
      else later.document? names :=
  later.document_put _ _ _

/-- All sources are delivered, one after the other. -/
theorem write_fragments_eq (made : workspace.makeFolder folder = (ready, true))
    (keeps : Keeps workspace folder later) {texts : List (String × String)}
    (plain : ∀ entry ∈ texts, '/' ∉ entry.1.toList)
    (takes : ∀ entry ∈ texts, later.Takes folder (fileName entry.1)) :
    writeFragments folder later (asSources texts) =
      (texts.flatMap fun entry => printWritten (targetOf folder entry.1),
        texts.foldl (deposit workspace folder) later, true) := by
  induction texts generalizing later with
  | nil => rfl
  | cons entry rest induction =>
      obtain ⟨ownPlain, othersPlain⟩ := List.forall_mem_cons.mp plain
      obtain ⟨ownTakes, othersTake⟩ := List.forall_mem_cons.mp takes
      have written := write_taken keeps entry made ownPlain ownTakes
      have next := induction (keeps.deposited entry) othersPlain fun other member =>
        (deposit_takes keeps entry _).mpr (othersTake other member)
      rw [asSources, List.map_cons, ← asSources, writeFragments]
      simp [written, next]

/-- Delivery ends early at a source that the folder does not take. -/
theorem write_fragments_refused (made : workspace.makeFolder folder = (ready, true))
    (keeps : Keeps workspace folder later) {fragments : List (String × Points)}
    (plain : ∀ fragment ∈ fragments, '/' ∉ fragment.1.toList)
    (refused : ∃ fragment ∈ fragments, ¬ later.Takes folder (fileName fragment.1)) :
    (writeFragments folder later fragments).2.2 = false := by
  induction fragments generalizing later with
  | nil => simp at refused
  | cons fragment rest induction =>
      obtain ⟨ownPlain, othersPlain⟩ := List.forall_mem_cons.mp plain
      rw [writeFragments]
      by_cases takes : later.Takes folder (fileName fragment.1)
      · obtain ⟨other, member, refusedLater⟩ := refused
        have behind : other ∈ rest := by
          rcases List.mem_cons.mp member with rfl | behind
          · exact absurd takes refusedLater
          · exact behind
        have written := write_taken keeps (fragment.1, fragment.2.text?.getD "") made ownPlain takes
        have next := induction (keeps.deposited (fragment.1, fragment.2.text?.getD "")) othersPlain
          ⟨other, behind, fun taken => refusedLater ((deposit_takes keeps _ _).mp taken)⟩
        simp only [written]
        split
        · rfl
        · exact next
      · have forward : fileName fragment.1 ≠ ".." := file_name_ne _ (by decide)
        have unwritten := Workspace.write_refused made keeps.here keeps.there forward takes
          (fragment.2.text?.getD "")
        rw [← target_eq folder ownPlain] at unwritten
        simp only [unwritten]

theorem write_fragments_unencoded {fragments : List (String × Points)}
    (unencoded : ∃ fragment ∈ fragments, fragment.2.text? = none) :
    (writeFragments folder later fragments).2.2 = false := by
  induction fragments generalizing later with
  | nil => simp at unencoded
  | cons fragment rest induction =>
      rw [writeFragments]
      cases later.write (targetOf folder fragment.1) (fragment.2.text?.getD "") with
      | none => rfl
      | some next =>
          cases encoded : fragment.2.text? with
          | none => rfl
          | some text =>
              obtain ⟨other, member, isNone⟩ := unencoded
              have behind : other ∈ rest := by
                rcases List.mem_cons.mp member with rfl | behind
                · cases encoded.symm.trans isNone
                · exact behind
              exact induction ⟨other, behind, isNone⟩

theorem deposits_folders (keeps : Keeps workspace folder later) (texts : List (String × String))
    (names : List String) :
    (texts.foldl (deposit workspace folder) later).isFolder names = later.isFolder names := by
  induction texts generalizing later with
  | nil => rfl
  | cons entry rest induction =>
      rw [List.foldl_cons, induction (keeps.deposited entry), deposit_folders keeps]

theorem deposits_elsewhere {texts : List (String × String)} {names : List String}
    (elsewhere : ∀ entry ∈ texts, names ≠ placeOf workspace folder entry.1) :
    (texts.foldl (deposit workspace folder) later).document? names = later.document? names := by
  induction texts generalizing later with
  | nil => rfl
  | cons entry rest induction =>
      obtain ⟨own, others⟩ := List.forall_mem_cons.mp elsewhere
      rw [List.foldl_cons, induction others, deposit_document, if_neg own]

theorem deposits_there {texts : List (String × String)} (apart : (texts.map (·.1)).Nodup) :
    ∀ entry ∈ texts,
      (texts.foldl (deposit workspace folder) later).document? (placeOf workspace folder entry.1) =
        some (Text.Utf8.encode entry.2) := by
  induction texts generalizing later with
  | nil => simp
  | cons first rest induction =>
      obtain ⟨fresh, others⟩ := List.nodup_cons.mp apart
      intro entry member
      rw [List.foldl_cons]
      rcases List.mem_cons.mp member with rfl | later
      · rw [deposits_elsewhere, deposit_document, if_pos rfl]
        intro other inside same
        exact fresh (List.mem_map.mpr
          ⟨other, inside, (place_injective workspace folder same).symm⟩)
      · exact induction others entry later

end Deposits

section Outcomes

open Console

/-- The exit code is one if an error is reported, and zero otherwise. -/
structure Outcome.Tells (outcome : Outcome) (result : GenerationResult) : Prop where
  one : outcome.exitCode = 1 ↔ ∃ diagnostic ∈ result.diagnostics, diagnostic.severity = .error
  most : outcome.exitCode ≤ 1

/-- A run that comes to nothing: it fails, shows no source and changes nothing. -/
structure Outcome.Fruitless (outcome : Outcome) (before : Workspace) (log told : List Printed) :
    Prop where
  code : outcome.exitCode = 1
  output : outcome.output = log
  errors : outcome.errors = told
  unchanged : outcome.workspace = before

def printEntry (entry : String × String) : List Printed :=
  printText ("// ----- " ++ entry.1 ++ "\n") ++ printText entry.2

structure Outcome.PrintsAll (outcome : Outcome) (before : Workspace) (log : List Printed)
    (result : GenerationResult) (texts : List (String × String)) : Prop where
  code : outcome.Tells result
  output : outcome.output = log ++ texts.flatMap printEntry
  unchanged : outcome.workspace = before

/-- A run that writes every source into its own document in a folder and changes nothing else,
but that the folders on the way to the folder are there. -/
structure Outcome.WritesAll (outcome : Outcome) (before : Workspace) (folder : Path)
    (log : List Printed) (result : GenerationResult) (texts : List (String × String)) : Prop where
  code : outcome.Tells result
  output : outcome.output = log
  apart : (texts.map fun entry => placeOf before folder entry.1).Nodup
  there : ∀ entry ∈ texts,
    outcome.workspace.document? (placeOf before folder entry.1) = some (Text.Utf8.encode entry.2)
  elsewhere : ∀ names ∉ texts.map fun entry => placeOf before folder entry.1,
    outcome.workspace.document? names = before.document? names
  folders : ∀ names, outcome.workspace.isFolder names = true ↔
    before.isFolder names = true ∨ names ∈ before.passed folder

/-- What a run delivers of what was generated from a workspace, which is what there is before
anything is written. Sources are delivered as texts, so all of them have to be texts. -/
structure AllOrNothing (workspace : Workspace) (paths : List Path) (folder? : Option Path)
    (log : List Printed) (generated : Except Fault GenerationResult) (outcome : Outcome) :
    Prop where
  unreadable : (∃ path ∈ paths, workspace.Unreadable path) → ∃ fault, generated = .error fault
  unusable : (∃ path ∈ folder?.toList ++ paths, path.holdsNull = true) →
    outcome.Fruitless workspace [] []
  faults : (∀ path ∈ folder?.toList ++ paths, path.holdsNull = false) →
    ∀ fault, generated = .error fault → outcome.Fruitless workspace log (printFault fault)
  prints : (∀ path ∈ folder?.toList ++ paths, path.holdsNull = false) →
    ∀ result texts, generated = .ok result → result.fragments = asSources texts →
      folder? = none → outcome.PrintsAll workspace log result texts
  writes : (∀ path ∈ folder?.toList ++ paths, path.holdsNull = false) →
    ∀ result texts, generated = .ok result → result.fragments = asSources texts →
      ∀ folder, folder? = some folder → (∀ key ∈ result.keys, '/' ∉ key.toList) →
        Usable workspace folder result.keys →
          outcome.WritesAll workspace folder log result texts
  refuses : (∀ path ∈ folder?.toList ++ paths, path.holdsNull = false) →
    ∀ result, generated = .ok result → ∀ folder, folder? = some folder →
      (∀ key ∈ result.keys, '/' ∉ key.toList) → ¬ Usable workspace folder result.keys →
        outcome.exitCode = 1
  unencoded : (∀ path ∈ folder?.toList ++ paths, path.holdsNull = false) →
    ∀ result, generated = .ok result → (∀ texts, result.fragments ≠ asSources texts) →
      outcome.exitCode = 1 ∧ (folder? = none → outcome.workspace = workspace)

theorem has_errors_iff (result : GenerationResult) :
    result.hasErrors = true ↔
      ∃ diagnostic ∈ result.diagnostics, diagnostic.severity = .error := by
  simp [GenerationResult.hasErrors]

theorem tells_of_code {outcome : Outcome} {result : GenerationResult}
    (code : outcome.exitCode = if result.hasErrors then 1 else 0) : outcome.Tells result := by
  constructor
  · rw [code, ← has_errors_iff]
    cases result.hasErrors <;> simp
  · rw [code]
    cases result.hasErrors <;> simp

/-- Sources are texts unless one of them is none. -/
theorem as_sources_or (fragments : List (String × Points)) :
    (∃ texts, fragments = asSources texts) ∨ ∃ fragment ∈ fragments, fragment.2.text? = none := by
  induction fragments with
  | nil => exact .inl ⟨[], rfl⟩
  | cons fragment rest induction =>
      cases encoded : fragment.2.text? with
      | none => exact .inr ⟨fragment, List.mem_cons_self, encoded⟩
      | some text =>
          rcases induction with ⟨texts, rfl⟩ | ⟨other, member, isNone⟩
          · refine .inl ⟨(fragment.1, text) :: texts, ?_⟩
            rw [asSources, asSources, List.map_cons, ← Points.text_iff.mp encoded]
          · exact .inr ⟨other, List.mem_cons_of_mem _ member, isNone⟩

theorem as_sources_iff {fragments : List (String × Points)} :
    (∃ texts, fragments = asSources texts) ↔
      ∀ fragment ∈ fragments, ∀ index, .surrogate index ∉ fragment.2 := by
  constructor
  · rintro ⟨texts, rfl⟩ fragment member
    obtain ⟨entry, -, rfl⟩ := List.mem_map.mp member
    simp
  · intro clean
    refine (as_sources_or fragments).resolve_right ?_
    rintro ⟨fragment, member, unencoded⟩
    obtain ⟨index, inside⟩ := Points.text_none_iff.mp unencoded
    exact clean fragment member index inside

theorem print_fragments_eq (texts : List (String × String)) :
    printFragments (asSources texts) = (texts.flatMap printEntry, true) := by
  induction texts with
  | nil => rfl
  | cons entry rest induction =>
      rw [asSources, List.map_cons, ← asSources, printFragments]
      simp [induction, printEntry]

theorem print_fragments_unencoded {fragments : List (String × Points)}
    (unencoded : ∃ fragment ∈ fragments, fragment.2.text? = none) :
    (printFragments fragments).2 = false := by
  induction fragments with
  | nil => simp at unencoded
  | cons fragment rest induction =>
      rw [printFragments]
      cases encoded : fragment.2.text? with
      | none => rfl
      | some text =>
          obtain ⟨other, member, isNone⟩ := unencoded
          rcases List.mem_cons.mp member with rfl | behind
          · cases encoded.symm.trans isNone
          · exact induction ⟨other, behind, isNone⟩

theorem deliver_prints {workspace : Workspace} {result : GenerationResult}
    {texts : List (String × String)} (encoded : result.fragments = asSources texts)
    (log diagnostics : List Printed) :
    (deliver workspace none result log diagnostics).PrintsAll workspace log result texts := by
  have delivered : deliver workspace none result log diagnostics =
      { exitCode := if result.hasErrors then 1 else 0
        output := log ++ texts.flatMap printEntry
        errors := diagnostics
        workspace } := by
    unfold deliver
    simp only [encoded, print_fragments_eq, if_true]
  rw [delivered]
  exact ⟨tells_of_code rfl, rfl, rfl⟩

theorem keys_of_texts {result : GenerationResult} {texts : List (String × String)}
    (encoded : result.fragments = asSources texts) : result.keys = texts.map (·.1) := by
  unfold GenerationResult.keys
  rw [encoded, asSources, List.map_map]
  rfl

theorem deliver_writes {workspace : Workspace} {folder : Path} {result : GenerationResult}
    {texts : List (String × String)} (encoded : result.fragments = asSources texts)
    (distinct : result.keys.Nodup) (plain : ∀ key ∈ result.keys, '/' ∉ key.toList)
    (usable : Usable workspace folder result.keys) (log diagnostics : List Printed) :
    (deliver workspace (some folder) result log diagnostics).WritesAll workspace folder log
      result texts := by
  obtain ⟨ready, made, takes⟩ := usable
  obtain ⟨-, documents, folders⟩ := Workspace.make_folder_shows made
  have keeps := keeps_made made
  rw [keys_of_texts encoded] at distinct plain takes
  have written := write_fragments_eq made keeps
    (fun entry member => plain _ (List.mem_map_of_mem member))
    (fun entry member => takes _ (List.mem_map_of_mem member))
  have delivered : deliver workspace (some folder) result log diagnostics =
      { exitCode := if result.hasErrors then 1 else 0
        output := log
        errors := diagnostics ++ texts.flatMap fun entry =>
          printWritten (targetOf folder entry.1)
        workspace := texts.foldl (deposit workspace folder) ready } := by
    unfold deliver
    simp only [made, encoded, written, if_true]
  rw [delivered]
  exact
    { code := tells_of_code rfl
      output := rfl
      apart := by
        have places := distinct.map (place_injective workspace folder)
        rwa [List.map_map] at places
      there := deposits_there distinct
      elsewhere := by
        intro names elsewhere
        rw [← documents]
        apply deposits_elsewhere
        rintro entry member rfl
        exact elsewhere (List.mem_map_of_mem member)
      folders := by
        intro names
        rw [deposits_folders keeps, folders] }

theorem deliver_refuses {workspace : Workspace} {folder : Path} {result : GenerationResult}
    (plain : ∀ key ∈ result.keys, '/' ∉ key.toList)
    (unusable : ¬ Usable workspace folder result.keys) (log diagnostics : List Printed) :
    (deliver workspace (some folder) result log diagnostics).exitCode = 1 := by
  obtain ⟨ready, isMade, made⟩ : ∃ ready isMade, workspace.makeFolder folder = (ready, isMade) :=
    ⟨_, _, rfl⟩
  cases isMade with
  | false => simp only [deliver, made]
  | true =>
      have refused : ∃ fragment ∈ result.fragments, ¬ ready.Takes folder (fileName fragment.1) := by
        by_contra none
        apply unusable
        refine ⟨ready, made, fun key member => ?_⟩
        obtain ⟨fragment, inside, rfl⟩ := List.mem_map.mp member
        by_contra refusal
        exact none ⟨fragment, inside, refusal⟩
      have ended := write_fragments_refused made (keeps_made made)
        (fun fragment member => plain _ (List.mem_map_of_mem member)) refused
      simp only [deliver, made, ended, Bool.false_eq_true, if_false]

theorem deliver_unencoded {workspace : Workspace} {result : GenerationResult}
    (unencoded : ∃ fragment ∈ result.fragments, fragment.2.text? = none) (folder? : Option Path)
    (log diagnostics : List Printed) :
    (deliver workspace folder? result log diagnostics).exitCode = 1 := by
  cases folder? with
  | none =>
      have ended := print_fragments_unencoded unencoded
      simp only [deliver, ended, Bool.false_eq_true, if_false]
  | some folder =>
      obtain ⟨ready, isMade, made⟩ : ∃ ready isMade, workspace.makeFolder folder = (ready, isMade) :=
        ⟨_, _, rfl⟩
      cases isMade with
      | false => simp only [deliver, made]
      | true =>
          have ended : (writeFragments folder ready result.fragments).2.2 = false :=
            write_fragments_unencoded unencoded
          simp only [deliver, made, ended, Bool.false_eq_true, if_false]

theorem generate_unreadable {workspace : Workspace} {parse : Parser} {renderer : Renderer}
    {paths : List Path} {options : Options}
    (unreadable : ∃ path ∈ paths, workspace.Unreadable path) :
    ∃ fault, (workspace.generate parse renderer paths options).outcome = .error fault := by
  obtain ⟨path, member, notRead⟩ := unreadable
  cases ran : (workspace.generate parse renderer paths options).outcome with
  | error fault => exact ⟨fault, rfl⟩
  | ok result =>
      obtain ⟨sources, read, -⟩ := Logged.bind_returns.mp ran
      exact absurd notRead (Workspace.read_sources_returns read path member)

section Asked

variable {context : Context} {arguments : List String} {isVerbose : Bool} {paths : List Path}
  {folder? : Option Path} {overrides : Options.Overrides}
  (asked : request arguments = .run isVerbose (.generate paths folder? overrides))

include asked

theorem run_generate_null (null : ∃ path ∈ folder?.toList ++ paths, path.holdsNull = true) :
    run context arguments =
      { exitCode := 1, output := [], errors := [], workspace := context.workspace } := by
  have some : (folder?.toList ++ paths).any Path.holdsNull = true := List.any_eq_true.mpr null
  unfold run
  rw [asked]
  exact if_pos some

variable (clean : ∀ path ∈ folder?.toList ++ paths, path.holdsNull = false)

include clean

theorem run_generate_eq :
    run context arguments = runGenerate context isVerbose paths folder? overrides := by
  have none : ¬ (folder?.toList ++ paths).any Path.holdsNull = true := by
    intro null
    obtain ⟨path, member, holds⟩ := List.any_eq_true.mp null
    simp [clean path member] at holds
  unfold run
  rw [asked]
  exact if_neg none

theorem run_delivers {result : GenerationResult}
    (returned : (context.workspace.generate context.parse context.renderer paths
      (Options.load context.environment overrides)).outcome = .ok result) :
    run context arguments =
      deliver context.workspace folder? result
        (logEvents (leastLevel isVerbose) (context.workspace.generate context.parse
          context.renderer paths (Options.load context.environment overrides)).events)
        (result.diagnostics.flatMap printDiagnostic) := by
  rw [run_generate_eq asked clean]
  unfold runGenerate
  simp only [returned]

end Asked

/-- A run of the generating command is all or nothing. -/
theorem generate_all_or_nothing (context : Context) {arguments : List String} {isVerbose : Bool}
    {paths : List Path} {folder? : Option Path} {overrides : Options.Overrides}
    (asked : request arguments = .run isVerbose (.generate paths folder? overrides)) :
    let generated := context.workspace.generate context.parse context.renderer paths
      (Options.load context.environment overrides)
    AllOrNothing context.workspace paths folder?
      (logEvents (leastLevel isVerbose) generated.events) generated.outcome
      (run context arguments) := by
  intro generated
  refine
    { unreadable := generate_unreadable
      unusable := ?unusable
      faults := ?faults
      prints := ?prints
      writes := ?writes
      refuses := ?refuses
      unencoded := ?unencoded }
  case unusable =>
    intro null
    rw [run_generate_null asked null]
    exact ⟨rfl, rfl, rfl, rfl⟩
  case faults =>
    intro clean fault failed
    rw [run_generate_eq asked clean]
    unfold runGenerate
    simp only [generated] at failed
    simp only [failed]
    exact ⟨rfl, rfl, rfl, rfl⟩
  case prints =>
    rintro clean result texts returned encoded rfl
    rw [run_delivers asked clean returned]
    exact deliver_prints encoded _ _
  case writes =>
    rintro clean result texts returned encoded folder rfl plain usable
    obtain ⟨sources, -, generatedFrom⟩ := Logged.bind_returns.mp returned
    rw [run_delivers asked clean returned]
    exact deliver_writes encoded (generated_keys_nodup generatedFrom) plain usable _ _
  case refuses =>
    rintro clean result returned folder rfl plain unusable
    rw [run_delivers asked clean returned]
    exact deliver_refuses plain unusable _ _
  case unencoded =>
    intro clean result returned none
    rw [run_delivers asked clean returned]
    rcases as_sources_or result.fragments with ⟨texts, encoded⟩ | unencoded
    · exact absurd encoded (none texts)
    · refine ⟨deliver_unencoded unencoded _ _ _, ?_⟩
      rintro rfl
      rfl

end Outcomes

section Named

open Marker (branch leaf token fieldLeaf fieldBranch)

def namedClass : Source :=
  { path := "A.cs"
    bytes := Text.Utf8.encode "class N \x7b [AutoNotify.NotifiableProperty] int _a; \x7d"
    root :=
      branch "compilation_unit" 0 51 [
        branch "class_declaration" 0 51 [
          token "class" 0 5,
          fieldLeaf "identifier" "name" 6 7,
          fieldBranch "declaration_list" "body" 8 51 [
            token "\x7b" 8 9,
            branch "field_declaration" 10 49 [
              branch "attribute_list" 10 41 [
                token "[" 10 11,
                branch "attribute" 11 40 [
                  fieldBranch "qualified_name" "name" 11 40 [
                    fieldLeaf "identifier" "qualifier" 11 21,
                    token "." 21 22,
                    fieldLeaf "identifier" "name" 22 40]],
                token "]" 40 41],
              branch "variable_declaration" 42 48 [
                fieldLeaf "predefined_type" "type" 42 45,
                branch "variable_declarator" 46 48 [fieldLeaf "identifier" "name" 46 48]],
              token ";" 48 49],
            token "\x7d" 50 51]]] }

def surrogateClass : Source :=
  { beyondUnicode with
    path := "A.cs"
    bytes := Text.Utf8.encode ("class X \x7b [AutoNotify.NotifiableProperty(PropertyName = "
      ++ "\"\\U0000D800\")] int _a; \x7d") }

def sourceContext (source : Source) (others : List (List String × List UInt8)) : Context :=
  { environment := fun _ => none
    workspace :=
      { here := ["home", "reader"]
        folders := []
        documents := (["home", "reader", "A.cs"], source.bytes) :: others }
    parse := fun _ => source.root
    renderer := render }

theorem sole_result {source : Source} {known : KnownNames} (knows : Knows [source] known)
    (key : String) (names : List Points)
    (found : ((fieldsKnowing? known [source]).map fun found =>
      (typeGroups found.2).map fun group => (group.containing.isTopLevel,
        Publication.keyOf false group, group.members.map PropertySpec.name)) =
      some [(true, key, names)]) :
    ∃ result, (generateWith render [source] Options.standard).outcome = .ok result ∧
      result.keys = [Marker.key, key] ∧ result.hasErrors = false ∧
      ((∃ texts, result.fragments = asSources texts) ↔
        ∀ name ∈ names, ∀ index, .surrogate index ∉ name) := by
  obtain ⟨⟨bound, fields⟩, resolved, groups⟩ := Option.map_eq_some_iff.mp found
  obtain ⟨group, sole, seen⟩ := List.map_eq_singleton_iff.mp groups
  simp only [Prod.mk.injEq] at seen
  obtain ⟨topLevel, rfl, rfl⟩ := seen
  obtain ⟨-, result, generated, fragments⟩ := sole_fragment knows resolved sole topLevel
  refine ⟨result, generated, by simp [GenerationResult.keys, fragments], ?_, ?_⟩
  · apply Bool.eq_false_iff.mpr
    intro error
    obtain ⟨notification, group, reason, failed⟩ :=
      errors_are_failures generated ((has_errors_iff result).mp error)
    exact render_never_fails notification group reason failed
  · have members : (∀ name ∈ group.members.map PropertySpec.name, ∀ index, .surrogate index ∉ name) ↔
        ∀ index, ¬ ∃ spec ∈ group.members, .surrogate index ∈ spec.name := by
      simp only [List.mem_map, forall_exists_index, and_imp, forall_apply_eq_imp_iff₂, not_exists, not_and]
      exact ⟨fun clean index spec member => clean spec member index,
        fun clean spec member index => clean index spec member⟩
    rw [as_sources_iff, fragments, members]
    simp [Render.surrogate_in_fragment]

theorem named_result :
    ∃ result, (generateWith render [namedClass] Options.standard).outcome = .ok result ∧
      result.keys = ["AutoNotifyAttribute", "N_autoNotify"] ∧ result.hasErrors = false ∧
      ∃ texts, result.fragments = asSources texts := by
  have known : Knows [namedClass] (runNames ["N"] []) :=
    knows_declared [("N", "")] [] (by decide) (by decide +kernel) (by decide +kernel)
      (by decide +kernel)
  obtain ⟨result, generated, keys, noErrors, encoded⟩ :=
    sole_result known "N_autoNotify" [Points.ofText "A"] (by decide +kernel)
  exact ⟨result, generated, keys, noErrors, encoded.mpr (by simp)⟩

theorem surrogate_result :
    ∃ result, (generateWith render [surrogateClass] Options.standard).outcome = .ok result ∧
      result.keys = ["AutoNotifyAttribute", "X_autoNotify"] ∧ result.hasErrors = false ∧
      ∀ texts, result.fragments ≠ asSources texts := by
  have known : Knows [surrogateClass] (runNames ["X"] []) := knows_sole (by decide +kernel)
  obtain ⟨result, generated, keys, noErrors, encoded⟩ :=
    sole_result known "X_autoNotify" [[.surrogate 0]] (by decide +kernel)
  refine ⟨result, generated, keys, noErrors, fun texts same => ?_⟩
  exact encoded.mp ⟨texts, same⟩ _ (List.mem_singleton_self _) 0 (List.mem_singleton_self _)

theorem source_generated {source : Source} {result : GenerationResult}
    (others : List (List String × List UInt8))
    (read : (sourceContext source others).workspace.readSources (sourceContext source others).parse
      [Path.ofText "A.cs"] = .ok [source])
    (generated : (generateWith render [source] Options.standard).outcome = .ok result) :
    ((sourceContext source others).workspace.generate (sourceContext source others).parse render
      [Path.ofText "A.cs"] Options.standard).outcome = .ok result :=
  Logged.bind_returns.mpr ⟨_, read, generated⟩

def askedInto (folder : String) : List String := ["generate", "--out", folder, "A.cs"]

def plainOverrides : Options.Overrides := { qualifiedKeys? := none, extraReferences? := none }

/-- Into a folder that is named from the root of all files and has to be made there. -/
theorem generate_all_or_nothing_absolute :
    request (askedInto "/srv/gen") =
        .run false (.generate [Path.ofText "A.cs"] (some (Path.ofText "/srv/gen")) plainOverrides) ∧
      ∃ log result texts, result.fragments = asSources texts ∧
        texts.map (·.1) = ["AutoNotifyAttribute", "N_autoNotify"] ∧
        (run (sourceContext namedClass []) (askedInto "/srv/gen")).WritesAll
          (sourceContext namedClass []).workspace (Path.ofText "/srv/gen") log result texts ∧
        placeOf (sourceContext namedClass []).workspace (Path.ofText "/srv/gen") "N_autoNotify" =
          ["srv", "gen", "N_autoNotify.g.cs"] ∧
        (run (sourceContext namedClass []) (askedInto "/srv/gen")).exitCode = 0 := by
  have asked : request (askedInto "/srv/gen") =
      .run false (.generate [Path.ofText "A.cs"] (some (Path.ofText "/srv/gen")) plainOverrides) := by
    decide
  obtain ⟨result, returned, keys, noErrors, texts, encoded⟩ := named_result
  have usable : Usable (sourceContext namedClass []).workspace (Path.ofText "/srv/gen")
      result.keys := by
    rw [keys]
    exact ⟨{ (sourceContext namedClass []).workspace with
      folders := [["srv"], ["srv", "gen"]] }, rfl, by decide⟩
  have wrote := (generate_all_or_nothing (sourceContext namedClass []) asked).writes (by decide)
    result texts (source_generated [] rfl returned) encoded _ rfl (by rw [keys]; decide) usable
  have succeeds : (run (sourceContext namedClass []) (askedInto "/srv/gen")).exitCode ≠ 1 := by
    rw [ne_eq, wrote.code.one, ← has_errors_iff, noErrors]
    exact Bool.false_ne_true
  have most := wrote.code.most
  exact ⟨asked, _, result, texts, encoded, (keys_of_texts encoded).symm.trans keys, wrote,
    by decide, by omega⟩

def occupied : Context :=
  sourceContext namedClass [(["home", "reader", "out", "N_autoNotify.g.cs", "keep.txt"], [])]

theorem occupied_unusable :
    ¬ Usable occupied.workspace (Path.ofText "out") ["AutoNotifyAttribute", "N_autoNotify"] := by
  rintro ⟨ready, made, takes⟩
  obtain ⟨here, -, folders⟩ := Workspace.make_folder_shows made
  have there : ready.isFolder ["home", "reader", "out", "N_autoNotify.g.cs"] = true :=
    (folders _).mpr (.inl (by decide))
  have free := (takes "N_autoNotify" (by simp)).free
  rw [Workspace.locate_same here] at free
  exact absurd (there.symm.trans free) Bool.noConfusion

theorem asked_out : request (askedInto "out") =
    .run false (.generate [Path.ofText "A.cs"] (some (Path.ofText "out")) plainOverrides) := by
  decide

theorem clean_out : ∀ path ∈ (some (Path.ofText "out")).toList ++ [Path.ofText "A.cs"],
    path.holdsNull = false := by
  decide

theorem occupied_fails :
    ∃ result, (occupied.workspace.generate occupied.parse render [Path.ofText "A.cs"]
        Options.standard).outcome = .ok result ∧ result.hasErrors = false ∧
      (occupied.workspace.makeFolder (Path.ofText "out")).2 = true ∧
      (run occupied (askedInto "out")).exitCode = 1 := by
  obtain ⟨result, returned, keys, noErrors, -⟩ := named_result
  have generated := source_generated
    [(["home", "reader", "out", "N_autoNotify.g.cs", "keep.txt"], [])] rfl returned
  have delivered : run occupied (askedInto "out") = _ := run_delivers asked_out clean_out generated
  refine ⟨result, generated, noErrors, by decide, ?_⟩
  rw [delivered]
  apply deliver_refuses
  · rw [keys]
    decide
  · rw [keys]
    exact occupied_unusable

theorem surrogate_fails :
    ∃ result, ((sourceContext surrogateClass []).workspace.generate
        (sourceContext surrogateClass []).parse render [Path.ofText "A.cs"]
        Options.standard).outcome = .ok result ∧ result.hasErrors = false ∧
      Usable (sourceContext surrogateClass []).workspace (Path.ofText "out") result.keys ∧
      (run (sourceContext surrogateClass []) (askedInto "out")).exitCode = 1 := by
  obtain ⟨result, returned, keys, noErrors, noTexts⟩ := surrogate_result
  have generated := source_generated [] rfl returned
  have delivered : run (sourceContext surrogateClass []) (askedInto "out") = _ :=
    run_delivers asked_out clean_out generated
  have unencoded := (as_sources_or result.fragments).resolve_left fun encoded =>
    encoded.elim noTexts
  refine ⟨result, generated, noErrors, ?usable, ?fails⟩
  case usable =>
    rw [keys]
    exact ⟨{ (sourceContext surrogateClass []).workspace with
      folders := [["home", "reader", "out"]] }, rfl, by decide⟩
  case fails =>
    rw [delivered]
    exact deliver_unencoded unencoded _ _ _

theorem folder_above_made :
    (run (sourceContext namedClass []) (askedInto "../a/b")).workspace.isFolder ["home", "a"] =
      true := by
  have asked : request (askedInto "../a/b") =
      .run false (.generate [Path.ofText "A.cs"] (some (Path.ofText "../a/b")) plainOverrides) := by
    decide
  have clean : ∀ path ∈ (some (Path.ofText "../a/b")).toList ++ [Path.ofText "A.cs"],
      path.holdsNull = false := by
    decide
  obtain ⟨result, returned, keys, -, texts, encoded⟩ := named_result
  have generated := source_generated [] rfl returned
  have delivered : run (sourceContext namedClass []) (askedInto "../a/b") = _ :=
    run_delivers asked clean generated
  have usable : Usable (sourceContext namedClass []).workspace (Path.ofText "../a/b")
      result.keys := by
    rw [keys]
    exact ⟨{ (sourceContext namedClass []).workspace with
      folders := [["home", "a"], ["home", "a", "b"]] }, rfl, by decide⟩
  have distinct : result.keys.Nodup := by
    rw [keys]
    decide
  have plain : ∀ key ∈ result.keys, '/' ∉ key.toList := by
    rw [keys]
    decide
  rw [delivered]
  exact ((deliver_writes encoded distinct plain usable _ _).folders ["home", "a"]).mpr
    (.inr (by decide))

/-- The run fails, though it reports no error, where the folder can be made and does not take every
source, and where a source is no text. And a folder is made together with the folders on the way to
it. -/
theorem delivery_incomplete :
    (∃ result, (occupied.workspace.generate occupied.parse render [Path.ofText "A.cs"]
          Options.standard).outcome = .ok result ∧ result.hasErrors = false ∧
        (occupied.workspace.makeFolder (Path.ofText "out")).2 = true ∧
        (run occupied (askedInto "out")).exitCode = 1) ∧
      (∃ result, ((sourceContext surrogateClass []).workspace.generate
          (sourceContext surrogateClass []).parse render [Path.ofText "A.cs"]
          Options.standard).outcome = .ok result ∧ result.hasErrors = false ∧
        Usable (sourceContext surrogateClass []).workspace (Path.ofText "out") result.keys ∧
        (run (sourceContext surrogateClass []) (askedInto "out")).exitCode = 1) ∧
      (sourceContext namedClass []).workspace.locate (Path.ofText "../a/b") = ["home", "a", "b"] ∧
      (sourceContext namedClass []).workspace.isFolder ["home", "a"] = false ∧
      (run (sourceContext namedClass []) (askedInto "../a/b")).workspace.isFolder ["home", "a"] =
        true :=
  ⟨occupied_fails, surrogate_fails, by decide, by decide, folder_above_made⟩

end Named

end CommandLine

end PropertyGen
