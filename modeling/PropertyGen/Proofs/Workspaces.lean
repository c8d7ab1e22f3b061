import Mathlib.Data.List.Infix
import Mathlib.Data.List.Basic
import PropertyGen.Files.Workspace

/-!
What a workspace shows after folders are made and documents are written: the documents, each by
the names that lead to it, and the folders. A document that is put somewhere changes what is
there and nothing else; folders are made where a path passes and nowhere else.
-/

namespace PropertyGen

namespace Path

def document (folder : Path) (name : String) : Path :=
  { folder with names := folder.names ++ [name] }

end Path

namespace Workspace

/-- The folders that a path passes, from the one where it begins to the one where it ends. -/
def passed (workspace : Workspace) (path : Path) : List (List String) :=
  path.names.scanl Path.step (workspace.start path)

variable {workspace ready later : Workspace}

section Documents

abbrev replaced (names : List String) (bytes : List UInt8)
    (documents : List (List String × List UInt8)) : List (List String × List UInt8) :=
  documents.map fun entry => if entry.1 = names then (names, bytes) else entry

theorem put_cases (workspace : Workspace) (names : List String) (bytes : List UInt8) :
    ((∃ entry ∈ workspace.documents, entry.1 = names) ∧
        workspace.putDocument names bytes =
          { workspace with documents := replaced names bytes workspace.documents }) ∨
      ((∀ entry ∈ workspace.documents, entry.1 ≠ names) ∧
        workspace.putDocument names bytes =
          { workspace with documents := workspace.documents ++ [(names, bytes)] }) := by
  by_cases there : workspace.documents.any (fun entry => entry.1 = names) = true
  · exact .inl ⟨by simpa using there, by simp only [putDocument, if_pos there]⟩
  · refine .inr ⟨?_, by simp only [putDocument, if_neg there]⟩
    intro entry member same
    exact there (List.any_eq_true.mpr ⟨entry, member, by simpa using same⟩)

theorem find_replaced {names other : List String} (apart : other ≠ names) (bytes : List UInt8)
    (documents : List (List String × List UInt8)) :
    (replaced names bytes documents).find? (fun entry => entry.1 = other) =
      documents.find? fun entry => entry.1 = other := by
  induction documents with
  | nil => rfl
  | cons entry rest induction =>
      rw [replaced, List.map_cons]
      by_cases own : entry.1 = names
      · have differs : entry.1 ≠ other := fun same => apart (same ▸ own)
        rw [if_pos own, List.find?_cons_of_neg (by simpa using apart.symm),
          List.find?_cons_of_neg (by simpa using differs)]
        exact induction
      · rw [if_neg own, List.find?_cons, List.find?_cons, induction]

theorem find_replaced_self {names : List String} (bytes : List UInt8)
    {documents : List (List String × List UInt8)} (there : ∃ entry ∈ documents, entry.1 = names) :
    (replaced names bytes documents).find? (fun entry => entry.1 = names) =
      some (names, bytes) := by
  induction documents with
  | nil => simp at there
  | cons entry rest induction =>
      rw [replaced, List.map_cons]
      by_cases own : entry.1 = names
      · rw [if_pos own, List.find?_cons_of_pos (by simp)]
      · have later : ∃ entry ∈ rest, entry.1 = names := by simpa [own] using there
        rw [if_neg own, List.find?_cons_of_neg (by simpa using own)]
        exact induction later

theorem document_put (workspace : Workspace) (names other : List String) (bytes : List UInt8) :
    (workspace.putDocument names bytes).document? other =
      if other = names then some bytes else workspace.document? other := by
  rcases put_cases workspace names bytes with ⟨there, put⟩ | ⟨absent, put⟩
  · rw [put]
    unfold document?
    by_cases same : other = names
    · simp only [same, if_true, find_replaced_self bytes there, Option.map_some]
    · simp only [if_neg same, find_replaced same]
  · rw [put]
    unfold document?
    by_cases same : other = names
    · have none : workspace.documents.find? (fun entry => entry.1 = names) = none := by
        simpa using absent
      simp [same, none]
    · simp [same, Ne.symm same]

theorem here_put (workspace : Workspace) (names : List String) (bytes : List UInt8) :
    (workspace.putDocument names bytes).here = workspace.here := by
  rcases put_cases workspace names bytes with ⟨-, put⟩ | ⟨-, put⟩ <;> rw [put]

end Documents

section Folders

theorem is_folder_iff {names : List String} :
    workspace.isFolder names = true ↔
      names <+: workspace.here ∨ (∃ folder ∈ workspace.folders, names <+: folder) ∨
        ∃ entry ∈ workspace.documents, names <+: entry.1 ∧ names ≠ entry.1 := by
  simp [isFolder, or_assoc]

theorem is_folder_above {names above : List String} (inside : workspace.isFolder names = true)
    (around : above <+: names) : workspace.isFolder above = true := by
  rw [is_folder_iff] at inside ⊢
  rcases inside with reader | ⟨folder, member, behind⟩ | ⟨entry, member, behind, inner⟩
  · exact .inl (around.trans reader)
  · exact .inr (.inl ⟨folder, member, around.trans behind⟩)
  · refine .inr (.inr ⟨entry, member, around.trans behind, ?_⟩)
    rintro rfl
    exact inner (behind.eq_of_length_le around.length_le)

theorem is_folder_start (workspace : Workspace) (path : Path) :
    workspace.isFolder (workspace.start path) = true := by
  rw [is_folder_iff, start]
  split
  · exact .inl List.prefix_rfl
  · exact .inl List.nil_prefix

theorem is_folder_add {names other : List String} :
    (workspace.addFolder names).isFolder other = true ↔
      workspace.isFolder other = true ∨ other <+: names := by
  simp only [is_folder_iff, addFolder, List.mem_append, List.mem_singleton, or_and_right,
    exists_or, exists_eq_left]
  constructor
  · rintro (reader | (made | added) | below)
    · exact .inl (.inl reader)
    · exact .inl (.inr (.inl made))
    · exact .inr added
    · exact .inl (.inr (.inr below))
  · rintro ((reader | made | below) | added)
    · exact .inl reader
    · exact .inr (.inl (.inl made))
    · exact .inr (.inr below)
    · exact .inr (.inl (.inr added))

theorem below_replaced (names : List String) (bytes : List UInt8) (other : List String)
    (documents : List (List String × List UInt8)) :
    (∃ entry ∈ replaced names bytes documents, other <+: entry.1 ∧ other ≠ entry.1) ↔
      ∃ entry ∈ documents, other <+: entry.1 ∧ other ≠ entry.1 := by
  have kept (entry : List String × List UInt8) :
      (if entry.1 = names then (names, bytes) else entry).1 = entry.1 := by
    split
    · next same => exact same.symm
    · rfl
  simp only [replaced, List.mem_map, exists_exists_and_eq_and, kept]

/-- A document in a folder makes no folder. -/
theorem is_folder_put {folder : List String} (inside : workspace.isFolder folder = true)
    (name : String) (bytes : List UInt8) (other : List String) :
    (workspace.putDocument (folder ++ [name]) bytes).isFolder other = true ↔
      workspace.isFolder other = true := by
  rcases put_cases workspace (folder ++ [name]) bytes with ⟨-, put⟩ | ⟨-, put⟩
  · simp only [put, is_folder_iff, below_replaced]
  · constructor
    · intro now
      rw [put, is_folder_iff] at now
      rcases now with reader | made | ⟨entry, member, around, inner⟩
      · exact is_folder_iff.mpr (.inl reader)
      · exact is_folder_iff.mpr (.inr (.inl made))
      · rcases List.mem_append.mp member with earlier | last
        · exact is_folder_iff.mpr (.inr (.inr ⟨entry, earlier, around, inner⟩))
        · rw [List.mem_singleton.mp last] at around inner
          exact is_folder_above inside ((List.prefix_concat_iff.mp around).resolve_left inner)
    · intro before
      rw [put, is_folder_iff]
      rcases is_folder_iff.mp before with reader | made | ⟨entry, member, around, inner⟩
      · exact .inl reader
      · exact .inr (.inl made)
      · exact .inr (.inr ⟨entry, List.mem_append_left _ member, around, inner⟩)

end Folders

section Making

open PropertyGen.Path (step)

theorem start_passed (folder names : List String) : folder ∈ names.scanl step folder := by
  cases names with
  | nil => simp
  | cons name rest => simp

theorem passed_from {folder : List String} (inside : workspace.isFolder folder = true)
    (name : String) (rest other : List String) :
    (workspace.isFolder other = true ∨ other ∈ (name :: rest).scanl step folder) ↔
      workspace.isFolder other = true ∨ other ∈ rest.scanl step (step folder name) := by
  rw [List.scanl_cons, List.mem_cons]
  constructor
  · rintro (known | rfl | later)
    · exact .inl known
    · exact .inl inside
    · exact .inr later
  · rintro (known | later)
    · exact .inl known
    · exact .inr (.inr later)

/-- Folders are made where the names pass, and nothing else changes. -/
theorem make_from_shows {folder names : List String}
    (made : workspace.makeFrom folder names = (ready, true))
    (inside : workspace.isFolder folder = true) :
    ready.here = workspace.here ∧ ready.documents = workspace.documents ∧
      ∀ other, ready.isFolder other = true ↔
        workspace.isFolder other = true ∨ other ∈ names.scanl step folder := by
  fun_induction makeFrom workspace folder names with
  | case1 workspace folder =>
      obtain ⟨rfl, -⟩ := Prod.mk.inj made
      refine ⟨rfl, rfl, fun other => ?_⟩
      simp only [List.scanl_nil, List.mem_singleton, iff_self_or]
      exact fun same => same ▸ inside
  | case2 workspace folder rest induction =>
      obtain ⟨reader, documents, folders⟩ :=
        induction made (is_folder_above inside (List.dropLast_prefix folder))
      refine ⟨reader, documents, fun other => ?_⟩
      rw [folders, passed_from inside, step, if_pos rfl]
  | case3 => cases (Prod.mk.inj made).2
  | case4 workspace folder name rest forward short next there induction =>
      obtain ⟨reader, documents, folders⟩ := induction made there
      refine ⟨reader, documents, fun other => ?_⟩
      rw [folders, passed_from inside, step, if_neg forward]
  | case5 => cases (Prod.mk.inj made).2
  | case6 workspace folder name rest forward short next absent free induction =>
      obtain ⟨reader, documents, folders⟩ :=
        induction made (is_folder_add.mpr (.inr List.prefix_rfl))
      refine ⟨reader, documents, fun other => ?_⟩
      rw [folders, passed_from inside, step, if_neg forward, is_folder_add]
      constructor
      · rintro ((known | around) | later)
        · exact .inl known
        · rcases List.prefix_concat_iff.mp around with rfl | above
          · exact .inr (start_passed _ rest)
          · exact .inl (is_folder_above inside above)
        · exact .inr later
      · rintro (known | later)
        · exact .inl (.inl known)
        · exact .inr later

theorem follow_into {folder : List String} {name : String} (forward : name ≠ "..")
    (short : ¬ name.utf8ByteSize > nameLimit)
    (there : workspace.isFolder (folder ++ [name]) = true) (rest : List String) :
    workspace.follow folder (name :: rest) = workspace.follow (folder ++ [name]) rest := by
  rw [follow, if_neg forward, if_neg short, if_pos there]

/-- Names are followed as folders were made. -/
theorem follow_made {folder names : List String}
    (made : workspace.makeFrom folder names = (ready, true))
    (there : ∀ other ∈ names.scanl step folder, later.isFolder other = true)
    (rest : List String) :
    later.follow folder (names ++ rest) = later.follow (names.foldl step folder) rest := by
  fun_induction makeFrom workspace folder names with
  | case1 => rfl
  | case2 workspace folder names induction =>
      rw [List.scanl_cons, step, if_pos rfl] at there
      rw [List.cons_append, follow, if_pos rfl, induction made (List.forall_mem_cons.mp there).2,
        List.foldl_cons, step, if_pos rfl]
  | case3 => cases (Prod.mk.inj made).2
  | case4 workspace folder name names forward short next known induction =>
      rw [List.scanl_cons, step, if_neg forward] at there
      have behind := (List.forall_mem_cons.mp there).2
      have found := behind next (start_passed next names)
      rw [List.cons_append, follow_into forward short found, induction made behind,
        List.foldl_cons, step, if_neg forward]
  | case5 => cases (Prod.mk.inj made).2
  | case6 workspace folder name names forward short next absent free induction =>
      rw [List.scanl_cons, step, if_neg forward] at there
      have behind := (List.forall_mem_cons.mp there).2
      have found := behind next (start_passed next names)
      rw [List.cons_append, follow_into forward short found, induction made behind,
        List.foldl_cons, step, if_neg forward]

theorem make_folder_eq {path : Path} (made : workspace.makeFolder path = (ready, true)) :
    path.holdsNull = false ∧ ¬ path.text.utf8ByteSize > pathLimit ∧
      workspace.makeFrom (workspace.start path) path.names = (ready, true) := by
  unfold makeFolder at made
  split at made
  · cases (Prod.mk.inj made).2
  · next possible =>
      simp only [Bool.or_eq_true, decide_eq_true_eq, not_or] at possible
      exact ⟨by simpa using possible.1, possible.2, made⟩

theorem make_folder_shows {path : Path} (made : workspace.makeFolder path = (ready, true)) :
    ready.here = workspace.here ∧
      (∀ names, ready.document? names = workspace.document? names) ∧
      ∀ names, ready.isFolder names = true ↔
        workspace.isFolder names = true ∨ names ∈ workspace.passed path := by
  obtain ⟨-, -, steps⟩ := make_folder_eq made
  obtain ⟨reader, documents, folders⟩ := make_from_shows steps (is_folder_start workspace path)
  refine ⟨reader, fun names => ?_, folders⟩
  rw [document?, document?, documents]

end Making

section Writing

/-- A name that a document in a folder can have: no folder has it, and neither it nor the path to
it is longer than names and paths may be. -/
structure Takes (workspace : Workspace) (folder : Path) (name : String) : Prop where
  forward : name ≠ ".."
  short : ¬ name.utf8ByteSize > nameLimit
  near : ¬ (folder.document name).text.utf8ByteSize > pathLimit
  clean : (folder.document name).holdsNull = false
  free : workspace.isFolder (workspace.locate folder ++ [name]) = false

instance (folder : Path) (name : String) : Decidable (workspace.Takes folder name) :=
  decidable_of_iff
    (name ≠ ".." ∧ ¬ name.utf8ByteSize > nameLimit ∧
      ¬ (folder.document name).text.utf8ByteSize > pathLimit ∧
      (folder.document name).holdsNull = false ∧
      workspace.isFolder (workspace.locate folder ++ [name]) = false)
    ⟨fun all => ⟨all.1, all.2.1, all.2.2.1, all.2.2.2.1, all.2.2.2.2⟩,
      fun takes => ⟨takes.forward, takes.short, takes.near, takes.clean, takes.free⟩⟩

variable {folder : Path}

theorem locate_passed (workspace : Workspace) (path : Path) :
    workspace.locate path ∈ workspace.passed path := by
  have ends : ∀ (names start : List String), names.foldl Path.step start ∈
      names.scanl Path.step start := by
    intro names
    induction names with
    | nil => simp
    | cons name names induction =>
        intro start
        rw [List.foldl_cons, List.scanl_cons]
        exact List.mem_cons_of_mem _ (induction (Path.step start name))
  exact ends path.names (workspace.start path)

theorem start_same (same : later.here = workspace.here) (path : Path) :
    later.start path = workspace.start path := by
  rw [start, start, same]

theorem locate_same (same : later.here = workspace.here) (path : Path) :
    later.locate path = workspace.locate path := by
  rw [locate, locate, start_same same]

variable (made : workspace.makeFolder folder = (ready, true))
  (same : later.here = workspace.here)
  (there : ∀ names ∈ workspace.passed folder, later.isFolder names = true)

include made same there

theorem place_made : later.place folder = .folder (later.locate folder) := by
  obtain ⟨clean, near, steps⟩ := make_folder_eq made
  have walk := follow_made steps there []
  rw [List.append_nil, follow] at walk
  rw [place, if_neg (by simp [clean]), if_neg near, start_same same, walk, locate_same same,
    locate]

theorem follow_document (name : String) :
    later.follow (later.start (folder.document name)) (folder.document name).names =
      later.follow (later.locate folder) [name] := by
  obtain ⟨-, -, steps⟩ := make_folder_eq made
  rw [start_same same, locate_same same]
  exact follow_made steps there [name]

theorem place_document {name : String} (takes : later.Takes folder name) :
    later.place (folder.document name) =
      match later.document? (later.locate folder ++ [name]) with
      | none => .missing
      | some bytes => .document (later.locate folder ++ [name]) bytes := by
  rw [place, if_neg (by simp [takes.clean]), if_neg takes.near,
    follow_document made same there, follow, if_neg takes.forward, if_neg takes.short, takes.free]
  rfl

theorem write_made {name : String} (takes : later.Takes folder name) (text : String) :
    later.write (folder.document name) text =
      some (later.putDocument (later.locate folder ++ [name]) (Text.Utf8.encode text)) := by
  have last : (folder.document name).names.getLast? = some name := List.getLast?_concat
  have parent : { folder.document name with names := (folder.document name).names.dropLast } =
      folder := by
    simp [Path.document]
  unfold write
  rw [place_document made same there takes, last]
  cases later.document? (later.locate folder ++ [name]) with
  | none => simp [parent, place_made made same there, takes.clean]
  | some bytes => rfl

theorem write_refused {name : String} (forward : name ≠ "..")
    (refused : ¬ later.Takes folder name) (text : String) :
    later.write (folder.document name) text = none := by
  have last : (folder.document name).names.getLast? = some name := List.getLast?_concat
  unfold write
  rw [last]
  cases clean : (folder.document name).holdsNull with
  | true =>
      have missing : later.place (folder.document name) = .missing := by
        simp [place, clean]
      rw [missing]
      simp only [if_true]
      split <;> rfl
  | false =>
      by_cases near : (folder.document name).text.utf8ByteSize > pathLimit
      · rw [place, if_neg (by simp [clean]), if_pos near]
      · rw [place, if_neg (by simp [clean]), if_neg near, follow_document made same there, follow,
          if_neg forward]
        by_cases short : name.utf8ByteSize > nameLimit
        · rw [if_pos short]
        · cases free : later.isFolder (later.locate folder ++ [name]) with
          | true =>
              rw [if_neg short, if_pos rfl]
              rfl
          | false => exact absurd ⟨forward, short, near, clean, free⟩ refused

end Writing

end Workspace

end PropertyGen
