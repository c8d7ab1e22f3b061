import PropertyGen.Generation.Run
import PropertyGen.Proofs.Runs
import PropertyGen.Proofs.Tables

/-!
Publication of groups that may share keys. The first group of a key that renders to a text
holds the key; what becomes of a group depends on the earlier groups of its own key alone, and
no key is ever added twice.
-/

namespace PropertyGen.Publication

def textOf : Rendering → Option Points
  | .text text => some text
  | _ => none

def keyOf (qualified : Bool) (group : TypeGroup) : String :=
  ((fragmentKey group.containing qualified).toOption).getD ""

def Readable (qualified : Bool) (group : TypeGroup) : Prop :=
  fragmentKey group.containing qualified = .ok (keyOf qualified group)

theorem readable_iff (qualified : Bool) (group : TypeGroup) :
    Readable qualified group ↔ (qualified = true → ∃ arity, group.containing.arity = .ok arity) := by
  unfold Readable keyOf fragmentKey
  cases qualified with
  | false => exact ⟨fun _ unqualified => (by cases unqualified), fun _ => rfl⟩
  | true =>
      cases group.containing.arity with
      | error fault =>
          constructor
          · intro same
            cases same
          · intro read
            obtain ⟨arity, same⟩ := read rfl
            cases same
      | ok arity => exact ⟨fun _ _ => ⟨arity, rfl⟩, fun _ => rfl⟩

theorem readable_of_arity {group : TypeGroup} {arity : Int}
    (read : group.containing.arity = .ok arity) (qualified : Bool) : Readable qualified group :=
  (readable_iff qualified group).mpr fun _ => ⟨arity, read⟩

theorem key_has_suffix {symbol : TypeSymbol} {qualified : Bool} {key : String}
    (read : fragmentKey symbol qualified = .ok key) : ∃ stem, key = stem ++ keySuffix := by
  unfold fragmentKey at read
  cases qualified with
  | false => exact ⟨symbol.name, (Except.ok.inj read).symm⟩
  | true =>
      cases arity : symbol.arity with
      | error fault =>
          rw [arity] at read
          cases read
      | ok count =>
          rw [arity] at read
          exact ⟨_, (Except.ok.inj read).symm⟩

theorem key_ne_marker {symbol : TypeSymbol} {qualified : Bool} {key : String}
    (read : fragmentKey symbol qualified = .ok key) : key ≠ Marker.key := by
  obtain ⟨stem, rfl⟩ := key_has_suffix read
  intro same
  have letters := congrArg (fun text : String => text.toList.getLast?) same
  simp [keySuffix, Marker.key] at letters

inductive Fate where
  | published (text : Points)
  | collided (holder : TypeSymbol)
  | nested
  | failed (reason : String)
deriving DecidableEq, Repr

namespace Fate

def ofRendering : Rendering → Fate
  | .text text => .published text
  | .nested => .nested
  | .failed reason => .failed reason

def text? : Fate → Option Points
  | .published text => some text
  | _ => none

def isCollided : Fate → Bool
  | .collided _ => true
  | _ => false

def reports (qualified : Bool) (group : TypeGroup) : Fate → List Diagnostic
  | .published _ => []
  | .collided holder => [collision qualified (keyOf qualified group) group.containing holder]
  | .nested =>
      [Templates.typeNotTopLevel.report group.containing.locations.head? [group.containing.display]]
  | .failed reason =>
      [Templates.generationFailed.report group.containing.locations.head?
        [group.containing.display, reason]]

def events (qualified : Bool) (group : TypeGroup) : Fate → List Event
  | .published _ => [.note (.generatedFragment (keyOf qualified group) group.members.length)]
  | .collided holder => [.report (collision qualified (keyOf qualified group) group.containing holder)]
  | .nested => Rendering.nested.events group
  | .failed reason => (Rendering.failed reason).events group

/-- What is told of a group without a fragment, at the first place of its type: the type itself,
and for a taken key the type that has it. -/
def told (qualified : Bool) (group : TypeGroup) : Fate → List Diagnostic
  | .published _ => []
  | .collided holder =>
      [Diagnostic.ofMessage "ANG004" .warning group.containing.locations.head?
        ("Generated source '" ++ keyOf qualified group ++ "' for '" ++ group.containing.display
          ++ "' collides with '" ++ holder.display ++ "'; "
          ++ (if qualified then "rename one of the types" else "enable qualified keys")
          ++ " to generate both")]
  | .nested =>
      [Diagnostic.ofMessage "ANG001" .warning group.containing.locations.head?
        ("Type '" ++ group.containing.display
          ++ "' must be declared directly in a namespace to generate notifiable properties")]
  | .failed reason =>
      [Diagnostic.ofMessage "ANG000" .error group.containing.locations.head?
        ("Generating notifiable properties for '" ++ group.containing.display ++ "' failed: "
          ++ reason)]

theorem reports_told (qualified : Bool) (group : TypeGroup) (fate : Fate) :
    fate.reports qualified group = fate.told qualified group := by
  cases fate with
  | published text => rfl
  | collided holder =>
      cases qualified <;>
        simp [reports, told, collision, collisionTemplate, Templates.duplicateKey,
          Templates.duplicateQualifiedKey, Template.report, Template.diagnostic,
          Diagnostic.ofMessage, fillAll, String.join, String.append_assoc]
  | nested =>
      simp [reports, told, Templates.typeNotTopLevel, Template.report, Template.diagnostic,
        Diagnostic.ofMessage, fillAll, String.join, String.append_assoc]
  | failed reason =>
      simp [reports, told, Templates.generationFailed, Template.report, Template.diagnostic,
        Diagnostic.ofMessage, fillAll, String.join, String.append_assoc]

theorem diagnostics_events (qualified : Bool) (group : TypeGroup) (fate : Fate) :
    diagnosticsOf (fate.events qualified group) = fate.reports qualified group := by
  cases fate <;> rfl

end Fate

variable (render : TypeGroup → Rendering) (qualified : Bool)

/-- The group that holds a key after some groups: the first one of the key with a text. -/
def holder? (groups : List TypeGroup) (key : String) : Option TypeGroup :=
  groups.find? fun group => keyOf qualified group = key && (textOf (render group)).isSome

def fate (earlier : List TypeGroup) (group : TypeGroup) : Fate :=
  match holder? render qualified earlier (keyOf qualified group) with
  | some holder => .collided holder.containing
  | none => .ofRendering (render group)

/-- The groups with what becomes of each, after some earlier groups. -/
def fates (earlier : List TypeGroup) : List TypeGroup → List (TypeGroup × Fate)
  | [] => []
  | group :: rest =>
      (group, fate render qualified earlier group) :: fates (earlier ++ [group]) rest

def fragment? (settled : TypeGroup × Fate) : Option (String × Points) :=
  settled.2.text?.map fun text => (keyOf qualified settled.1, text)

def fragmentsOf (settled : List (TypeGroup × Fate)) : Table Points :=
  settled.filterMap (fragment? qualified)

def run (groups : List TypeGroup) : Logged (Unit × Table Points) :=
  (do Session.addSource Marker.key Marker.text
      publish render qualified [] groups : Session Unit).run []

variable {render qualified}

theorem holder_append (earlier : List TypeGroup) (group : TypeGroup) (key : String) :
    holder? render qualified (earlier ++ [group]) key =
      (holder? render qualified earlier key).or
        (if keyOf qualified group = key ∧ (textOf (render group)).isSome then some group
         else none) := by
  unfold holder?
  rw [List.find?_append]
  congr 1
  by_cases held : keyOf qualified group = key ∧ (textOf (render group)).isSome
  · simp [held]
  · rw [if_neg held, List.find?_singleton, if_neg (by simpa using held)]

theorem holder_append_of_no_text (qualified : Bool) (earlier : List TypeGroup) {group : TypeGroup}
    (without : textOf (render group) = none) (key : String) :
    holder? render qualified (earlier ++ [group]) key = holder? render qualified earlier key := by
  rw [holder_append, without]
  simp

theorem holder_append_of_held {earlier : List TypeGroup} {group holder : TypeGroup}
    (held : holder? render qualified earlier (keyOf qualified group) = some holder) (key : String) :
    holder? render qualified (earlier ++ [group]) key = holder? render qualified earlier key := by
  rw [holder_append]
  by_cases same : keyOf qualified group = key
  · rw [← same, held]
    rfl
  · simp [same]

theorem holder_append_of_free {earlier : List TypeGroup} {group : TypeGroup} {text : Points}
    (free : holder? render qualified earlier (keyOf qualified group) = none)
    (rendered : render group = .text text) (key : String) :
    holder? render qualified (earlier ++ [group]) key =
      if keyOf qualified group = key then some group
      else holder? render qualified earlier key := by
  rw [holder_append, rendered]
  by_cases same : keyOf qualified group = key
  · rw [← same, free]
    simp [textOf]
  · simp [same]

/-- Table and sources after some groups: exactly the held keys are taken, and exactly they and
the key of the marker are in use. -/
structure Tracks (render : TypeGroup → Rendering) (qualified : Bool) (earlier : List TypeGroup)
    (taken : Table TypeSymbol) (sources : Table Points) : Prop where
  taken_by_holder : ∀ key,
    taken.get? key = (holder? render qualified earlier key).map (·.containing)
  used_by_holder : ∀ key,
    key ∈ sources.keys ↔ key = Marker.key ∨ (holder? render qualified earlier key).isSome

theorem tracks_marker :
    Tracks render qualified [] [] [(Marker.key, Marker.text)] := by
  constructor
  · intro key
    rfl
  · intro key
    simp [Table.keys, holder?]

theorem tracks_unchanged {earlier : List TypeGroup} {group : TypeGroup}
    {taken : Table TypeSymbol} {sources : Table Points}
    (tracks : Tracks render qualified earlier taken sources)
    (same : ∀ key, holder? render qualified (earlier ++ [group]) key =
      holder? render qualified earlier key) :
    Tracks render qualified (earlier ++ [group]) taken sources := by
  constructor
  · intro key
    rw [same key]
    exact tracks.taken_by_holder key
  · intro key
    rw [same key]
    exact tracks.used_by_holder key

theorem tracks_published {earlier : List TypeGroup} {group : TypeGroup} {text : Points}
    {taken : Table TypeSymbol} {sources : Table Points}
    (tracks : Tracks render qualified earlier taken sources)
    (free : holder? render qualified earlier (keyOf qualified group) = none)
    (rendered : render group = .text text) :
    Tracks render qualified (earlier ++ [group])
      (taken.put (keyOf qualified group) group.containing)
      (sources ++ [(keyOf qualified group, text)]) := by
  constructor
  · intro key
    rw [Table.get_put, holder_append_of_free free rendered, tracks.taken_by_holder]
    split <;> rfl
  · intro key
    rw [Table.keys_append, List.mem_append, tracks.used_by_holder,
      holder_append_of_free free rendered]
    by_cases same : keyOf qualified group = key
    · simp [Table.keys, same]
    · have other : key ≠ keyOf qualified group := fun equal => same equal.symm
      simp [Table.keys, same, other]

theorem fragments_cons (settled : TypeGroup × Fate) (rest : List (TypeGroup × Fate)) :
    fragmentsOf qualified (settled :: rest) =
      (fragment? qualified settled).toList ++ fragmentsOf qualified rest := by
  unfold fragmentsOf
  rw [List.filterMap_cons]
  cases fragment? qualified settled <;> rfl

/-- Publishing never faults once the keys can be read: each step keeps table and sources in step
with the holders, so a key that is not taken is not in use either. -/
theorem run_publish {earlier groups : List TypeGroup} {taken : Table TypeSymbol}
    {sources : Table Points}
    (tracks : Tracks render qualified earlier taken sources)
    (readable : ∀ group ∈ groups, Readable qualified group) :
    (publish render qualified taken groups).run sources =
      { events := (fates render qualified earlier groups).flatMap fun settled =>
          settled.2.events qualified settled.1
        outcome := .ok ((), sources ++
          fragmentsOf qualified (fates render qualified earlier groups)) } := by
  induction groups generalizing earlier taken sources with
  | nil =>
      rw [fates, fragmentsOf, List.filterMap_nil, List.append_nil]
      rfl
  | cons group rest induction =>
      have restReadable : ∀ other ∈ rest, Readable qualified other :=
        fun other member => readable other (List.mem_cons_of_mem _ member)
      have key : fragmentKey group.containing qualified = .ok (keyOf qualified group) :=
        readable group List.mem_cons_self
      unfold publish fates fate
      rw [key, Session.run_lift, Logged.of_except_ok_bind]
      have held := tracks.taken_by_holder (keyOf qualified group)
      cases holder : holder? render qualified earlier (keyOf qualified group) with
      | some other =>
          rw [holder, Option.map_some] at held
          simp only [held]
          rw [Session.run_report,
            induction (tracks_unchanged tracks (holder_append_of_held holder)) restReadable]
          simp [Fate.events, fragments_cons, fragment?, Fate.text?]
      | none =>
          rw [holder, Option.map_none] at held
          simp only [held]
          cases rendered : render group with
          | text text =>
              have fresh : keyOf qualified group ∉ sources.keys := by
                rw [tracks.used_by_holder, holder]
                simp [key_ne_marker key]
              simp only
              rw [Session.run_add_source fresh, Session.run_emit,
                induction (tracks_published tracks holder rendered) restReadable]
              simp [Fate.ofRendering, Fate.events, fragments_cons, fragment?, Fate.text?]
          | nested =>
              have without := holder_append_of_no_text qualified earlier
                (show textOf (render group) = none by rw [rendered]; rfl)
              simp only
              rw [Session.run_emit, induction (tracks_unchanged tracks without) restReadable]
              simp [Fate.ofRendering, Fate.events, fragments_cons, fragment?, Fate.text?]
          | failed reason =>
              have without := holder_append_of_no_text qualified earlier
                (show textOf (render group) = none by rw [rendered]; rfl)
              simp only
              rw [Session.run_emit, induction (tracks_unchanged tracks without) restReadable]
              simp [Fate.ofRendering, Fate.events, fragments_cons, fragment?, Fate.text?]

theorem readable_of_key {group : TypeGroup} {qualified : Bool} {key : String}
    (read : fragmentKey group.containing qualified = .ok key) : Readable qualified group := by
  unfold Readable keyOf
  rw [read]
  rfl

theorem publish_reads_keys {groups : List TypeGroup} {taken : Table TypeSymbol}
    {sources : Table Points} {result : Unit × Table Points}
    (returned : ((publish render qualified taken groups).run sources).outcome = .ok result) :
    ∀ group ∈ groups, Readable qualified group := by
  induction groups generalizing taken sources with
  | nil =>
      intro group member
      cases member
  | cons first rest induction =>
      unfold publish at returned
      rw [Session.run_lift] at returned
      obtain ⟨key, read, later⟩ := Logged.bind_returns.mp returned
      refine List.forall_mem_cons.mpr ⟨readable_of_key read, ?_⟩
      cases held : taken.get? key with
      | some other =>
          simp only [held] at later
          obtain ⟨left, after⟩ := Session.run_next_returns later
          exact induction after
      | none =>
          simp only [held] at later
          cases rendered : render first with
          | text text =>
              simp only [rendered] at later
              obtain ⟨added, noted⟩ := Session.run_next_returns later
              obtain ⟨left, after⟩ := Session.run_next_returns noted
              exact induction after
          | nested =>
              simp only [rendered] at later
              obtain ⟨left, after⟩ := Session.run_next_returns later
              exact induction after
          | failed reason =>
              simp only [rendered] at later
              obtain ⟨left, after⟩ := Session.run_next_returns later
              exact induction after

theorem fates_append (earlier first second : List TypeGroup) :
    fates render qualified earlier (first ++ second) =
      fates render qualified earlier first ++ fates render qualified (earlier ++ first) second := by
  induction first generalizing earlier with
  | nil => simp [fates]
  | cons group rest induction =>
      simp only [List.cons_append, fates, induction, List.append_assoc, List.nil_append]

theorem fates_groups (render : TypeGroup → Rendering) (qualified : Bool)
    (earlier groups : List TypeGroup) :
    (fates render qualified earlier groups).map (·.1) = groups := by
  induction groups generalizing earlier with
  | nil => rfl
  | cons group rest induction => simp [fates, induction]

/-- Each group stands at one place, and its fate looks back from there. -/
theorem fates_member {earlier groups : List TypeGroup} {settled : TypeGroup × Fate}
    (member : settled ∈ fates render qualified earlier groups) :
    ∃ before after, groups = before ++ settled.1 :: after ∧
      settled.2 = fate render qualified (earlier ++ before) settled.1 := by
  induction groups generalizing earlier with
  | nil => cases member
  | cons group rest induction =>
      rcases List.mem_cons.mp member with same | later
      · subst same
        exact ⟨[], rest, rfl, by rw [List.append_nil]⟩
      · obtain ⟨before, after, split, looked⟩ := induction later
        refine ⟨group :: before, after, by rw [split]; rfl, ?_⟩
        rw [looked, List.append_assoc]
        rfl

theorem holder_append_none {earlier : List TypeGroup} {group : TypeGroup} {key : String}
    (free : holder? render qualified (earlier ++ [group]) key = none) :
    holder? render qualified earlier key = none := by
  rw [holder_append, Option.or_eq_none_iff] at free
  exact free.1

theorem fate_text {earlier : List TypeGroup} {group : TypeGroup} {text : Points}
    (published : (fate render qualified earlier group).text? = some text) :
    holder? render qualified earlier (keyOf qualified group) = none ∧
      render group = .text text := by
  unfold fate at published
  cases holder : holder? render qualified earlier (keyOf qualified group) with
  | some other =>
      rw [holder] at published
      cases published
  | none =>
      rw [holder] at published
      cases rendered : render group <;> rw [rendered] at published <;> cases published
      exact ⟨rfl, rfl⟩

theorem fragment_key_free {earlier groups : List TypeGroup} {key : String}
    (published : key ∈ (fragmentsOf qualified (fates render qualified earlier groups)).keys) :
    holder? render qualified earlier key = none := by
  induction groups generalizing earlier with
  | nil => cases published
  | cons group rest induction =>
      rw [fates, fragments_cons, Table.keys_append, List.mem_append] at published
      rcases published with own | later
      · cases text : (fate render qualified earlier group).text? with
        | none => simp [fragment?, text, Table.keys] at own
        | some written =>
            have same : key = keyOf qualified group := by
              simpa [fragment?, text, Table.keys] using own
            rw [same]
            exact (fate_text text).1
      · exact holder_append_none (induction later)

theorem fragment_keys_nodup (earlier groups : List TypeGroup) :
    (fragmentsOf qualified (fates render qualified earlier groups)).keys.Nodup := by
  induction groups generalizing earlier with
  | nil => exact List.nodup_nil
  | cons group rest induction =>
      rw [fates, fragments_cons, Table.keys_append]
      cases text : (fate render qualified earlier group).text? with
      | none => simpa [fragment?, text, Table.keys] using induction (earlier ++ [group])
      | some written =>
          have single : (fragment? qualified (group, fate render qualified earlier group)).toList =
              [(keyOf qualified group, written)] := by
            simp [fragment?, text]
          rw [single]
          refine List.nodup_cons.mpr ⟨?_, induction (earlier ++ [group])⟩
          intro again
          have free := fragment_key_free again
          obtain ⟨open_, rendered⟩ := fate_text text
          rw [holder_append_of_free open_ rendered, if_pos rfl] at free
          cases free

/-- A key leads to the text of the group that holds it, unless an earlier group holds it. -/
theorem fragment_get (earlier groups : List TypeGroup) (key : String) :
    (fragmentsOf qualified (fates render qualified earlier groups)).get? key =
      if holder? render qualified earlier key = none then
        (holder? render qualified groups key).bind fun holder => textOf (render holder)
      else none := by
  induction groups generalizing earlier with
  | nil => simp [fates, fragmentsOf, Table.get?, holder?]
  | cons group rest induction =>
      have first : holder? render qualified (group :: rest) key =
          if keyOf qualified group = key ∧ (textOf (render group)).isSome then some group
          else holder? render qualified rest key := by
        unfold holder?
        by_cases holds : keyOf qualified group = key ∧ (textOf (render group)).isSome
        · simp [holds]
        · rw [if_neg holds, List.find?_cons_of_neg (by simpa using holds)]
      rw [fates, fragments_cons, first]
      cases text : (fate render qualified earlier group).text? with
      | none =>
          rw [show fragment? qualified (group, fate render qualified earlier group) = none by
            simp [fragment?, text]]
          rw [Option.toList_none, List.nil_append, induction, holder_append]
          cases held : holder? render qualified earlier key with
          | some other => simp
          | none =>
              by_cases holds : keyOf qualified group = key ∧ (textOf (render group)).isSome
              · -- a free key with a text would have been published
                obtain ⟨same, rendered⟩ := holds
                unfold fate at text
                rw [same, held] at text
                cases outcome : render group <;> rw [outcome] at text rendered
                · cases text
                · cases rendered
                · cases rendered
              · simp [holds]
      | some written =>
          obtain ⟨free, rendered⟩ := fate_text text
          have single : fragment? qualified (group, fate render qualified earlier group) =
              some (keyOf qualified group, written) := by
            simp [fragment?, text]
          rw [single, Option.toList_some, List.singleton_append]
          by_cases same : keyOf qualified group = key
          · rw [← same, free]
            simp [Table.get?, rendered, textOf]
          · have skipped : Table.get? ((keyOf qualified group, written) ::
                fragmentsOf qualified (fates render qualified (earlier ++ [group]) rest)) key =
              (fragmentsOf qualified (fates render qualified (earlier ++ [group]) rest)).get? key := by
              simp [Table.get?, same]
            rw [skipped, induction, holder_append_of_free free rendered]
            simp [same]

theorem fates_around_holder {before after : List TypeGroup} {holder : TypeGroup} {text : Points}
    (first : holder? render qualified before (keyOf qualified holder) = none)
    (rendered : render holder = .text text) :
    fates render qualified [] (before ++ holder :: after) =
        fates render qualified [] before ++
          (holder, .published text) :: fates render qualified (before ++ [holder]) after ∧
      (∀ settled ∈ fates render qualified [] before,
        keyOf qualified settled.1 = keyOf qualified holder →
          textOf (render settled.1) = none ∧ settled.2 = .ofRendering (render settled.1)) ∧
      (∀ settled ∈ fates render qualified (before ++ [holder]) after,
        keyOf qualified settled.1 = keyOf qualified holder →
          settled.2 = .collided holder.containing) := by
  refine ⟨?_, ?_, ?_⟩
  · rw [fates_append, List.nil_append, fates]
    unfold fate
    rw [first, rendered]
    rfl
  · intro settled member same
    obtain ⟨front, rest, split, looked⟩ := fates_member member
    rw [List.nil_append] at looked
    have none : ∀ group ∈ before, keyOf qualified group = keyOf qualified holder →
        textOf (render group) = none := by
      intro group inside key
      have absent := List.find?_eq_none.mp first group inside
      simpa [key] using absent
    have front_free : holder? render qualified front (keyOf qualified settled.1) = .none := by
      refine List.find?_eq_none.mpr ?_
      intro group inside
      by_cases key : keyOf qualified group = keyOf qualified settled.1
      · have absent := none group (by rw [split]; exact List.mem_append_left _ inside)
          (key.trans same)
        simp [absent]
      · simp [key]
    refine ⟨none settled.1 (by rw [split]; simp) same, ?_⟩
    rw [looked, fate, front_free]
  · intro settled member same
    obtain ⟨front, rest, split, looked⟩ := fates_member member
    have held : holder? render qualified (before ++ [holder] ++ front) (keyOf qualified settled.1) =
        some holder := by
      have taken := holder_append_of_free first rendered (keyOf qualified holder)
      rw [if_pos rfl] at taken
      unfold holder? at taken ⊢
      rw [same, List.find?_append, taken]
      rfl
    rw [looked, fate, held]

/-- A group looks back at groups of its own key only. -/
theorem fates_of_key (earlier groups : List TypeGroup) (key : String) :
    (fates render qualified earlier groups).filter (fun settled => keyOf qualified settled.1 = key) =
      fates render qualified (earlier.filter fun group => keyOf qualified group = key)
        (groups.filter fun group => keyOf qualified group = key) := by
  induction groups generalizing earlier with
  | nil => rfl
  | cons group rest induction =>
      by_cases same : keyOf qualified group = key
      · have looked : fate render qualified earlier group =
            fate render qualified (earlier.filter fun group => keyOf qualified group = key) group := by
          unfold fate holder?
          rw [List.find?_filter, same]
          congr 1
          congr 1
          funext other
          by_cases key : keyOf qualified other = key <;> simp [key]
        have step := induction (earlier ++ [group])
        rw [List.filter_append, List.filter_singleton] at step
        simp only [same, decide_true, cond_true] at step
        rw [fates, List.filter_cons_of_pos (by simp [same]), List.filter_cons_of_pos (by simp [same]),
          fates, step, looked]
      · have step := induction (earlier ++ [group])
        rw [List.filter_append, List.filter_singleton] at step
        simp only [same, decide_false, cond_false, List.append_nil] at step
        rw [fates, List.filter_cons_of_neg (by simp [same]), List.filter_cons_of_neg (by simp [same]),
          step]

/-- A group whose key is held is not rendered: another rendering of it changes nothing. -/
theorem fates_of_agreement {other : TypeGroup → Rendering} {earlier groups : List TypeGroup}
    (held : ∀ key, holder? other qualified earlier key = holder? render qualified earlier key)
    (agree : ∀ settled ∈ fates render qualified earlier groups,
      settled.2.isCollided = false → other settled.1 = render settled.1) :
    fates other qualified earlier groups = fates render qualified earlier groups := by
  induction groups generalizing earlier with
  | nil => rfl
  | cons group rest induction =>
      have own : fate other qualified earlier group = fate render qualified earlier group ∧
          ∀ key, holder? other qualified (earlier ++ [group]) key =
            holder? render qualified (earlier ++ [group]) key := by
        unfold fate
        rw [held]
        cases holder : holder? render qualified earlier (keyOf qualified group) with
        | some first =>
            refine ⟨rfl, fun key => ?_⟩
            rw [holder_append_of_held ((held _).trans holder), holder_append_of_held holder, held]
        | none =>
            have rendered := agree (group, fate render qualified earlier group) List.mem_cons_self (by
              unfold fate
              rw [holder]
              cases render group <;> rfl)
            refine ⟨by rw [rendered], fun key => ?_⟩
            rw [holder_append, holder_append, held, rendered]
      rw [fates, fates, own.1, induction own.2 fun settled member =>
        agree settled (List.mem_cons_of_mem _ member)]

/-- What a run over some groups comes to, in the terms of a reader of its sources and reports. -/
structure Publishes (render : TypeGroup → Rendering) (qualified : Bool) (groups : List TypeGroup) :
    Prop where
  returns : (run render qualified groups).outcome =
    .ok ((), (Marker.key, Marker.text) ::
      fragmentsOf qualified (fates render qualified [] groups))
  reports : (run render qualified groups).diagnostics =
    (fates render qualified [] groups).flatMap fun settled => settled.2.told qualified settled.1
  in_order : (fates render qualified [] groups).map (·.1) = groups
  keys_distinct :
    (Marker.key :: (fragmentsOf qualified (fates render qualified [] groups)).keys).Nodup
  text_of_first : ∀ key,
    (fragmentsOf qualified (fates render qualified [] groups)).get? key =
      (holder? render qualified groups key).bind fun holder => textOf (render holder)
  around_first : ∀ before holder after text, groups = before ++ holder :: after →
    holder? render qualified before (keyOf qualified holder) = none →
    render holder = .text text →
    fates render qualified [] groups =
        fates render qualified [] before ++
          (holder, .published text) :: fates render qualified (before ++ [holder]) after ∧
      (∀ settled ∈ fates render qualified [] before,
        keyOf qualified settled.1 = keyOf qualified holder →
          textOf (render settled.1) = none ∧ settled.2 = .ofRendering (render settled.1)) ∧
      (∀ settled ∈ fates render qualified (before ++ [holder]) after,
        keyOf qualified settled.1 = keyOf qualified holder →
          settled.2 = .collided holder.containing)
  held_not_rendered : ∀ other : TypeGroup → Rendering,
    (∀ settled ∈ fates render qualified [] groups,
      settled.2.isCollided = false → other settled.1 = render settled.1) →
    run other qualified groups = run render qualified groups
  keys_apart : ∀ (other : TypeGroup → Rendering) (key : String),
    (∀ group ∈ groups, keyOf qualified group = key → other group = render group) →
    (fates other qualified [] groups).filter (fun settled => keyOf qualified settled.1 = key) =
      fates render qualified [] (groups.filter fun group => keyOf qualified group = key)

theorem publish_marked_eq {groups : List TypeGroup}
    (readable : ∀ group ∈ groups, Readable qualified group) :
    (publish render qualified [] groups).run [(Marker.key, Marker.text)] =
      { events := (fates render qualified [] groups).flatMap fun settled =>
          settled.2.events qualified settled.1
        outcome := .ok ((), (Marker.key, Marker.text) ::
          fragmentsOf qualified (fates render qualified [] groups)) } := by
  rw [run_publish tracks_marker readable]
  rfl

theorem fates_reports (settled : List (TypeGroup × Fate)) :
    diagnosticsOf (settled.flatMap fun settled => settled.2.events qualified settled.1) =
      settled.flatMap fun settled => settled.2.reports qualified settled.1 := by
  rw [diagnostics_flatMap]
  congr 1
  funext settled
  exact Fate.diagnostics_events qualified settled.1 settled.2

theorem run_eq {groups : List TypeGroup} (readable : ∀ group ∈ groups, Readable qualified group) :
    run render qualified groups =
      { events := (fates render qualified [] groups).flatMap fun settled =>
          settled.2.events qualified settled.1
        outcome := .ok ((), (Marker.key, Marker.text) ::
          fragmentsOf qualified (fates render qualified [] groups)) } := by
  unfold run
  rw [Session.run_add_source (by simp [Table.keys]), List.nil_append, publish_marked_eq readable]

theorem run_reports {groups : List TypeGroup}
    (readable : ∀ group ∈ groups, Readable qualified group) :
    (run render qualified groups).diagnostics =
      (fates render qualified [] groups).flatMap
        fun settled => settled.2.reports qualified settled.1 := by
  rw [Logged.diagnostics, run_eq readable, fates_reports]

theorem marked_keys_nodup {groups : List TypeGroup}
    (readable : ∀ group ∈ groups, Readable qualified group) :
    (Marker.key :: (fragmentsOf qualified (fates render qualified [] groups)).keys).Nodup := by
  refine List.nodup_cons.mpr ⟨?_, fragment_keys_nodup [] groups⟩
  intro member
  obtain ⟨fragment, inside, same⟩ := List.mem_map.mp member
  obtain ⟨settled, settledInside, written⟩ := List.mem_filterMap.mp inside
  obtain ⟨text, -, rfl⟩ := Option.map_eq_some_iff.mp written
  have group : settled.1 ∈ groups := by
    rw [← fates_groups render qualified [] groups]
    exact List.mem_map_of_mem settledInside
  exact key_ne_marker (readable settled.1 group) same

/-- The first group of a key that renders to a text is published, whatever stands around it, and
publication always comes to an end with distinct keys. -/
theorem first_text_holds_key (render : TypeGroup → Rendering) (qualified : Bool)
    (groups : List TypeGroup)
    (readable : ∀ group ∈ groups, ∃ arity, group.containing.arity = .ok arity) :
    Publishes render qualified groups := by
  have keys : ∀ group ∈ groups, Readable qualified group := by
    intro group member
    obtain ⟨arity, read⟩ := readable group member
    exact readable_of_arity read qualified
  refine
    { returns := by rw [run_eq keys]
      reports := by simp only [run_reports keys, Fate.reports_told]
      in_order := fates_groups render qualified [] groups
      keys_distinct := marked_keys_nodup keys
      text_of_first := ?text
      around_first := ?around
      held_not_rendered := ?held
      keys_apart := ?apart }
  case text =>
    intro key
    rw [fragment_get]
    rfl
  case around =>
    intro before holder after text split first rendered
    rw [split]
    exact fates_around_holder first rendered
  case held =>
    intro other agree
    have same : fates other qualified [] groups = fates render qualified [] groups :=
      fates_of_agreement (fun _ => rfl) agree
    rw [run_eq keys, run_eq keys, same]
  case apart =>
    intro other key agree
    rw [fates_of_key, List.filter_nil]
    refine fates_of_agreement (fun _ => rfl) fun settled member _ => ?_
    obtain ⟨before, after, split, -⟩ := fates_member member
    have inside : settled.1 ∈ groups.filter fun group => keyOf qualified group = key := by
      rw [split]
      simp
    obtain ⟨group, same⟩ := List.mem_filter.mp inside
    exact agree settled.1 group (by simpa using same)

def bareGroup (space name metadataName : String) : TypeGroup :=
  { containing :=
      { metadataName, name, space, kind := "class", typeParameters := "", containing? := none
        interfaces := [], locations := [⟨metadataName ++ ".cs", 0, 6⟩], isExternal := false }
    members := []
    usings := [] }

/-- A generic type and a type whose name ends in its arity have one qualified key: here the
generic one fails to render, so the next type of the key is published and the third is not. By
their simple keys the third is published, and the fourth is not. -/
theorem first_text_holds_key_generic :
    let groups := [bareGroup "N" "C" "N.C`1", bareGroup "N" "C_1" "N.C_1",
      bareGroup "N" "C" "N.C`01", bareGroup "M" "C" "M.C"]
    let render := fun group : TypeGroup =>
      if group.containing.metadataName = "N.C`1" then Rendering.failed "no text"
      else .text group.containing.metadataName
    let failure : Diagnostic :=
      { id := "ANG000", severity := .error
        message := "Generating notifiable properties for 'N.C`1' failed: no text"
        path := some "N.C`1.cs", line := some 0, column := some 6 }
    (∀ group ∈ groups, ∃ arity, group.containing.arity = .ok arity) ∧
      (fates render true [] groups).map (·.2) =
        [.failed "no text", .published "N.C_1",
          .collided (bareGroup "N" "C_1" "N.C_1").containing, .published "M.C"] ∧
      (run render true groups).diagnostics =
        [failure,
          { id := "ANG004", severity := .warning
            message := "Generated source 'N.C_1_autoNotify' for 'N.C`01' collides with 'N.C_1'; "
              ++ "rename one of the types to generate both"
            path := some "N.C`01.cs", line := some 0, column := some 6 }] ∧
      (run render false groups).diagnostics =
        [failure,
          { id := "ANG004", severity := .warning
            message := "Generated source 'C_autoNotify' for 'M.C' collides with 'N.C`01'; "
              ++ "enable qualified keys to generate both"
            path := some "M.C.cs", line := some 0, column := some 6 }] ∧
      Publishes render true groups := by
  intro groups render failure
  have readable : ∀ group ∈ groups, ∃ arity, group.containing.arity = .ok arity := by
    intro group member
    simp only [groups, List.mem_cons, List.not_mem_nil, or_false] at member
    rcases member with rfl | rfl | rfl | rfl
    · exact ⟨1, by decide⟩
    · exact ⟨0, by decide⟩
    · exact ⟨1, by decide⟩
    · exact ⟨0, by decide⟩
  have byQualified := first_text_holds_key render true groups readable
  have bySimple := first_text_holds_key render false groups readable
  refine ⟨readable, by decide +kernel, ?_, ?_, byQualified⟩
  · rw [byQualified.reports]
    decide +kernel
  · rw [bySimple.reports]
    decide +kernel

end PropertyGen.Publication
