/- ADesk/A11y/Service
   digest: The accessibility service: trees, searches and actions over one element registry. -/

import ADesk.A11y.Elements
import ADesk.A11y.Find
import ADesk.A11y.Role
import ADesk.Foundation.Execution

set_option autoImplicit false

namespace ADesk.A11y.Service

open ADesk.A11y.Elements
open ADesk.A11y.Find
open ADesk.A11y.Role
open ADesk.A11y.Source
open ADesk.Core.Accessibility
open ADesk.Foundation.Execution

def snapshotTimeoutSecs : ℕ := 5
def findMaxDepth : ℕ := 16
def findMaxNodes : ℕ := 5000
def maxTrackedElements : ℕ := 65536

structure TreeOptions where
  maxDepth : ℕ
  maxNodes : ℕ
  includeStates : Bool
  includeBounds : Bool
  includeActions : Bool

def TreeOptions.default : TreeOptions := ⟨12, 2000, true, true, true⟩

structure FindQuery where
  role : Option String
  name : Option String
  nameContains : Option String
  valueContains : Option String
  maxResults : ℕ

def FindQuery.default : FindQuery := ⟨none, none, none, none, 50⟩

structure FindOutcome where
  matched : List AccessibleMatch
  truncated : Bool

/-- The answer of a backend future under the time bound. -/
def bounded {α : Type} (what : String) : Answer α → Except A11yError α
  | .answered result => result
  | .elapsed => .error (.backend (s!"accessibility backend timed out after {snapshotTimeoutSecs}s " ++
      s!"while {what}"))

mutual

def normalizeNode : SourceNode → SourceNode
  | ⟨role, name, description, value, states, bounds, actions, handle, children⟩ =>
    ⟨normalizeRole role, name, description, value, states, bounds, actions, handle,
      normalizeNodes children⟩

def normalizeNodes : List SourceNode → List SourceNode
  | [] => []
  | child :: rest => normalizeNode child :: normalizeNodes rest

end

def normalizeSnapshot (snapshot : SourceSnapshot) : SourceSnapshot :=
  { snapshot with root := normalizeNode snapshot.root }

mutual

/-- The wire node of a backend node, with the registry and the node count after it. -/
def projectNode (opts : TreeOptions) (registry : Registry) (count : ℕ) :
    SourceNode → AccessibleNode × Registry × ℕ
  | ⟨role, name, description, value, states, bounds, actions, handle, children⟩ =>
    let assigned := registry.assign handle
    let projected := projectChildren opts assigned.2 (count + 1) children
    (⟨assigned.1, role, name, description, value, if opts.includeStates then states else [],
        if opts.includeBounds then bounds else none, if opts.includeActions then actions else [],
        projected.1⟩,
      projected.2)

def projectChildren (opts : TreeOptions) (registry : Registry) (count : ℕ) :
    List SourceNode → List AccessibleNode × Registry × ℕ
  | [] => ([], registry, count)
  | child :: rest =>
    let first := projectNode opts registry count child
    let others := projectChildren opts first.2.1 first.2.2 rest
    (first.1 :: others.1, others.2)

end

/-- The bounded snapshot a tree request works on. -/
def treeSnapshot (source : AccessibilitySource) (target : WindowTarget) (opts : TreeOptions) :
    Except A11yError SourceSnapshot :=
  bounded "walking an accessibility tree" (source.snapshot target ⟨opts.maxDepth, opts.maxNodes⟩)

/-- `accessibility_tree`: the answer and the registry after it. -/
def tree (registry : Registry) (source : AccessibilitySource) (target : WindowTarget)
    (opts : TreeOptions) : Except A11yError AccessibleTree × Registry :=
  match treeSnapshot source target opts with
  | .error error => (.error error, registry)
  | .ok snapshot =>
    let snapshot := normalizeSnapshot snapshot
    let projected := projectNode opts registry 0 snapshot.root
    (.ok ⟨target.windowId, target.appId, snapshot.appName, projected.1, projected.2.2,
        snapshot.truncated⟩,
      projected.2.1)

/-- The bounded snapshot a search works on; no results asked for is refused before it. -/
def findSnapshot (source : AccessibilitySource) (target : WindowTarget) (query : FindQuery) :
    Except A11yError SourceSnapshot :=
  if query.maxResults = 0 then .error (.invalidRequest "max_results must be at least 1")
  else bounded "walking an accessibility tree" (source.snapshot target ⟨findMaxDepth, findMaxNodes⟩)

/-- The nodes of a snapshot a search answers with. -/
def searched (lowercase : String → String) (snapshot : SourceSnapshot) (query : FindQuery) :
    Collected :=
  collectMatches lowercase (normalizeSnapshot snapshot).root
    ⟨query.role, query.name, query.nameContains, query.valueContains, query.maxResults⟩
    query.maxResults

def accessibleMatch (id : AccessibleId) (hit : NodeMatch) : AccessibleMatch :=
  ⟨id, hit.node.role, hit.node.name, hit.node.value, hit.node.states, hit.node.bounds,
    hit.node.actions, hit.path⟩

/-- The hits in order, each with the id of its element. -/
def matchAll (registry : Registry) : List NodeMatch → List AccessibleMatch × Registry
  | [] => ([], registry)
  | hit :: rest =>
    let assigned := registry.assign hit.node.handle
    let others := matchAll assigned.2 rest
    (accessibleMatch assigned.1 hit :: others.1, others.2)

/-- `find_accessible`: the answer and the registry after it. -/
def find (lowercase : String → String) (registry : Registry) (source : AccessibilitySource)
    (target : WindowTarget) (query : FindQuery) : Except A11yError FindOutcome × Registry :=
  match findSnapshot source target query with
  | .error error => (.error error, registry)
  | .ok snapshot =>
    let collected := searched lowercase snapshot query
    let found := matchAll registry collected.hits
    (.ok ⟨found.1, collected.truncated || snapshot.truncated⟩, found.2)

/-- What an invocation came to: the element the backend was asked about, and the answer. -/
structure Invocation where
  asked : Option ElementHandle
  answer : Except A11yError String

/-- `invoke_accessible_action`. -/
def invoke (registry : Registry) (source : AccessibilitySource) (id : AccessibleId)
    (action : Option String) : Invocation :=
  if source.isAvailable then
    match registry.handleOf id with
    | none => ⟨none, .error (.unknownNode id)⟩
    | some handle =>
      ⟨some handle,
        match bounded "invoking an element action" (source.invoke handle action) with
        | .error error => .error error
        | .ok (.invoked name) => .ok name
        | .ok .noSuchAction =>
          .error (.invalidRequest (match action with
            | some action => s!"accessible node {id.val} does not expose action {action}"
            | none => s!"accessible node {id.val} exposes no action to invoke"))
        | .ok .gone => .error (.unknownNode id)⟩
  else ⟨none, .error (.unavailable s!"backend {source.name} is not available")⟩

/-! ## Requests as assignments -/

mutual

theorem normalize_handles (node : SourceNode) : (normalizeNode node).handles = node.handles := by
  cases node with
  | mk role name description value states bounds actions handle children =>
    simp only [normalizeNode, SourceNode.handles]
    rw [normalize_child_handles children]

theorem normalize_child_handles (nodes : List SourceNode) :
    childHandles (normalizeNodes nodes) = childHandles nodes := by
  cases nodes with
  | nil => rfl
  | cons child rest =>
    simp only [normalizeNodes, childHandles]
    rw [normalize_handles child, normalize_child_handles rest]

end

mutual

/-- A projection assigns the ids of the subtree in pre-order. -/
theorem project_assigns (opts : TreeOptions) (registry : Registry) (count depth : ℕ)
    (node : SourceNode) :
    (((projectNode opts registry count node).1.outline depth).map (fun entry => entry.2.id),
      (projectNode opts registry count node).2.1) = assignAll registry node.handles := by
  cases node with
  | mk role name description value states bounds actions handle children =>
    have later := project_children_assigns opts (registry.assign handle).2 (count + 1) (depth + 1)
      children
    simp only [projectNode, AccessibleNode.outline, SourceNode.handles, assignAll, List.map_cons]
    rw [← later]

theorem project_children_assigns (opts : TreeOptions) (registry : Registry) (count depth : ℕ)
    (nodes : List SourceNode) :
    ((outlines depth (projectChildren opts registry count nodes).1).map (fun entry => entry.2.id),
      (projectChildren opts registry count nodes).2.1) =
        assignAll registry (childHandles nodes) := by
  cases nodes with
  | nil => rfl
  | cons child rest =>
    have first := project_assigns opts registry count depth child
    have others := project_children_assigns opts (projectNode opts registry count child).2.1
      (projectNode opts registry count child).2.2 depth rest
    simp only [projectChildren, outlines, childHandles, List.map_append]
    rw [assign_all_append, ← first, ← others]

end

theorem match_assigns (registry : Registry) (hits : List NodeMatch) :
    ((matchAll registry hits).1.map AccessibleMatch.id, (matchAll registry hits).2) =
      assignAll registry (hits.map (fun hit => hit.node.handle)) := by
  induction hits generalizing registry with
  | nil => rfl
  | cons hit rest ih =>
    simp only [matchAll, assignAll, List.map_cons]
    rw [← ih]
    rfl

variable {lowercase : String → String} {registry : Registry} {source : AccessibilitySource}
  {target : WindowTarget} {opts : TreeOptions} {query : FindQuery} {snapshot : SourceSnapshot}

/-- The handles of a search answer, in the order of its matches. -/
def searchedHandles (lowercase : String → String) (snapshot : SourceSnapshot)
    (query : FindQuery) : List ElementHandle :=
  (searched lowercase snapshot query).hits.map (fun hit => hit.node.handle)

theorem searched_subset (lowercase : String → String) (snapshot : SourceSnapshot)
    (query : FindQuery) :
    (searchedHandles lowercase snapshot query).toFinset ⊆ snapshot.root.handles.toFinset := by
  intro handle listed
  rw [List.mem_toFinset] at listed ⊢
  obtain ⟨hit, member, rfl⟩ := List.mem_map.mp listed
  rw [← normalize_handles]
  exact collect_inside member

theorem tree_assigns (registry : Registry) (opts : TreeOptions)
    (taken : treeSnapshot source target opts = .ok snapshot) :
    ∃ answer, (tree registry source target opts).1 = .ok answer ∧
      (answer.root.ids, (tree registry source target opts).2) =
        assignAll registry snapshot.root.handles := by
  have assigns := project_assigns opts registry 0 0 (normalizeSnapshot snapshot).root
  rw [show (normalizeSnapshot snapshot).root = normalizeNode snapshot.root from rfl,
    normalize_handles] at assigns
  refine ⟨⟨target.windowId, target.appId, (normalizeSnapshot snapshot).appName,
    (projectNode opts registry 0 (normalizeSnapshot snapshot).root).1,
    (projectNode opts registry 0 (normalizeSnapshot snapshot).root).2.2,
    (normalizeSnapshot snapshot).truncated⟩, ?_, ?_⟩
  · unfold tree
    rw [taken]
  · unfold tree
    rw [taken]
    exact assigns

theorem find_assigns (registry : Registry)
    (taken : findSnapshot source target query = .ok snapshot) :
    ∃ answer, (find lowercase registry source target query).1 = .ok answer ∧
      (answer.matched.map AccessibleMatch.id, (find lowercase registry source target query).2) =
        assignAll registry (searchedHandles lowercase snapshot query) := by
  have assigns := match_assigns registry (searched lowercase snapshot query).hits
  refine ⟨⟨(matchAll registry (searched lowercase snapshot query).hits).1,
    (searched lowercase snapshot query).truncated || snapshot.truncated⟩, ?_, ?_⟩
  · unfold find
    rw [taken]
  · unfold find
    rw [taken]
    exact assigns

theorem tree_failed {error : A11yError} (failed : treeSnapshot source target opts = .error error) :
    tree registry source target opts = (.error error, registry) := by
  unfold tree
  rw [failed]

theorem find_failed {error : A11yError} (failed : findSnapshot source target query = .error error) :
    find lowercase registry source target query = (.error error, registry) := by
  unfold find
  rw [failed]

/-! ## Runs -/

/-- The service and every id it ever handed out, with the handle it was issued for. -/
structure State where
  registry : Registry
  issued : List (AccessibleId × ElementHandle)

inductive Operation
  | tree (source : AccessibilitySource) (target : WindowTarget) (opts : TreeOptions)
  | find (source : AccessibilitySource) (target : WindowTarget) (query : FindQuery)
  | invoke (source : AccessibilitySource) (id : AccessibleId) (action : Option String)

/-- The ids of a tree answer with the handles of the nodes they stand for. -/
def treeIssued (source : AccessibilitySource) (target : WindowTarget) (opts : TreeOptions)
    (answer : Except A11yError AccessibleTree) : List (AccessibleId × ElementHandle) :=
  match treeSnapshot source target opts, answer with
  | .ok snapshot, .ok answer => answer.root.ids.zip snapshot.root.handles
  | _, _ => []

/-- The ids of a search answer with the handles of the nodes they stand for. -/
def findIssued (lowercase : String → String) (source : AccessibilitySource) (target : WindowTarget)
    (query : FindQuery) (answer : Except A11yError FindOutcome) :
    List (AccessibleId × ElementHandle) :=
  match findSnapshot source target query, answer with
  | .ok snapshot, .ok answer =>
    (answer.matched.map AccessibleMatch.id).zip (searchedHandles lowercase snapshot query)
  | _, _ => []

def step (lowercase : String → String) (s : State) : Operation → Option State
  | .tree source target opts =>
    let answered := tree s.registry source target opts
    some ⟨answered.2, s.issued ++ treeIssued source target opts answered.1⟩
  | .find source target query =>
    let answered := find lowercase s.registry source target query
    some ⟨answered.2, s.issued ++ findIssued lowercase source target query answered.1⟩
  | .invoke _ _ _ => some s

/-- A service whose registry tracks at most `cap` handles. -/
def service (lowercase : String → String) (cap : ℕ) : Machine State Operation :=
  ⟨⟨Registry.new cap, []⟩, step lowercase⟩

theorem tree_issued (taken : treeSnapshot source target opts = .ok snapshot)
    (answer : AccessibleTree) :
    treeIssued source target opts (.ok answer) = answer.root.ids.zip snapshot.root.handles := by
  unfold treeIssued
  rw [taken]

theorem find_issued (taken : findSnapshot source target query = .ok snapshot)
    (answer : FindOutcome) :
    findIssued lowercase source target query (.ok answer) =
      (answer.matched.map AccessibleMatch.id).zip (searchedHandles lowercase snapshot query) := by
  unfold findIssued
  rw [taken]

theorem tree_next {issued : List (AccessibleId × ElementHandle)} (sound : Sound registry issued) :
    Sound (tree registry source target opts).2
        (issued ++ treeIssued source target opts (tree registry source target opts).1) ∧
      (tree registry source target opts).2.cap = registry.cap := by
  cases taken : treeSnapshot source target opts with
  | error error =>
    rw [tree_failed taken]
    unfold treeIssued
    rw [taken, List.append_nil]
    exact ⟨sound, rfl⟩
  | ok snapshot =>
    obtain ⟨answer, answered, assigns⟩ := tree_assigns registry opts taken
    obtain ⟨ids, after⟩ := Prod.ext_iff.mp assigns
    rw [answered, tree_issued taken, show answer.root.ids = _ from ids,
      show (tree registry source target opts).2 = _ from after]
    exact ⟨sound.assigned_all _, assign_all_cap _ _⟩

theorem find_next {issued : List (AccessibleId × ElementHandle)} (sound : Sound registry issued) :
    Sound (find lowercase registry source target query).2
        (issued ++ findIssued lowercase source target query
          (find lowercase registry source target query).1) ∧
      (find lowercase registry source target query).2.cap = registry.cap := by
  cases taken : findSnapshot source target query with
  | error error =>
    rw [find_failed taken]
    unfold findIssued
    rw [taken, List.append_nil]
    exact ⟨sound, rfl⟩
  | ok snapshot =>
    obtain ⟨answer, answered, assigns⟩ := find_assigns registry taken
    obtain ⟨ids, after⟩ := Prod.ext_iff.mp assigns
    rw [answered, find_issued taken, show answer.matched.map AccessibleMatch.id = _ from ids,
      show (find lowercase registry source target query).2 = _ from after]
    exact ⟨sound.assigned_all _, assign_all_cap _ _⟩

theorem sound_step {s t : State} {cap : ℕ} {operation : Operation}
    (sound : Sound s.registry s.issued ∧ s.registry.cap = cap)
    (taken : step lowercase s operation = some t) :
    Sound t.registry t.issued ∧ t.registry.cap = cap := by
  cases operation with
  | tree source target opts =>
    simp only [step, Option.some.injEq] at taken
    obtain ⟨after, sameCap⟩ := @tree_next s.registry source target opts s.issued sound.1
    rw [← taken]
    exact ⟨after, sameCap.trans sound.2⟩
  | find source target query =>
    simp only [step, Option.some.injEq] at taken
    obtain ⟨after, sameCap⟩ :=
      @find_next lowercase s.registry source target query s.issued sound.1
    rw [← taken]
    exact ⟨after, sameCap.trans sound.2⟩
  | invoke source id action =>
    simp only [step, Option.some.injEq] at taken
    exact taken ▸ sound

variable {cap : ℕ} {s : State}

theorem sound_of_reachable (reached : Reachable (service lowercase cap) anyStep s) :
    Sound s.registry s.issued ∧ s.registry.cap = cap := by
  have invariant : Inductive (service lowercase cap) anyStep
      (fun s => Sound s.registry s.issued ∧ s.registry.cap = cap) :=
    ⟨⟨Sound.new cap, rfl⟩, fun sound _ taken => sound_step sound taken⟩
  exact invariant.holds reached

/-- Over every run: the tables stay inverse and bounded, no id ever stands for two elements, and
an id in an agent's hands reaches the element it was issued for or nothing. -/
theorem ids_name_one_element (reached : Reachable (service lowercase cap) anyStep s) :
    (∀ handle id, s.registry.byHandle.lookup handle = some id ↔
        s.registry.byId.lookup id = some handle) ∧
      s.registry.byHandle.keys.length ≤ max cap 1 ∧ s.registry.byId.keys.length ≤ max cap 1 ∧
      (∀ id first second, (id, first) ∈ s.issued → (id, second) ∈ s.issued → first = second) ∧
      ∀ source id action,
        (∀ handle, (invoke s.registry source id action).asked = some handle →
          (id, handle) ∈ s.issued) ∧
        (source.isAvailable = true → (invoke s.registry source id action).asked = none →
          (invoke s.registry source id action).answer = .error (.unknownNode id)) := by
  obtain ⟨sound, sameCap⟩ := sound_of_reachable reached
  have bounded := sound.bounded
  have paired := sound.paired
  rw [sameCap] at bounded
  refine ⟨sound.inverse, bounded, paired ▸ bounded, sound.single, ?_⟩
  intro source id action
  unfold invoke
  cases available : source.isAvailable with
  | false => simp
  | true =>
    cases found : s.registry.handleOf id with
    | none => simp
    | some handle =>
      have logged := sound.recorded id handle found
      simp [logged]

/-- A backend that reports one tree for every window and whose elements are gone. -/
def fixture (root : SourceNode) : AccessibilitySource :=
  ⟨"fixture", true, fun _ _ => .answered (.ok ⟨none, root, false⟩),
    fun _ _ => .answered (.ok .gone)⟩

def element (handle : String) (children : List SourceNode) : SourceNode :=
  ⟨"label", handle, none, none, [], none, [], ⟨handle⟩, children⟩

def anyWindow : WindowTarget := ⟨⟨1⟩, none, none, none⟩

/-- Two handles at most, and one element was read. -/
def oneTracked : State :=
  finalState (service String.toLower 2) anyStep
    [.tree (fixture (element "a" [])) anyWindow .default] (by decide +kernel)

theorem ids_name_one_element_tracked :
    (invoke oneTracked.registry (fixture (element "a" [])) ⟨0⟩ none).asked = some ⟨"a"⟩ ∧
      (⟨0⟩, ⟨"a"⟩) ∈ oneTracked.issued ∧
      (invoke oneTracked.registry (fixture (element "a" [])) ⟨7⟩ none).answer =
        .error (.unknownNode ⟨7⟩) := by
  have reached : Reachable (service String.toLower 2) anyStep oneTracked :=
    final_state_reachable _ _ _ _
  obtain ⟨_, _, _, _, invoked⟩ := ids_name_one_element reached
  have asked : (invoke oneTracked.registry (fixture (element "a" [])) ⟨0⟩ none).asked =
      some ⟨"a"⟩ := by decide +kernel
  have unknown : (invoke oneTracked.registry (fixture (element "a" [])) ⟨7⟩ none).asked =
      none := by decide +kernel
  exact ⟨asked, (invoked (fixture (element "a" [])) ⟨0⟩ none).1 ⟨"a"⟩ asked,
    (invoked (fixture (element "a" [])) ⟨7⟩ none).2 rfl unknown⟩

/-- The ids of a successful request are usable exactly when its handles found room. -/
theorem handed_out_usable_iff (reached : Reachable (service lowercase cap) anyStep s)
    (source : AccessibilitySource) (target : WindowTarget) :
    (∀ opts snapshot, treeSnapshot source target opts = .ok snapshot →
      snapshot.root.handles.toFinset.card ≤ cap →
        ∃ answer, (tree s.registry source target opts).1 = .ok answer ∧
          answer.root.ids.length = snapshot.root.handles.length ∧
          (Usable (tree s.registry source target opts).2
              (answer.root.ids.zip snapshot.root.handles) ↔
            Room s.registry snapshot.root.handles)) ∧
      ∀ query snapshot, findSnapshot source target query = .ok snapshot →
        snapshot.root.handles.toFinset.card ≤ cap →
          ∃ answer, (find lowercase s.registry source target query).1 = .ok answer ∧
            answer.matched.length = (searchedHandles lowercase snapshot query).length ∧
            (Usable (find lowercase s.registry source target query).2
                ((answer.matched.map AccessibleMatch.id).zip
                  (searchedHandles lowercase snapshot query)) ↔
              Room s.registry (searchedHandles lowercase snapshot query)) := by
  obtain ⟨sound, sameCap⟩ := sound_of_reachable reached
  constructor
  · intro opts snapshot taken few
    obtain ⟨answer, answered, assigns⟩ := tree_assigns s.registry opts taken
    obtain ⟨ids, after⟩ := Prod.ext_iff.mp assigns
    refine ⟨answer, answered, ?_, ?_⟩
    · rw [show answer.root.ids = _ from ids, assign_all_length]
    · rw [show answer.root.ids = _ from ids,
        show (tree s.registry source target opts).2 = _ from after]
      exact usable_iff sound _ (sameCap.symm ▸ few)
  · intro query snapshot taken few
    obtain ⟨answer, answered, assigns⟩ := find_assigns s.registry taken
    obtain ⟨ids, after⟩ := Prod.ext_iff.mp assigns
    refine ⟨answer, answered, ?_, ?_⟩
    · rw [← assign_all_length s.registry, ← show _ = _ from ids, List.length_map]
    · rw [show answer.matched.map AccessibleMatch.id = _ from ids,
        show (find lowercase s.registry source target query).2 = _ from after]
      refine usable_iff sound _ (Nat.le_trans (Finset.card_le_card ?_) (sameCap.symm ▸ few))
      exact searched_subset lowercase snapshot query

/-- Two new elements beside the tracked one: the second empties the table the first is in. -/
theorem first_id_lost :
    Reachable (service String.toLower 2) anyStep oneTracked ∧
      (element "b" [element "c" []]).handles.toFinset.card ≤ 2 ∧
      treeIssued (fixture (element "b" [element "c" []])) anyWindow .default
          (tree oneTracked.registry (fixture (element "b" [element "c" []])) anyWindow .default).1 =
        [(⟨1⟩, ⟨"b"⟩), (⟨2⟩, ⟨"c"⟩)] ∧
      ¬ Usable (tree oneTracked.registry (fixture (element "b" [element "c" []])) anyWindow
          .default).2 [(⟨1⟩, ⟨"b"⟩), (⟨2⟩, ⟨"c"⟩)] := by
  have reached : Reachable (service String.toLower 2) anyStep oneTracked :=
    final_state_reachable _ _ _ _
  refine ⟨reached, by decide +kernel, by decide +kernel, ?_⟩
  intro usable
  have resolves := usable.1 (⟨1⟩, ⟨"b"⟩) List.mem_cons_self
  have lost : (tree oneTracked.registry (fixture (element "b" [element "c" []])) anyWindow
      .default).2.handleOf ⟨1⟩ = none := by decide +kernel
  exact absurd (lost.symm.trans resolves) (Option.some_ne_none _).symm

theorem handed_out_usable_iff_tracked :
    ∃ answer,
      (tree oneTracked.registry (fixture (element "a" [element "c" []])) anyWindow .default).1 =
        .ok answer ∧
      Usable (tree oneTracked.registry (fixture (element "a" [element "c" []])) anyWindow
        .default).2 (answer.root.ids.zip [⟨"a"⟩, ⟨"c"⟩]) := by
  have reached : Reachable (service String.toLower 2) anyStep oneTracked :=
    final_state_reachable _ _ _ _
  have few : (element "a" [element "c" []]).handles.toFinset.card ≤ 2 := by decide +kernel
  obtain ⟨answer, answered, _, usable⟩ :=
    (handed_out_usable_iff reached (fixture (element "a" [element "c" []])) anyWindow).1 .default
      ⟨none, element "a" [element "c" []], false⟩ rfl few
  have fits : (oneTracked.registry.tracked ∪ [⟨"a"⟩, ⟨"c"⟩].toFinset).card ≤
      oneTracked.registry.cap := by decide +kernel
  exact ⟨answer, answered, usable.mpr (Or.inr (Or.inl fits))⟩

end ADesk.A11y.Service
