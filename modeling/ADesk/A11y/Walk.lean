/- ADesk/A11y/Walk
   digest: The iterative walk of the accessibility bus and the recursive trim of the fixture build
   the same tree: a prefix, in pre-order, of the tree down to the depth bound. -/

import ADesk.A11y.Source

set_option autoImplicit false

namespace ADesk.A11y.Walk

open ADesk.A11y.Source

universe u v

/-! ## Trees -/

def withChildren (node : SourceNode) (children : List SourceNode) : SourceNode :=
  { node with children := children }

/-- The node without its children. -/
def bare (node : SourceNode) : SourceNode := withChildren node []

section Induction

variable {P : SourceNode → Prop} {Q : List SourceNode → Prop}

mutual

theorem node_holds (nil : Q []) (cons : ∀ child rest, P child → Q rest → Q (child :: rest))
    (node : ∀ node, Q node.children → P node) : ∀ tree, P tree
  | ⟨role, name, description, value, states, bounds, actions, handle, children⟩ =>
    node ⟨role, name, description, value, states, bounds, actions, handle, children⟩
      (nodes_hold nil cons node children)

theorem nodes_hold (nil : Q []) (cons : ∀ child rest, P child → Q rest → Q (child :: rest))
    (node : ∀ node, Q node.children → P node) : ∀ trees, Q trees
  | [] => nil
  | child :: rest =>
    cons child rest (node_holds nil cons node child) (nodes_hold nil cons node rest)

end

/-- An induction over trees together with lists of trees. -/
theorem tree_induction (nil : Q []) (cons : ∀ child rest, P child → Q rest → Q (child :: rest))
    (node : ∀ node, Q node.children → P node) : (∀ tree, P tree) ∧ ∀ trees, Q trees :=
  ⟨node_holds nil cons node, nodes_hold nil cons node⟩

end Induction

mutual

/-- The nodes of a tree in pre-order, each bare and with its depth below `depth`. -/
def outline (depth : ℕ) : SourceNode → List (ℕ × SourceNode)
  | ⟨role, name, description, value, states, bounds, actions, handle, children⟩ =>
    (depth, ⟨role, name, description, value, states, bounds, actions, handle, []⟩) ::
      outlines (depth + 1) children

def outlines (depth : ℕ) : List SourceNode → List (ℕ × SourceNode)
  | [] => []
  | child :: rest => outline depth child ++ outlines depth rest

end

mutual

/-- The tree down to `levels` levels below its root. -/
def limited : ℕ → SourceNode → SourceNode
  | 0, node => bare node
  | levels + 1, ⟨role, name, description, value, states, bounds, actions, handle, children⟩ =>
    ⟨role, name, description, value, states, bounds, actions, handle,
      limitedAll levels children⟩

def limitedAll (levels : ℕ) : List SourceNode → List SourceNode
  | [] => []
  | child :: rest => limited levels child :: limitedAll levels rest

end

/-- The number of nodes. -/
def size (node : SourceNode) : ℕ := (outline 0 node).length

theorem outline_eq (depth : ℕ) (node : SourceNode) :
    outline depth node = (depth, bare node) :: outlines (depth + 1) node.children := by
  cases node
  rfl

theorem outline_children (depth : ℕ) (node : SourceNode) (children : List SourceNode) :
    outline depth (withChildren node children) =
      (depth, bare node) :: outlines (depth + 1) children := by
  cases node
  rfl

theorem limited_succ (levels : ℕ) (node : SourceNode) :
    limited (levels + 1) node = withChildren node (limitedAll levels node.children) := by
  cases node
  rfl

theorem with_children_self (node : SourceNode) : withChildren node node.children = node := by
  cases node
  rfl

/-! ## A tree is known from its outline -/

/-- Nothing in the list belongs to the trees before it, whose roots are at `depth`. -/
def Above (depth : ℕ) (entries : List (ℕ × SourceNode)) : Prop :=
  ∀ entry ∈ entries.head?, entry.1 < depth

theorem outlines_above {depth : ℕ} {nodes : List SourceNode} {entries : List (ℕ × SourceNode)}
    (above : Above depth entries) : Above (depth + 1) (outlines depth nodes ++ entries) := by
  intro entry first
  cases nodes with
  | nil => exact Nat.lt_succ_of_lt (above entry first)
  | cons child rest =>
    rw [outlines, outline_eq] at first
    cases first
    exact Nat.lt_succ_self depth

theorem not_above_outlines {depth : ℕ} {child : SourceNode} {rest : List SourceNode}
    {entries : List (ℕ × SourceNode)} :
    ¬Above depth (outlines depth (child :: rest) ++ entries) := by
  intro above
  rw [outlines, outline_eq] at above
  exact Nat.lt_irrefl depth (above _ rfl)

theorem bare_children {node other : SourceNode} (same : bare node = bare other)
    (children : node.children = other.children) : node = other := by
  rw [← with_children_self node, ← with_children_self other, children]
  have whole := congrArg (fun kept => withChildren kept other.children) same
  exact whole

theorem outline_splits :
    (∀ node depth other rest more, Above (depth + 1) rest → Above (depth + 1) more →
      outline depth node ++ rest = outline depth other ++ more → node = other ∧ rest = more) ∧
    ∀ nodes depth others rest more, Above depth rest → Above depth more →
      outlines depth nodes ++ rest = outlines depth others ++ more →
        nodes = others ∧ rest = more := by
  apply tree_induction
  case nil =>
    intro depth others rest more above above_more same
    cases others with
    | nil => exact ⟨rfl, same⟩
    | cons child others =>
      rw [show rest = _ from same] at above
      exact absurd above not_above_outlines
  case cons =>
    intro child nodes child_ih nodes_ih depth others rest more above above_more same
    cases others with
    | nil =>
      rw [show more = _ from same.symm] at above_more
      exact absurd above_more not_above_outlines
    | cons other others =>
      rw [outlines, outlines, List.append_assoc, List.append_assoc] at same
      obtain ⟨rfl, later⟩ := child_ih depth other _ _ (outlines_above above)
        (outlines_above above_more) same
      obtain ⟨rfl, rfl⟩ := nodes_ih depth others rest more above above_more later
      exact ⟨rfl, rfl⟩
  case node =>
    intro node ih depth other rest more above above_more same
    rw [outline_eq, outline_eq, List.cons_append, List.cons_append] at same
    obtain ⟨entry, below⟩ := List.cons.inj same
    obtain ⟨children, rfl⟩ := ih (depth + 1) other.children rest more above above_more below
    exact ⟨bare_children (Prod.mk.inj entry).2 children, rfl⟩

theorem outline_injective {depth : ℕ} {node other : SourceNode}
    (same : outline depth node = outline depth other) : node = other := by
  have above : Above (depth + 1) [] := by
    intro entry first
    cases first
  exact (outline_splits.1 node depth other [] [] above above (congrArg (· ++ []) same)).1

/-! ## The trim of the fixture -/

mutual

/-- The node and, while the bounds allow, its children, with the nodes that are still allowed and
whether anything was cut. -/
def trimNode (opts : SourceOptions) (depth remaining : ℕ) (truncated : Bool) :
    SourceNode → SourceNode × ℕ × Bool
  | ⟨role, name, description, value, states, bounds, actions, handle, children⟩ =>
    if opts.maxDepth ≤ depth then
      (⟨role, name, description, value, states, bounds, actions, handle, []⟩, remaining - 1,
        truncated || !children.isEmpty)
    else
      let kept := trimNodes opts (depth + 1) (remaining - 1) truncated children
      (⟨role, name, description, value, states, bounds, actions, handle, kept.1⟩, kept.2)

/-- The loop over the children. -/
def trimNodes (opts : SourceOptions) (depth remaining : ℕ) (truncated : Bool) :
    List SourceNode → List SourceNode × ℕ × Bool
  | [] => ([], remaining, truncated)
  | child :: rest =>
    if remaining = 0 then ([], remaining, true)
    else
      let first := trimNode opts depth remaining truncated child
      let more := trimNodes opts depth first.2.1 first.2.2 rest
      (first.1 :: more.1, more.2)

end

/-- The root is always kept. -/
def trim (root : SourceNode) (opts : SourceOptions) : SourceNode × Bool :=
  let kept := trimNode opts 0 (max opts.maxNodes 1) false root
  (kept.1, kept.2.2)

theorem trim_node_eq (opts : SourceOptions) (depth remaining : ℕ) (truncated : Bool)
    (node : SourceNode) :
    trimNode opts depth remaining truncated node =
      if opts.maxDepth ≤ depth then
        (bare node, remaining - 1, truncated || !node.children.isEmpty)
      else
        (withChildren node
          (trimNodes opts (depth + 1) (remaining - 1) truncated node.children).1,
          (trimNodes opts (depth + 1) (remaining - 1) truncated node.children).2) := by
  cases node
  rfl

/-! ## What the trim keeps -/

/-- What is kept of some nodes when `remaining` are allowed: those that come first `within` the
depth bound. The flag is raised when some are lost. -/
structure Trimmed (remaining : ℕ) (truncated : Bool) (nodes within kept : List (ℕ × SourceNode))
    (left : ℕ) (cut : Bool) : Prop where
  first : kept = within.take remaining
  allowed : left = remaining - kept.length
  fewer : kept.length ≤ nodes.length
  flagged : cut = true ↔ truncated = true ∨ kept.length < nodes.length

section Trimmed

variable {remaining left later : ℕ} {truncated cut lost : Bool}
variable {nodes within kept more moreWithin moreKept : List (ℕ × SourceNode)}

theorem Trimmed.append (start : Trimmed remaining truncated nodes within kept left cut)
    (next : Trimmed left cut more moreWithin moreKept later lost) :
    Trimmed remaining truncated (nodes ++ more) (within ++ moreWithin) (kept ++ moreKept) later
      lost := by
  have length : kept.length = min remaining within.length := by
    rw [start.first, List.length_take]
  have allowed := start.allowed
  have left_over : left = remaining - within.length := by omega
  have fewer := start.fewer
  have more_fewer := next.fewer
  have flagged := start.flagged
  refine ⟨?_, ?_, ?_, ?_⟩
  · rw [List.take_append, ← start.first, ← left_over, ← next.first]
  · rw [next.allowed, List.length_append]
    omega
  · rw [List.length_append, List.length_append]
    omega
  · rw [next.flagged, flagged, List.length_append, List.length_append, or_assoc]
    exact or_congr_right (by omega)

theorem Trimmed.cons (below : Trimmed (remaining - 1) truncated nodes within kept left cut)
    (positive : 0 < remaining) (entry : ℕ × SourceNode) :
    Trimmed remaining truncated (entry :: nodes) (entry :: within) (entry :: kept) left cut := by
  have allowed := below.allowed
  have fewer := below.fewer
  refine ⟨?_, ?_, ?_, ?_⟩
  · rw [List.take_cons positive, ← below.first]
  · rw [List.length_cons]
    omega
  · rw [List.length_cons, List.length_cons]
    omega
  · rw [below.flagged, List.length_cons, List.length_cons, Nat.add_lt_add_iff_right]

theorem trimmed_nil (remaining : ℕ) (truncated : Bool) :
    Trimmed remaining truncated [] [] [] remaining truncated := by
  refine ⟨List.take_nil.symm, rfl, Nat.le_refl _, ?_⟩
  exact (or_iff_left (Nat.lt_irrefl _)).symm

/-- Nothing below the depth bound is kept. -/
theorem trimmed_cut (remaining : ℕ) (truncated : Bool) (nodes : List (ℕ × SourceNode)) :
    Trimmed remaining truncated nodes [] [] remaining (truncated || !nodes.isEmpty) := by
  refine ⟨List.take_nil.symm, rfl, Nat.zero_le _, ?_⟩
  rw [Bool.or_eq_true, Bool.not_eq_true', List.isEmpty_eq_false_iff, List.length_nil,
    List.length_pos_iff]

/-- Nothing is kept once no node is allowed. -/
theorem trimmed_spent (truncated : Bool) (some_node : nodes ≠ []) :
    Trimmed 0 truncated nodes within [] 0 true := by
  refine ⟨List.take_zero.symm, rfl, Nat.zero_le _, ?_⟩
  rw [List.length_nil, List.length_pos_iff]
  exact iff_of_true rfl (Or.inr some_node)

end Trimmed

theorem outlines_empty (depth : ℕ) (nodes : List SourceNode) :
    (outlines depth nodes).isEmpty = nodes.isEmpty := by
  cases nodes with
  | nil => rfl
  | cons child rest =>
    rw [outlines, outline_eq]
    rfl

/-- The trim keeps a prefix of the tree down to the depth bound. -/
theorem trim_trimmed (opts : SourceOptions) :
    (∀ node base depth remaining truncated, 0 < remaining →
      Trimmed remaining truncated (outline base node)
        (outline base (limited (opts.maxDepth - depth) node))
        (outline base (trimNode opts depth remaining truncated node).1)
        (trimNode opts depth remaining truncated node).2.1
        (trimNode opts depth remaining truncated node).2.2) ∧
    ∀ nodes base depth remaining truncated,
      Trimmed remaining truncated (outlines base nodes)
        (outlines base (limitedAll (opts.maxDepth - depth) nodes))
        (outlines base (trimNodes opts depth remaining truncated nodes).1)
        (trimNodes opts depth remaining truncated nodes).2.1
        (trimNodes opts depth remaining truncated nodes).2.2 := by
  apply tree_induction
  case nil =>
    intro base depth remaining truncated
    exact trimmed_nil remaining truncated
  case cons =>
    intro child rest child_ih rest_ih base depth remaining truncated
    rcases Nat.eq_zero_or_pos remaining with rfl | positive
    · rw [trimNodes, if_pos rfl]
      refine trimmed_spent truncated ?_
      rw [outlines, outline_eq]
      exact List.cons_ne_nil _ _
    · rw [trimNodes, if_neg positive.ne']
      exact (child_ih base depth remaining truncated positive).append (rest_ih base depth _ _)
  case node =>
    intro node ih base depth remaining truncated positive
    rw [trim_node_eq, outline_eq base node]
    by_cases bound : opts.maxDepth ≤ depth
    · rw [if_pos bound, Nat.sub_eq_zero_of_le bound, limited, bare, outline_children,
        ← outlines_empty (base + 1)]
      exact (trimmed_cut (remaining - 1) truncated _).cons positive _
    · have levels : opts.maxDepth - depth = opts.maxDepth - (depth + 1) + 1 := by omega
      rw [if_neg bound, levels, limited_succ, outline_children, outline_children]
      exact (ih (base + 1) (depth + 1) (remaining - 1) truncated).cons positive _

/-! ## The walk of the bus -/

/-- The bus that elements are read from. A reference may have no bus name; reading an element gives
its node without children, and the references of its children. -/
structure Bus (ρ : Type u) (α : Type v) where
  address : ρ → Option α
  readElement : α → Except A11yError (SourceNode × List ρ)

/-- One step of the walk: read an element, or close the element it is inside. -/
inductive Step (ρ : Type u)
  | read (reference : ρ) (depth : ℕ)
  | close

/-- Folds the innermost open node into its parent. The walk root has none. -/
def close : List SourceNode → List SourceNode
  | done :: parent :: rest => withChildren parent (parent.children ++ [done]) :: rest
  | single => single

/-- The open nodes are folded until the root is left. -/
def folded : SourceNode → List SourceNode → SourceNode
  | node, [] => node
  | done, parent :: rest => folded (withChildren parent (parent.children ++ [done])) rest

def finish (opened : List SourceNode) (truncated : Bool) : Except A11yError (SourceNode × Bool) :=
  match opened with
  | [] => .error (.backend "the accessibility walk produced no window root")
  | node :: rest => .ok (folded node rest, truncated)

section Walk

variable {ρ : Type u} {α : Type v} (bus : Bus ρ α) (opts : SourceOptions)

/-- The loop: the steps to take, the open nodes from the innermost, the elements read so far. -/
def walkFrom (steps : List (Step ρ)) (opened : List SourceNode) (read : ℕ) (truncated : Bool) :
    Except A11yError (SourceNode × Bool) :=
  match steps with
  | [] => finish opened truncated
  | .close :: steps => walkFrom steps (close opened) read truncated
  | .read reference depth :: steps =>
    if max opts.maxNodes 1 ≤ read then finish opened true
    else
      match bus.address reference with
      | none => .error (.backend "an accessible element has no bus name")
      | some address =>
        match bus.readElement address with
        | .error error => .error error
        | .ok (node, children) =>
          if children.isEmpty then walkFrom steps (close (node :: opened)) (read + 1) truncated
          else if opts.maxDepth ≤ depth then
            walkFrom steps (close (node :: opened)) (read + 1) true
          else
            walkFrom (children.map (.read · (depth + 1)) ++ .close :: steps) (node :: opened)
              (read + 1) truncated
termination_by (max opts.maxNodes 1 - read, steps.length)

def walk (root : ρ) : Except A11yError (SourceNode × Bool) :=
  walkFrom bus opts [.read root 0] [] 0 false

end Walk

/-! ## The tree that a bus shows -/

mutual

/-- The element of a reference, with everything below it, is this tree. -/
def Shows {ρ : Type u} {α : Type v} (bus : Bus ρ α) : SourceNode → ρ → Prop
  | ⟨role, name, description, value, states, bounds, actions, handle, children⟩, reference =>
    ∃ address references, bus.address reference = some address ∧
      bus.readElement address =
        .ok (⟨role, name, description, value, states, bounds, actions, handle, []⟩, references) ∧
      ShowsAll bus children references

def ShowsAll {ρ : Type u} {α : Type v} (bus : Bus ρ α) : List SourceNode → List ρ → Prop
  | [], references => references = []
  | child :: rest, references =>
    ∃ first more, references = first :: more ∧ Shows bus child first ∧ ShowsAll bus rest more

end

section Simulation

variable {ρ : Type u} {α : Type v} {bus : Bus ρ α} {opts : SourceOptions}

theorem shows_iff (node : SourceNode) (reference : ρ) :
    Shows bus node reference ↔ ∃ address references, bus.address reference = some address ∧
      bus.readElement address = .ok (bare node, references) ∧
      ShowsAll bus node.children references := by
  cases node
  exact Iff.rfl

theorem shows_all_empty {nodes : List SourceNode} {references : List ρ}
    (shown : ShowsAll bus nodes references) : references.isEmpty = nodes.isEmpty := by
  cases nodes with
  | nil =>
    rw [show references = [] from shown]
    rfl
  | cons child rest =>
    obtain ⟨first, more, rfl, -, -⟩ := shown
    rfl

theorem finish_close (opened : List SourceNode) (truncated : Bool) :
    finish (close opened) truncated = finish opened truncated := by
  cases opened with
  | nil => rfl
  | cons done rest => cases rest <;> rfl

/-- Once the budget is spent and the flag is up, the walk only folds what is open. -/
theorem walk_from_spent {read : ℕ} (spent : max opts.maxNodes 1 ≤ read) (steps : List (Step ρ))
    (opened : List SourceNode) : walkFrom bus opts steps opened read true = finish opened true := by
  induction steps generalizing opened with
  | nil => rw [walkFrom]
  | cons step steps ih =>
    cases step with
    | close => rw [walkFrom, ih, finish_close]
    | read reference depth => rw [walkFrom, if_pos spent]

theorem trim_left_le (opts : SourceOptions) :
    (∀ node depth remaining truncated,
      (trimNode opts depth remaining truncated node).2.1 ≤ remaining) ∧
    ∀ nodes depth remaining truncated,
      (trimNodes opts depth remaining truncated nodes).2.1 ≤ remaining := by
  have nodes_le := fun nodes depth remaining truncated =>
    ((trim_trimmed opts).2 nodes 0 depth remaining truncated).allowed
  refine ⟨?_, fun nodes depth remaining truncated => ?_⟩
  · intro node depth remaining truncated
    have below := nodes_le node.children (depth + 1) (remaining - 1) truncated
    rw [trim_node_eq]
    split
    · exact Nat.sub_le _ _
    · show (trimNodes _ _ _ _ _).2.1 ≤ _
      omega
  · have below := nodes_le nodes depth remaining truncated
    omega

/-- The walk of a subtree, and of the children of an open node, is their trim. -/
theorem walk_simulates :
    (∀ node depth reference steps opened read remaining truncated, Shows bus node reference →
      read + remaining = max opts.maxNodes 1 → 0 < remaining →
      walkFrom bus opts (.read reference depth :: steps) opened read truncated =
        walkFrom bus opts steps
          (close ((trimNode opts depth remaining truncated node).1 :: opened))
          (max opts.maxNodes 1 - (trimNode opts depth remaining truncated node).2.1)
          (trimNode opts depth remaining truncated node).2.2) ∧
    ∀ nodes depth references steps parent opened read remaining truncated,
      ShowsAll bus nodes references → read + remaining = max opts.maxNodes 1 →
      walkFrom bus opts (references.map (.read · depth) ++ steps) (parent :: opened) read
          truncated =
        walkFrom bus opts steps
          (withChildren parent (parent.children ++
            (trimNodes opts depth remaining truncated nodes).1) :: opened)
          (max opts.maxNodes 1 - (trimNodes opts depth remaining truncated nodes).2.1)
          (trimNodes opts depth remaining truncated nodes).2.2 := by
  apply tree_induction
  case nil =>
    intro depth references steps parent opened read remaining truncated shown counted
    have known : max opts.maxNodes 1 - remaining = read := by omega
    rw [show references = [] from shown, trimNodes, List.append_nil, with_children_self, known]
    rfl
  case cons =>
    intro child rest child_ih rest_ih depth references steps parent opened read remaining truncated
      shown counted
    obtain ⟨first, more, rfl, shown_first, shown_more⟩ := shown
    rw [List.map_cons, List.cons_append]
    rcases Nat.eq_zero_or_pos remaining with rfl | positive
    · have spent : max opts.maxNodes 1 ≤ read := counted.ge
      rw [trimNodes, if_pos rfl, Nat.sub_zero, List.append_nil, with_children_self,
        walk_from_spent (Nat.le_refl _), walkFrom, if_pos spent]
    · have fewer := (trim_left_le opts).1 child depth remaining truncated
      have counted_later : max opts.maxNodes 1 -
          (trimNode opts depth remaining truncated child).2.1 +
          (trimNode opts depth remaining truncated child).2.1 = max opts.maxNodes 1 := by omega
      rw [child_ih depth first _ _ read remaining truncated shown_first counted positive, trimNodes,
        if_neg positive.ne', close,
        rest_ih depth more steps _ opened _ _ _ shown_more counted_later]
      show walkFrom bus opts steps
        (withChildren parent (parent.children ++ [_] ++ _) :: opened) _ _ = _
      rw [List.append_assoc]
      rfl
  case node =>
    intro node ih depth reference steps opened read remaining truncated shown counted positive
    obtain ⟨address, references, addressed, answered, shown_children⟩ :=
      (shows_iff node reference).mp shown
    have allowed : ¬max opts.maxNodes 1 ≤ read := by omega
    have next : max opts.maxNodes 1 - (remaining - 1) = read + 1 := by omega
    rw [walkFrom, if_neg allowed, addressed]
    simp only [answered]
    rw [trim_node_eq, shows_all_empty shown_children]
    by_cases bound : opts.maxDepth ≤ depth
    · rw [if_pos bound, if_pos bound, next]
      cases node.children.isEmpty with
      | true => rw [if_pos rfl, Bool.not_true, Bool.or_false]
      | false => rw [if_neg Bool.false_ne_true, Bool.not_false, Bool.or_true]
    · rw [if_neg bound, if_neg bound]
      cases leaf : node.children.isEmpty with
      | true =>
        rw [List.isEmpty_iff.mp leaf, trimNodes, if_pos rfl, next]
        rfl
      | false =>
        rw [if_neg Bool.false_ne_true,
          ih (depth + 1) references (.close :: steps) (bare node) opened (read + 1) (remaining - 1)
            truncated shown_children (by omega), walkFrom]
        rfl

/-! ## The agreement -/

/-- The walk of the bus and the trim of the fixture give the same tree and flag: the one tree whose
nodes are the first, in pre-order, of the tree down to the depth bound, flagged when a node was
lost. -/
theorem walk_trims (tree : SourceNode) (root : ρ) (opts : SourceOptions)
    (shown : Shows bus tree root) :
    walk bus opts root = .ok (trim tree opts) ∧
      (∀ kept, kept = (trim tree opts).1 ↔
        outline 0 kept = (outline 0 (limited opts.maxDepth tree)).take (max 1 opts.maxNodes)) ∧
      ((trim tree opts).2 = true ↔ size (trim tree opts).1 < size tree) := by
  have positive : 0 < max opts.maxNodes 1 := by omega
  have trimmed := (trim_trimmed opts).1 tree 0 0 (max opts.maxNodes 1) false positive
  refine ⟨?_, fun kept => ?_, ?_⟩
  · rw [walk, walk_simulates.1 tree 0 root [] [] 0 (max opts.maxNodes 1) false shown
      (Nat.zero_add _) positive, walkFrom]
    rfl
  · have first : outline 0 (trim tree opts).1 = _ := trimmed.first
    rw [Nat.max_comm 1, show (outline 0 (limited opts.maxDepth tree)).take _ = _ from first.symm]
    exact ⟨congrArg (outline 0), outline_injective⟩
  · have flagged := trimmed.flagged
    rw [or_iff_right Bool.false_ne_true] at flagged
    exact flagged

end Simulation

/-- A bus whose elements are numbered. -/
def numbered (elements : List (SourceNode × List ℕ)) : Bus ℕ ℕ where
  address := some
  readElement number :=
    match elements[number]? with
    | some element => .ok element
    | none => .error (.backend "reading an accessible role")

/-- An element with nothing but a role and a handle. -/
def plain (role : String) (handle : String) (children : List SourceNode) : SourceNode :=
  ⟨role, "", none, none, [], none, [], ⟨handle⟩, children⟩

/-- A frame of a label, and of a panel with a button. -/
def frame : SourceNode :=
  plain "frame" "0" [plain "label" "1" [], plain "panel" "2" [plain "button" "3" []]]

def frameBus : Bus ℕ ℕ :=
  numbered [(plain "frame" "0" [], [1, 2]), (plain "label" "1" [], []),
    (plain "panel" "2" [], [3]), (plain "button" "3" [], [])]

theorem frame_shown : Shows frameBus frame 0 :=
  ⟨0, [1, 2], rfl, rfl, 1, [2], rfl, ⟨1, [], rfl, rfl, rfl⟩, 2, [], rfl,
    ⟨2, [3], rfl, rfl, 3, [], rfl, ⟨3, [], rfl, rfl, rfl⟩, rfl⟩, rfl⟩

/-- Of three nodes that are allowed the button is lost. -/
theorem walk_trims_frame :
    walk frameBus ⟨12, 3⟩ 0 = .ok (plain "frame" "0" [plain "label" "1" [], plain "panel" "2" []],
      true) :=
  (walk_trims frame 0 ⟨12, 3⟩ frame_shown).1

end ADesk.A11y.Walk
