/- ADesk/A11y/Search
   digest: The bounded search with the path that it pushes and pops collects the first matches in
   pre-order, and says exactly when one was left out. -/

import ADesk.A11y.Find
import ADesk.A11y.Walk

set_option autoImplicit false

namespace ADesk.A11y.Search

open ADesk.A11y.Source
open ADesk.A11y.Find (NodeQuery NodeMatch matchesNode)
open ADesk.A11y.Walk (tree_induction)

/-! ## The search -/

/-- What the recursion changes: the names of the ancestors, the matches, and whether one was left
out. -/
structure Visit where
  path : List String
  hits : List NodeMatch
  truncated : Bool

section Code

variable (lowercase : String → String) (query : NodeQuery) (maxResults : UInt32)

mutual

def walk (visit : Visit) : SourceNode → Visit
  | ⟨role, name, description, value, states, bounds, actions, handle, children⟩ =>
    let node : SourceNode :=
      ⟨role, name, description, value, states, bounds, actions, handle, children⟩
    if visit.truncated then visit
    else if matchesNode lowercase node query then
      -- the number of matches is cut to 32 bits before it is compared
      if UInt32.ofNat visit.hits.length < maxResults then
        descend { visit with hits := visit.hits ++ [⟨node, visit.path⟩] } name children
      else { visit with truncated := true }
    else descend visit name children

/-- The name is pushed for the subtree below the node and popped after it. -/
def descend (visit : Visit) (name : String) (children : List SourceNode) : Visit :=
  let below := walkChildren { visit with path := visit.path ++ [name] } children
  { below with path := below.path.dropLast }

def walkChildren (visit : Visit) : List SourceNode → Visit
  | [] => visit
  | child :: rest =>
    let after := walk visit child
    if after.truncated then after else walkChildren after rest

end

def collectMatches (root : SourceNode) : List NodeMatch × Bool :=
  let visit := walk lowercase query maxResults ⟨[], [], false⟩ root
  (visit.hits, visit.truncated)

end Code

/-! ## All nodes in pre-order -/

mutual

/-- Every node of the subtree with the names of its ancestors, in pre-order. -/
def preorder (path : List String) : SourceNode → List NodeMatch
  | ⟨role, name, description, value, states, bounds, actions, handle, children⟩ =>
    ⟨⟨role, name, description, value, states, bounds, actions, handle, children⟩, path⟩ ::
      preorderAll (path ++ [name]) children

def preorderAll (path : List String) : List SourceNode → List NodeMatch
  | [] => []
  | child :: rest => preorder path child ++ preorderAll path rest

end

theorem preorder_eq (path : List String) (node : SourceNode) :
    preorder path node = ⟨node, path⟩ :: preorderAll (path ++ [node.name]) node.children := by
  cases node with
  | _ => rw [preorder]

/-- The node is reached from the root along ancestors of these names. -/
inductive Reached (root : SourceNode) : List String → SourceNode → Prop
  | root : Reached root [] root
  | child {path : List String} {node child : SourceNode} (above : Reached root path node)
      (member : child ∈ node.children) : Reached root (path ++ [node.name]) child

/-- The listing holds the nodes that are reached, each with its path. -/
theorem preorder_reached {root : SourceNode} :
    (∀ (node : SourceNode) (path : List String), Reached root path node →
      ∀ hit ∈ preorder path node, Reached root hit.path hit.node) ∧
    ∀ (nodes : List SourceNode) (path : List String),
      (∀ node ∈ nodes, Reached root path node) →
      ∀ hit ∈ preorderAll path nodes, Reached root hit.path hit.node := by
  apply tree_induction
  case nil =>
    intro path _ hit member
    rw [preorderAll] at member
    cases member
  case cons =>
    intro child rest child_ih rest_ih path reached hit member
    rw [preorderAll] at member
    rcases List.mem_append.mp member with first | later
    · exact child_ih path (reached child List.mem_cons_self) hit first
    · exact rest_ih path (fun node inside => reached node (List.mem_cons_of_mem _ inside)) hit later
  case node =>
    intro node ih path reached hit member
    rw [preorder_eq] at member
    rcases List.mem_cons.mp member with rfl | below
    · exact reached
    · exact ih _ (fun child inside => reached.child inside) hit below

theorem preorder_all_mem {path : List String} {child : SourceNode} {nodes : List SourceNode}
    (member : child ∈ nodes) {hit : NodeMatch} (listed : hit ∈ preorder path child) :
    hit ∈ preorderAll path nodes := by
  induction nodes with
  | nil => cases member
  | cons first rest ih =>
    rw [preorderAll]
    rcases List.mem_cons.mp member with rfl | later
    · exact List.mem_append_left _ listed
    · exact List.mem_append_right _ (ih later)

/-- What is listed below a listed node is listed. -/
theorem preorder_below {hit : NodeMatch} {child : SourceNode} (member : child ∈ hit.node.children) :
    (∀ (node : SourceNode) (path : List String), hit ∈ preorder path node →
      ⟨child, hit.path ++ [hit.node.name]⟩ ∈ preorder path node) ∧
    ∀ (nodes : List SourceNode) (path : List String), hit ∈ preorderAll path nodes →
      ⟨child, hit.path ++ [hit.node.name]⟩ ∈ preorderAll path nodes := by
  apply tree_induction
  case nil =>
    intro path listed
    rw [preorderAll] at listed
    cases listed
  case cons =>
    intro first rest first_ih rest_ih path listed
    rw [preorderAll] at listed ⊢
    rcases List.mem_append.mp listed with here | later
    · exact List.mem_append_left _ (first_ih path here)
    · exact List.mem_append_right _ (rest_ih path later)
  case node =>
    intro node ih path listed
    rw [preorder_eq] at listed ⊢
    rcases List.mem_cons.mp listed with rfl | below
    · refine List.mem_cons_of_mem _ (preorder_all_mem member ?_)
      rw [preorder_eq]
      exact List.mem_cons_self
    · exact List.mem_cons_of_mem _ (ih _ below)

/-- The listing is complete: it holds exactly the nodes that are reached, with their paths. -/
theorem mem_preorder_iff {root : SourceNode} {hit : NodeMatch} :
    hit ∈ preorder [] root ↔ Reached root hit.path hit.node := by
  constructor
  · exact preorder_reached.1 root [] .root hit
  · intro reached
    obtain ⟨node, path⟩ := hit
    change Reached root path node at reached
    induction reached with
    | root =>
      rw [preorder_eq]
      exact List.mem_cons_self
    | child above member ih => exact (preorder_below member).1 root [] ih

/-! ## What the search keeps -/

section Limit

variable {lowercase : String → String} {query : NodeQuery} {maxResults : UInt32}

/-- The nodes of a list that satisfy every filter of the query. -/
def satisfying (lowercase : String → String) (query : NodeQuery) (nodes : List NodeMatch) :
    List NodeMatch :=
  nodes.filter fun hit => matchesNode lowercase hit.node query

theorem satisfying_append (first second : List NodeMatch) :
    satisfying lowercase query (first ++ second) =
      satisfying lowercase query first ++ satisfying lowercase query second :=
  List.filter_append ..

theorem satisfying_cons (node : SourceNode) (path : List String) (rest : List NodeMatch) :
    satisfying lowercase query (⟨node, path⟩ :: rest) =
      if matchesNode lowercase node query = true then ⟨node, path⟩ :: satisfying lowercase query rest
      else satisfying lowercase query rest :=
  List.filter_cons

/-- The search never holds more than it may, and leaves a match out only when it is full. -/
structure Visit.Bounded (visit : Visit) (limit : ℕ) : Prop where
  most : visit.hits.length ≤ limit
  full : visit.truncated = true → visit.hits.length = limit

/-- The state after the matches were offered one after the other. -/
def Visit.offered (visit : Visit) (limit : ℕ) (found : List NodeMatch) : Visit where
  path := visit.path
  hits := (visit.hits ++ found).take limit
  truncated := visit.truncated || decide (limit < visit.hits.length + found.length)

theorem Visit.Bounded.offered {visit : Visit} {limit : ℕ} (bounded : visit.Bounded limit)
    (found : List NodeMatch) : (visit.offered limit found).Bounded limit where
  most := List.length_take_le _ _
  full truncated := by
    have most := bounded.most
    simp only [Visit.offered, Bool.or_eq_true, decide_eq_true_eq] at truncated
    simp only [Visit.offered, List.length_take, List.length_append]
    rcases truncated with before | more
    · have full := bounded.full before
      omega
    · omega

theorem Visit.offered_nil {visit : Visit} {limit : ℕ} (bounded : visit.Bounded limit) :
    visit.offered limit [] = visit := by
  have most : ¬ limit < visit.hits.length := Nat.not_lt.mpr bounded.most
  simp only [Visit.offered, List.append_nil, List.take_of_length_le bounded.most,
    List.length_nil, Nat.add_zero, most, decide_false, Bool.or_false]

/-- Nothing changes after a match was left out. -/
theorem Visit.offered_full {visit : Visit} {limit : ℕ} (bounded : visit.Bounded limit)
    (truncated : visit.truncated = true) (found : List NodeMatch) :
    visit.offered limit found = visit := by
  obtain ⟨path, hits, flag⟩ := visit
  have full : hits.length = limit := bounded.full truncated
  simp only at truncated
  simp only [Visit.offered, truncated, Bool.true_or, ← full, List.take_left]

theorem Visit.offered_append {visit : Visit} {limit : ℕ} (first second : List NodeMatch) :
    (visit.offered limit first).offered limit second = visit.offered limit (first ++ second) := by
  have hits : ((visit.hits ++ first).take limit ++ second).take limit =
      (visit.hits ++ (first ++ second)).take limit := by
    have whole : (visit.hits ++ first ++ second).take limit =
        (visit.hits ++ first).take limit ++ second.take (limit - (visit.hits ++ first).length) :=
      List.take_append
    rw [← List.append_assoc, whole, List.take_append, List.take_take, Nat.min_self,
      List.length_take]
    congr 2
    omega
  simp only [Visit.offered, hits, List.length_take, List.length_append, Bool.or_assoc,
    ← Bool.decide_or]
  congr 3
  rw [eq_iff_iff]
  omega

theorem walk_eq (visit : Visit) (node : SourceNode) :
    walk lowercase query maxResults visit node =
      if visit.truncated then visit
      else if matchesNode lowercase node query then
        if UInt32.ofNat visit.hits.length < maxResults then
          descend lowercase query maxResults
            { visit with hits := visit.hits ++ [⟨node, visit.path⟩] } node.name node.children
        else { visit with truncated := true }
      else descend lowercase query maxResults visit node.name node.children := by
  cases node with
  | _ => rw [walk]

/-- The 32 bits hold the number of matches at any time. -/
theorem Visit.Bounded.count {visit : Visit} (bounded : visit.Bounded maxResults.toNat) :
    UInt32.ofNat visit.hits.length < maxResults ↔ visit.hits.length < maxResults.toNat := by
  have fits : visit.hits.length < 2 ^ 32 := Nat.lt_of_le_of_lt bounded.most maxResults.toNat_lt
  rw [UInt32.lt_iff_toNat_lt, UInt32.toNat_ofNat_of_lt' fits]

theorem Visit.offered_one {visit : Visit} {limit : ℕ} (hit : NodeMatch)
    (room : visit.hits.length < limit) :
    visit.offered limit [hit] =
      { visit with hits := visit.hits ++ [hit] } := by
  have fits : (visit.hits ++ [hit]).length ≤ limit := by
    rw [List.length_append, List.length_singleton]
    exact room
  have most : ¬ limit < visit.hits.length + 1 := Nat.not_lt.mpr room
  simp only [Visit.offered, List.take_of_length_le fits, List.length_singleton, most, decide_false,
    Bool.or_false]

/-- A match that no longer fits is left out, and with it all that follow. -/
theorem Visit.offered_cons_full {visit : Visit} {limit : ℕ} (full : visit.hits.length = limit)
    (hit : NodeMatch) (later : List NodeMatch) :
    visit.offered limit (hit :: later) = { visit with truncated := true } := by
  subst full
  have more : visit.hits.length < visit.hits.length + (hit :: later).length := by
    rw [List.length_cons]
    omega
  simp only [Visit.offered, more, decide_true, Bool.or_true, List.take_left]

/-- A subtree offers its nodes that satisfy the query, in pre-order, and the path is back to where
it was. -/
theorem walk_offered :
    (∀ (node : SourceNode) (visit : Visit), visit.Bounded maxResults.toNat →
      walk lowercase query maxResults visit node =
        visit.offered maxResults.toNat
          (satisfying lowercase query (preorder visit.path node))) ∧
    ∀ (nodes : List SourceNode) (visit : Visit), visit.Bounded maxResults.toNat →
      walkChildren lowercase query maxResults visit nodes =
        visit.offered maxResults.toNat
          (satisfying lowercase query (preorderAll visit.path nodes)) := by
  apply tree_induction
  case nil =>
    intro visit bounded
    rw [walkChildren, preorderAll]
    exact (Visit.offered_nil bounded).symm
  case cons =>
    intro child rest child_ih rest_ih visit bounded
    have first := child_ih visit bounded
    rw [walkChildren, first, preorderAll, satisfying_append, ← Visit.offered_append]
    cases stopped : (visit.offered maxResults.toNat
        (satisfying lowercase query (preorder visit.path child))).truncated with
    | true => exact (Visit.offered_full (bounded.offered _) stopped _).symm
    | false => exact rest_ih _ (bounded.offered _)
  case node =>
    intro node ih visit bounded
    -- The name is pushed and popped again around the children.
    have below : ∀ entered : Visit, entered.Bounded maxResults.toNat →
        descend lowercase query maxResults entered node.name node.children =
          entered.offered maxResults.toNat (satisfying lowercase query
            (preorderAll (entered.path ++ [node.name]) node.children)) := by
      intro entered sound
      have pushed : Visit.Bounded { entered with path := entered.path ++ [node.name] }
          maxResults.toNat := ⟨sound.most, sound.full⟩
      rw [descend]
      simp only [ih _ pushed, Visit.offered, List.dropLast_concat]
    rw [walk_eq, preorder_eq]
    by_cases stopped : visit.truncated = true
    · rw [if_pos stopped, Visit.offered_full bounded stopped]
    rw [if_neg stopped]
    by_cases wanted : matchesNode lowercase node query = true
    · rw [if_pos wanted, satisfying_cons, if_pos wanted]
      by_cases room : UInt32.ofNat visit.hits.length < maxResults
      · have one := Visit.offered_one ⟨node, visit.path⟩ (bounded.count.mp room)
        rw [if_pos room, ← one, below _ (bounded.offered _), Visit.offered_append,
          List.singleton_append]
        rfl
      · have full : visit.hits.length = maxResults.toNat :=
          Nat.le_antisymm bounded.most (Nat.not_lt.mp fun less => room (bounded.count.mpr less))
        rw [if_neg room, Visit.offered_cons_full full]
    · rw [if_neg wanted, satisfying_cons, if_neg wanted]
      exact below visit bounded

theorem walk_bounded {visit : Visit} (bounded : visit.Bounded maxResults.toNat)
    (node : SourceNode) :
    (walk lowercase query maxResults visit node).Bounded maxResults.toNat := by
  rw [walk_offered.1 node visit bounded]
  exact bounded.offered _

theorem handed_eq (limit : ℕ) (path : List String) (found : Find.Collected) (node : SourceNode) :
    Find.walk lowercase query limit path found node =
      if found.truncated then found
      else if matchesNode lowercase node query then
        if found.hits.length < limit then
          Find.walkChildren lowercase query limit (path ++ [node.name])
            { found with hits := found.hits ++ [⟨node, path⟩] } node.children
        else { found with truncated := true }
      else Find.walkChildren lowercase query limit (path ++ [node.name]) found node.children := by
  cases node with
  | _ => rw [Find.walk]

/-- The search that is handed its path, as the service states it, finds the same. -/
theorem walk_handed :
    (∀ (node : SourceNode) (visit : Visit), visit.Bounded maxResults.toNat →
      Find.walk lowercase query maxResults.toNat visit.path ⟨visit.hits, visit.truncated⟩ node =
        ⟨(walk lowercase query maxResults visit node).hits,
          (walk lowercase query maxResults visit node).truncated⟩) ∧
    ∀ (nodes : List SourceNode) (visit : Visit), visit.Bounded maxResults.toNat →
      Find.walkChildren lowercase query maxResults.toNat visit.path
          ⟨visit.hits, visit.truncated⟩ nodes =
        ⟨(walkChildren lowercase query maxResults visit nodes).hits,
          (walkChildren lowercase query maxResults visit nodes).truncated⟩ := by
  apply tree_induction
  case nil =>
    intro visit bounded
    rw [Find.walkChildren, walkChildren]
  case cons =>
    intro child rest child_ih rest_ih visit bounded
    have sound : (walk lowercase query maxResults visit child).Bounded maxResults.toNat :=
      walk_bounded bounded child
    have same : (walk lowercase query maxResults visit child).path = visit.path := by
      rw [walk_offered.1 child visit bounded]
      rfl
    have later := rest_ih _ sound
    rw [same] at later
    rw [Find.walkChildren, child_ih visit bounded, walkChildren]
    cases stopped : (walk lowercase query maxResults visit child).truncated with
    | true => simp [stopped]
    | false =>
      rw [stopped] at later
      simpa [stopped] using later
  case node =>
    intro node ih visit bounded
    have below : ∀ entered : Visit, entered.Bounded maxResults.toNat →
        Find.walkChildren lowercase query maxResults.toNat (entered.path ++ [node.name])
            ⟨entered.hits, entered.truncated⟩ node.children =
          ⟨(descend lowercase query maxResults entered node.name node.children).hits,
            (descend lowercase query maxResults entered node.name node.children).truncated⟩ := by
      intro entered sound
      have pushed : Visit.Bounded { entered with path := entered.path ++ [node.name] }
          maxResults.toNat := ⟨sound.most, sound.full⟩
      rw [descend]
      exact ih _ pushed
    rw [handed_eq, walk_eq]
    by_cases stopped : visit.truncated = true
    · rw [if_pos stopped, if_pos stopped]
    rw [if_neg stopped, if_neg stopped]
    by_cases wanted : matchesNode lowercase node query = true
    · rw [if_pos wanted, if_pos wanted]
      by_cases room : UInt32.ofNat visit.hits.length < maxResults
      · have entered := bounded.offered [⟨node, visit.path⟩]
        rw [Visit.offered_one _ (bounded.count.mp room)] at entered
        rw [if_pos room, if_pos (bounded.count.mp room)]
        exact below _ entered
      · rw [if_neg room, if_neg fun less => room (bounded.count.mpr less)]
    · rw [if_neg wanted, if_neg wanted]
      exact below visit bounded

end Limit

/-- The search collects the first matches of the listing of all nodes in pre-order, as many as it
may, each with the names of its ancestors, and reports that one was left out exactly when the
listing holds more. -/
theorem collect_matches_first (lowercase : String → String) (root : SourceNode) (query : NodeQuery)
    (maxResults : UInt32) :
    (collectMatches lowercase query maxResults root).1 =
        (satisfying lowercase query (preorder [] root)).take maxResults.toNat ∧
      (∀ hit ∈ (collectMatches lowercase query maxResults root).1,
        Reached root hit.path hit.node ∧ matchesNode lowercase hit.node query = true) ∧
      ((collectMatches lowercase query maxResults root).2 = true ↔
        maxResults.toNat < (satisfying lowercase query (preorder [] root)).length) := by
  have bounded : Visit.Bounded ⟨[], [], false⟩ maxResults.toNat :=
    ⟨Nat.zero_le _, fun truncated => by cases truncated⟩
  have walked : walk lowercase query maxResults ⟨[], [], false⟩ root =
      Visit.offered ⟨[], [], false⟩ maxResults.toNat
        (satisfying lowercase query (preorder [] root)) := walk_offered.1 root _ bounded
  have hits : (collectMatches lowercase query maxResults root).1 =
      (satisfying lowercase query (preorder [] root)).take maxResults.toNat := by
    unfold collectMatches
    rw [walked]
    rfl
  refine ⟨hits, ?_, ?_⟩
  · intro hit member
    rw [hits] at member
    obtain ⟨listed, wanted⟩ := List.mem_filter.mp (List.mem_of_mem_take member)
    exact ⟨mem_preorder_iff.mp listed, wanted⟩
  · unfold collectMatches
    rw [walked]
    simp only [Visit.offered, List.length_nil, Nat.zero_add, Bool.false_or, decide_eq_true_eq]

/-- The service's search for elements starts from the same matches. -/
theorem collect_matches_handed (lowercase : String → String) (root : SourceNode)
    (query : NodeQuery) (maxResults : UInt32) :
    Find.collectMatches lowercase root query maxResults.toNat =
      ⟨(collectMatches lowercase query maxResults root).1,
        (collectMatches lowercase query maxResults root).2⟩ :=
  walk_handed.1 root ⟨[], [], false⟩ ⟨Nat.zero_le _, fun truncated => by cases truncated⟩

end ADesk.A11y.Search
