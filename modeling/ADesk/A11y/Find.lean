/- ADesk/A11y/Find
   digest: The bounded pre-order search of a backend tree. -/

import ADesk.A11y.Source
import Mathlib.Data.List.Infix

set_option autoImplicit false

namespace ADesk.A11y.Find

open ADesk.A11y.Source

structure NodeQuery where
  role : Option String
  name : Option String
  nameContains : Option String
  valueContains : Option String
  maxResults : ℕ

/-- A match and the names of its ancestors from the root. -/
structure NodeMatch where
  node : SourceNode
  path : List String

/-- `lowercase` stands for the Unicode lowercasing of the standard library. -/
def containsIgnoreCase (lowercase : String → String) (haystack needle : String) : Bool :=
  needle.isEmpty || decide ((lowercase needle).toList <:+: (lowercase haystack).toList)

def matchesNode (lowercase : String → String) (node : SourceNode) (query : NodeQuery) : Bool :=
  query.role.all (fun role => node.role == role) &&
    query.name.all (fun name => node.name == name) &&
    query.nameContains.all (containsIgnoreCase lowercase node.name) &&
    query.valueContains.all (fun needle =>
      node.value.any (fun value => containsIgnoreCase lowercase value needle))

/-- The matches collected so far and whether one more was left out. -/
structure Collected where
  hits : List NodeMatch
  truncated : Bool

mutual

/-- The node itself, then its children in order; nothing once a match was left out. -/
def walk (lowercase : String → String) (query : NodeQuery) (maxResults : ℕ) (path : List String)
    (found : Collected) : SourceNode → Collected
  | ⟨role, name, description, value, states, bounds, actions, handle, children⟩ =>
    let node : SourceNode :=
      ⟨role, name, description, value, states, bounds, actions, handle, children⟩
    if found.truncated then found
    else if matchesNode lowercase node query then
      if found.hits.length < maxResults then
        walkChildren lowercase query maxResults (path ++ [name])
          { found with hits := found.hits ++ [⟨node, path⟩] } children
      else { found with truncated := true }
    else walkChildren lowercase query maxResults (path ++ [name]) found children

def walkChildren (lowercase : String → String) (query : NodeQuery) (maxResults : ℕ)
    (path : List String) (found : Collected) : List SourceNode → Collected
  | [] => found
  | child :: rest =>
    let after := walk lowercase query maxResults path found child
    if after.truncated then after
    else walkChildren lowercase query maxResults path after rest

end

def collectMatches (lowercase : String → String) (root : SourceNode) (query : NodeQuery)
    (maxResults : ℕ) : Collected :=
  walk lowercase query maxResults [] ⟨[], false⟩ root

mutual

/-- Every new hit is a node of the subtree. -/
theorem walk_inside (lowercase : String → String) (query : NodeQuery) (maxResults : ℕ)
    (path : List String) (found : Collected) (node : SourceNode) (hit : NodeMatch)
    (member : hit ∈ (walk lowercase query maxResults path found node).hits) :
    hit ∈ found.hits ∨ hit.node.handle ∈ node.handles := by
  cases node with
  | mk role name description value states bounds actions handle children =>
    simp only [walk] at member
    rw [SourceNode.handles, List.mem_cons]
    split at member
    · exact Or.inl member
    · split at member
      · split at member
        · -- The node matches: it is collected before its children are.
          rcases walk_children_inside lowercase query maxResults (path ++ [name]) _ children hit
            member with before | below
          · rcases List.mem_append.mp before with old | itself
            · exact Or.inl old
            · rw [List.mem_singleton.mp itself]
              exact Or.inr (Or.inl rfl)
          · exact Or.inr (Or.inr below)
        · exact Or.inl member
      · rcases walk_children_inside lowercase query maxResults (path ++ [name]) _ children hit
          member with before | below
        · exact Or.inl before
        · exact Or.inr (Or.inr below)

theorem walk_children_inside (lowercase : String → String) (query : NodeQuery) (maxResults : ℕ)
    (path : List String) (found : Collected) (nodes : List SourceNode) (hit : NodeMatch)
    (member : hit ∈ (walkChildren lowercase query maxResults path found nodes).hits) :
    hit ∈ found.hits ∨ hit.node.handle ∈ childHandles nodes := by
  cases nodes with
  | nil => exact Or.inl member
  | cons child rest =>
    simp only [walkChildren] at member
    rw [childHandles, List.mem_append]
    split at member
    · rcases walk_inside lowercase query maxResults path found child hit member with old | inside
      · exact Or.inl old
      · exact Or.inr (Or.inl inside)
    · rcases walk_children_inside lowercase query maxResults path _ rest hit member with
        before | later
      · rcases walk_inside lowercase query maxResults path found child hit before with
          old | inside
        · exact Or.inl old
        · exact Or.inr (Or.inl inside)
      · exact Or.inr (Or.inr later)

end

theorem collect_inside {lowercase : String → String} {root : SourceNode} {query : NodeQuery}
    {maxResults : ℕ} {hit : NodeMatch}
    (member : hit ∈ (collectMatches lowercase root query maxResults).hits) :
    hit.node.handle ∈ root.handles :=
  (walk_inside lowercase query maxResults [] ⟨[], false⟩ root hit member).resolve_left
    List.not_mem_nil

end ADesk.A11y.Find
