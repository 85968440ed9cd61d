/- ADesk/Foundation/Layers
   digest: Pictures that are made of layers, each a shape of one colour, blended bottom to top. -/

import Mathlib.Data.List.Basic

set_option autoImplicit false

namespace ADesk.Foundation.Layers

universe u v w

/-- A shape of points, all of one colour. -/
structure Layer (P : Type u) (K : Type v) where
  shape : P → Bool
  color : K

variable {P : Type u} {K : Type v} {C : Type w}

/-- What a point shows with the layers over it. -/
def laid (blend : K → C → C) (layers : List (Layer P K)) (point : P) (under : C) : C :=
  layers.foldl (fun shown layer =>
    if layer.shape point then blend layer.color shown else shown) under

/-- The layer, confined to a shape. -/
def Layer.within (clip : P → Bool) (layer : Layer P K) : Layer P K :=
  ⟨fun point => clip point && layer.shape point, layer.color⟩

/-- The pieces as one shape. -/
def union (pieces : List (P → Bool)) (point : P) : Bool := pieces.any fun piece => piece point

/-- No point is in two pieces. -/
def Apart (pieces : List (P → Bool)) : Prop :=
  pieces.Pairwise fun first second => ∀ point, first point = true → second point = false

variable {blend : K → C → C} {layers : List (Layer P K)} {point : P} {under : C}

theorem laid_append (first second : List (Layer P K)) :
    laid blend (first ++ second) point under =
      laid blend second point (laid blend first point under) :=
  List.foldl_append

theorem laid_hit {layer : Layer P K} (inside : layer.shape point = true) :
    laid blend (layer :: layers) point under =
      laid blend layers point (blend layer.color under) :=
  congrArg (laid blend layers point) (if_pos inside)

theorem laid_miss {layer : Layer P K} (outside : layer.shape point = false) :
    laid blend (layer :: layers) point under = laid blend layers point under :=
  congrArg (laid blend layers point) (if_neg (ne_true_of_eq_false outside))

/-- A point outside all shapes shows what is under them. -/
theorem laid_outside (outside : ∀ layer ∈ layers, layer.shape point = false) :
    laid blend layers point under = under := by
  induction layers with
  | nil => rfl
  | cons layer layers ih =>
    have first := outside layer List.mem_cons_self
    have rest := ih fun other member => outside other (List.mem_cons_of_mem _ member)
    rw [laid_miss first, rest]

/-- Confined layers show inside the shape what they show without it. -/
theorem laid_within (clip : P → Bool) :
    laid blend (layers.map (Layer.within clip)) point under =
      if clip point then laid blend layers point under else under := by
  induction layers generalizing under with
  | nil => exact (ite_self under).symm
  | cons layer layers ih =>
    have shape : (layer.within clip).shape point = (clip point && layer.shape point) := rfl
    rw [List.map_cons]
    cases inside : clip point with
    | false =>
      rw [inside, Bool.false_and] at shape
      rw [laid_miss shape, ih, inside]
      exact if_neg (by decide)
    | true =>
      rw [inside, Bool.true_and] at shape
      have confined : ∀ {under : C}, laid blend (layers.map (Layer.within clip)) point under =
          laid blend layers point under := by
        intro under
        rw [ih, inside]
        exact if_pos rfl
      refine Eq.trans ?_ (if_pos rfl).symm
      cases drawn : layer.shape point with
      | false => rw [laid_miss (shape.trans drawn), laid_miss drawn, confined]
      | true =>
        rw [laid_hit (shape.trans drawn), laid_hit drawn, confined]
        rfl

/-- Points that the shapes treat alike show the same. -/
theorem laid_congr {others : List (Layer P K)}
    (alike : List.Forall₂ (fun one other => one.shape point = other.shape point ∧
      one.color = other.color) layers others) :
    laid blend layers point under = laid blend others point under := by
  induction alike generalizing under with
  | nil => rfl
  | @cons layer other layers others first _ ih =>
    obtain ⟨shapes, colors⟩ := first
    cases drawn : layer.shape point with
    | false => rw [laid_miss drawn, laid_miss (shapes.symm.trans drawn), ih]
    | true => rw [laid_hit drawn, laid_hit (shapes.symm.trans drawn), ih, colors]

theorem laid_single {shape other : P → Bool} (color : K) (same : shape point = other point) :
    laid blend [⟨shape, color⟩] point under = laid blend [⟨other, color⟩] point under :=
  laid_congr (List.Forall₂.cons ⟨same, rfl⟩ List.Forall₂.nil)

/-- Pieces that are apart, each drawn on its own, show what their union shows. -/
theorem laid_pieces (color : K) {pieces : List (P → Bool)} (apart : Apart pieces) :
    laid blend (pieces.map fun piece => ⟨piece, color⟩) point under =
      laid blend [⟨union pieces, color⟩] point under := by
  induction pieces generalizing under with
  | nil => rfl
  | cons piece pieces ih =>
    obtain ⟨aside, rest⟩ := List.pairwise_cons.mp apart
    rw [List.map_cons]
    cases inside : piece point with
    | false =>
      have same : union (piece :: pieces) point = union pieces point := by
        rw [union, List.any_cons, inside, Bool.false_or]
        rfl
      rw [laid_miss inside, ih rest, laid_single color same]
    | true =>
      have others : ∀ layer ∈ pieces.map fun piece => (⟨piece, color⟩ : Layer P K),
          layer.shape point = false := by
        intro layer member
        obtain ⟨other, among, rfl⟩ := List.mem_map.mp member
        exact aside other among point inside
      have covered : union (piece :: pieces) point = true := by
        rw [union, List.any_cons, inside, Bool.true_or]
      rw [laid_hit inside, laid_outside others, laid_hit covered]
      rfl

end ADesk.Foundation.Layers
