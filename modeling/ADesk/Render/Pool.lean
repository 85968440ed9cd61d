/- ADesk/Render/Pool
   digest: Idle render targets are reused by captures, none of which sees what was in its target. -/

import Mathlib.Data.List.Perm.Basic
import ADesk.Foundation.Execution
import ADesk.Render.Pipeline

set_option autoImplicit false

namespace ADesk.Render.Pool

open ADesk.Compositor.Command (CompositorError)
open ADesk.Core.Geometry
open ADesk.Core.Image
open ADesk.Foundation.Execution
open ADesk.Render.Pipeline
open ADesk.Server.Failures (RenderError)

universe u

/-! ## The pool -/

/-- Removes an element and puts the last one in its place. -/
def swapRemove {α : Type u} (list : List α) (index : ℕ) : List α :=
  match list.getLast? with
  | some last => (list.set index last).dropLast
  | none => []

theorem swap_remove_perm {α : Type u} {list : List α} {index : ℕ} (inside : index < list.length) :
    list.Perm (list[index] :: swapRemove list index) := by
  rcases List.eq_nil_or_concat list with rfl | ⟨front, last, rfl⟩
  · cases inside
  · simp only [List.concat_eq_append] at inside ⊢
    unfold swapRemove
    rw [List.getLast?_concat]
    dsimp only
    by_cases final : index < front.length
    · rw [List.getElem_append_left final, List.set_append_left _ _ final, List.dropLast_concat]
      have moved : (front.set index last).Perm (last :: front.eraseIdx index) :=
        List.set_perm_cons_eraseIdx final last
      have taken : (front[index] :: front.eraseIdx index).Perm front :=
        List.getElem_cons_eraseIdx_perm final
      exact (List.perm_append_singleton last front).trans <| (taken.symm.cons last).trans <|
        (List.Perm.swap _ _ _).trans (moved.symm.cons _)
    · have last_place : index = front.length := by
        rw [List.length_append, List.length_singleton] at inside
        omega
      subst last_place
      rw [List.getElem_concat_length rfl, List.set_append_right _ _ (Nat.le_refl _), Nat.sub_self]
      simp

def maxPooledTargets : ℕ := 4

/-- The idle targets: at most one of a size, and only so many. -/
structure TargetPool where
  idle : List OffscreenTarget
  distinct : (idle.map OffscreenTarget.coreSize).Nodup
  bounded : idle.length ≤ maxPooledTargets

namespace TargetPool

def new : TargetPool := ⟨[], List.nodup_nil, Nat.zero_le _⟩

/-- Takes the idle target of the size. -/
def take (pool : TargetPool) (size : Size) : Option (OffscreenTarget × TargetPool) :=
  match found : pool.idle.findIdx? fun target => target.coreSize = size with
  | none => none
  | some index =>
    have inside : index < pool.idle.length := (List.findIdx?_eq_some_iff_findIdx_eq.mp found).1
    some (pool.idle[index], ⟨swapRemove pool.idle index,
      (List.nodup_cons.mp ((swap_remove_perm inside).map _ |>.nodup_iff.mp pool.distinct)).2, by
        have same := (swap_remove_perm inside).length_eq
        have bounded := pool.bounded
        rw [List.length_cons] at same
        omega⟩)

/-- Keeps the target unless there is one of its size, or the pool is full. -/
def release (pool : TargetPool) (target : OffscreenTarget) : TargetPool :=
  if known : pool.idle.any fun pooled => pooled.coreSize = target.coreSize then pool
  else if room : pool.idle.length < maxPooledTargets then
    ⟨pool.idle ++ [target], by
      rw [List.map_append, List.map_singleton]
      refine List.nodup_append.mpr ⟨pool.distinct, List.nodup_singleton _, ?_⟩
      intro size member other single same
      obtain ⟨pooled, inside, rfl⟩ := List.mem_map.mp member
      rw [List.mem_singleton.mp single] at same
      exact known (List.any_eq_true.mpr ⟨pooled, inside, decide_eq_true same⟩), by
      rw [List.length_append, List.length_singleton]
      omega⟩
  else pool

end TargetPool

/-! ## Captures -/

/-- The renderer's side of the compositor: the pool, and how many targets were allocated so far. -/
structure Backend where
  pool : TargetPool
  allocated : ℕ

def Backend.new : Backend := ⟨.new, 0⟩

variable {E : Type u}

/-- Allocates a target; sizes that are no `i32` saturate. -/
def createTarget (renderer : Renderer E) (failure : Option String) (number : ℕ) (size : Size) :
    Except RenderError OffscreenTarget :=
  if size.w = 0 ∨ size.h = 0 then
    .error (.targetCreation
      s!"{sizeDebug size}: a {sizeDebug size} render target cannot be allocated")
  else match failure with
  | some text => .error (.targetCreation s!"{sizeDebug size}: {text}")
  | none => .ok ⟨number, min size.w i32Max, min size.h i32Max, renderer.fresh number⟩

/-- An idle target of the size, or a new one. -/
def acquire (renderer : Renderer E) (failure : Option String) (backend : Backend) (size : Size) :
    Except RenderError (OffscreenTarget × Backend) :=
  match backend.pool.take size with
  | some (target, pool) => .ok (target, { backend with pool })
  | none =>
    match createTarget renderer failure backend.allocated size with
    | .error error => .error error
    | .ok target => .ok (target, { backend with allocated := backend.allocated + 1 })

/-- The error that the compositor answers with. -/
def renderError (error : RenderError) : CompositorError :=
  match error with
  | .invalidConfig _ | .invalidImage _ => .invalidRequest error.display.toList
  | _ => .render error.display.toList

/-- The compositor keeps the code of every error that the pipeline can meet. -/
theorem render_error_code (error : RenderError) (pipeline : ∀ reason, error ≠ .encode reason) :
    (renderError error).code = error.code := by
  cases error with
  | encode reason => exact absurd rfl (pipeline reason)
  | _ => rfl

/-- The frame that a capture is answered with. -/
structure CapturedFrame where
  image : ImageBuffer
  commitSeq : ℕ
  damage : List Rect

/-- A capture, with the failures that the renderer meets when it allocates and in the pass. -/
structure Capture (E : Type u) where
  scene : Scene E
  config : RenderConfig
  failure : Option String
  faults : Faults

/-- Renders into a pooled target, which is kept only when that succeeds. -/
def renderSceneFrame (renderer : Renderer E) (backend : Backend) (capture : Capture E) :
    Option (Except CompositorError CapturedFrame × Backend) :=
  match capture.config.validate with
  | .error error => some (.error (renderError error), backend)
  | .ok () =>
    match acquire renderer capture.failure backend capture.config.targetSize with
    | .error error => some (.error (renderError error), backend)
    | .ok (target, backend) =>
      match renderScene renderer capture.faults target capture.scene capture.config with
      | none => none
      | some (.error error) => some (.error (renderError error), backend)
      | some (.ok (frame, target)) =>
        some (.ok ⟨frame.image, frame.commitSeq, frame.damage.simplified⟩,
          { backend with pool := backend.pool.release target })

/-- The compositor's captures, one after the other. -/
def captureMachine (renderer : Renderer E) : Machine Backend (Capture E) where
  init := .new
  step backend capture := (renderSceneFrame renderer backend capture).map Prod.snd

/-- The fields of the configuration are of the types of the source. -/
def typedCapture (_ : Backend) (capture : Capture E) : Prop := capture.config.Typed

/-! ## What a capture finds -/

theorem take_some {pool rest : TargetPool} {size : Size} {target : OffscreenTarget}
    (taken : pool.take size = some (target, rest)) :
    target.coreSize = size ∧ pool.idle.Perm (target :: rest.idle) := by
  unfold TargetPool.take at taken
  split at taken
  · cases taken
  · next index found =>
    have inside : index < pool.idle.length := (List.findIdx?_eq_some_iff_findIdx_eq.mp found).1
    cases taken
    refine ⟨?_, swap_remove_perm inside⟩
    obtain ⟨_, same, -⟩ := List.findIdx?_eq_some_iff_getElem.mp found
    exact of_decide_eq_true same

theorem take_none {pool : TargetPool} {size : Size} (missed : pool.take size = none) :
    ∀ target ∈ pool.idle, target.coreSize ≠ size := by
  unfold TargetPool.take at missed
  split at missed
  · next found =>
    intro target member same
    have other := List.findIdx?_eq_none_iff.mp found target member
    rw [same, decide_eq_true rfl] at other
    cases other
  · cases missed

/-- A target holds a whole picture. -/
def Complete (renderer : Renderer E) (target : OffscreenTarget) : Prop :=
  ∃ (scene : Scene E) (config : RenderConfig), target.coreSize = config.targetSize ∧
    ∀ x y : ℕ, x < config.source.w → y < config.source.h →
      target.contents x y = painted renderer scene config x y

/-- A size that a renderer can allocate. -/
structure Allocatable (target : OffscreenTarget) : Prop where
  width : 0 < target.w
  height : 0 < target.h
  wide : target.w ≤ i32Max
  tall : target.h ≤ i32Max

/-- What holds of the pool at all times, besides what it carries itself. -/
structure Sound (renderer : Renderer E) (backend : Backend) : Prop where
  numbered : ∀ target ∈ backend.pool.idle, target.number < backend.allocated
  once : (backend.pool.idle.map OffscreenTarget.number).Nodup
  allocatable : ∀ target ∈ backend.pool.idle, Allocatable target
  complete : ∀ target ∈ backend.pool.idle, Complete renderer target

variable {renderer : Renderer E}

/-- A target that is handed out is no longer in the pool, under its number or its size. -/
structure Leased (renderer : Renderer E) (target : OffscreenTarget) (size : Size)
    (backend : Backend) : Prop where
  sound : Sound renderer backend
  allocatable : Allocatable target
  width : target.w = min (size.w : ℤ) i32Max
  height : target.h = min (size.h : ℤ) i32Max
  numbered : target.number < backend.allocated
  alone : ∀ other ∈ backend.pool.idle, other.number ≠ target.number ∧ other.coreSize ≠ size

theorem acquire_leased {failure : Option String} {backend after : Backend} {size : Size}
    {target : OffscreenTarget} (sound : Sound renderer backend)
    (acquired : acquire renderer failure backend size = .ok (target, after)) :
    Leased renderer target size after := by
  unfold acquire at acquired
  split at acquired
  · next target rest taken =>
    cases acquired
    obtain ⟨same, perm⟩ := take_some taken
    have kept : ∀ other ∈ rest.idle, other ∈ backend.pool.idle := fun other member =>
      perm.mem_iff.mpr (List.mem_cons_of_mem _ member)
    have here : target ∈ backend.pool.idle := perm.mem_iff.mpr List.mem_cons_self
    obtain ⟨apart, once⟩ := List.nodup_cons.mp ((perm.map _).nodup_iff.mp sound.once)
    obtain ⟨sized, -⟩ := List.nodup_cons.mp ((perm.map _).nodup_iff.mp backend.pool.distinct)
    have allocatable := sound.allocatable target here
    obtain ⟨width, height, wide, tall⟩ := allocatable
    have across : target.w.toNat = size.w := congrArg Size.w same
    have down : target.h.toNat = size.h := congrArg Size.h same
    exact {
      sound := {
        numbered := fun other member => sound.numbered other (kept other member)
        once := once
        allocatable := fun other member => sound.allocatable other (kept other member)
        complete := fun other member => sound.complete other (kept other member) }
      allocatable := ⟨width, height, wide, tall⟩
      width := by omega
      height := by omega
      numbered := sound.numbered target here
      alone := fun other member =>
        ⟨fun equal => apart (List.mem_map.mpr ⟨other, member, equal⟩),
          fun equal => sized (List.mem_map.mpr ⟨other, member, equal.trans same.symm⟩)⟩ }
  · next missed =>
    split at acquired
    · cases acquired
    · next fresh created =>
      cases acquired
      unfold createTarget at created
      split at created
      · cases created
      · next filled =>
        split at created
        · cases created
        · cases created
          have most : 0 < i32Max := by decide
          exact {
            sound := {
              numbered := fun other member =>
                Nat.lt_succ_of_lt (sound.numbered other member)
              once := sound.once
              allocatable := sound.allocatable
              complete := sound.complete }
            allocatable := by constructor <;> dsimp only <;> omega
            width := rfl
            height := rfl
            numbered := Nat.lt_succ_self _
            alone := fun other member =>
              ⟨fun equal => Nat.lt_irrefl _ (equal ▸ sound.numbered other member),
                take_none missed other member⟩ }

/-- What a released target does to the pool. -/
theorem release_idle (pool : TargetPool) (target : OffscreenTarget) :
    (pool.release target).idle = pool.idle ++ [target] ∨
      (pool.release target).idle = pool.idle ∧
        ((∃ pooled ∈ pool.idle, pooled.coreSize = target.coreSize) ∨
          pool.idle.length = maxPooledTargets) := by
  unfold TargetPool.release
  split
  · next known =>
    obtain ⟨pooled, member, same⟩ := List.any_eq_true.mp known
    exact Or.inr ⟨rfl, Or.inl ⟨pooled, member, of_decide_eq_true same⟩⟩
  · split
    · exact Or.inl rfl
    · next full =>
      have bounded := pool.bounded
      exact Or.inr ⟨rfl, Or.inr (by omega)⟩

theorem Sound.released {backend : Backend} {target : OffscreenTarget} {size : Size}
    (leased : Leased renderer target size backend) {kept : OffscreenTarget}
    (number : kept.number = target.number) (allocatable : Allocatable kept)
    (complete : Complete renderer kept) :
    Sound renderer { backend with pool := backend.pool.release kept } := by
  obtain ⟨sound, -, -, -, numbered, alone⟩ := leased
  rcases release_idle backend.pool kept with added | ⟨same, -⟩
  · have members : ∀ other ∈ (backend.pool.release kept).idle,
        other ∈ backend.pool.idle ∨ other = kept := by
      intro other member
      rw [added] at member
      simpa using member
    constructor
    · intro other member
      rcases members other member with old | rfl
      · exact sound.numbered other old
      · exact number ▸ numbered
    · dsimp only
      rw [added, List.map_append, List.map_singleton]
      refine List.nodup_append.mpr ⟨sound.once, List.nodup_singleton _, ?_⟩
      intro first old second new equal
      obtain ⟨other, member, rfl⟩ := List.mem_map.mp old
      rw [List.mem_singleton.mp new, number] at equal
      exact (alone other member).1 equal
    · intro other member
      rcases members other member with old | rfl
      · exact sound.allocatable other old
      · exact allocatable
    · intro other member
      rcases members other member with old | rfl
      · exact sound.complete other old
      · exact complete
  · constructor
    · exact fun other member => sound.numbered other (same ▸ member)
    · exact same.symm ▸ sound.once
    · exact fun other member => sound.allocatable other (same ▸ member)
    · exact fun other member => sound.complete other (same ▸ member)

/-- The target that a pass leaves behind is the one it was given, with the picture of the scene. -/
theorem rendered_kept (documented : renderer.Documented) {faults : Faults}
    {target kept : OffscreenTarget} (allocatable : Allocatable target) {scene : Scene E}
    {config : RenderConfig} (typed : config.Typed) {frame : RenderedFrame}
    (rendered : renderScene renderer faults target scene config = some (.ok (frame, kept))) :
    kept.number = target.number ∧ kept.coreSize = config.targetSize ∧ Allocatable kept ∧
      Complete renderer kept := by
  have shown := render_scene_shows documented allocatable.wide allocatable.tall typed rendered
  obtain ⟨-, -, contents, -, -, -, -, -, -, -, -, rfl⟩ := render_scene_ok.mp rendered
  obtain ⟨width, height, wide, tall⟩ := allocatable
  exact ⟨rfl, shown.kept.1, ⟨width, height, wide, tall⟩, scene, config, shown.kept.1, shown.kept.2⟩

theorem Sound.step (documented : renderer.Documented) {backend after : Backend}
    {capture : Capture E} (sound : Sound renderer backend) (typed : capture.config.Typed)
    {result : Except CompositorError CapturedFrame}
    (ran : renderSceneFrame renderer backend capture = some (result, after)) :
    Sound renderer after := by
  unfold renderSceneFrame at ran
  split at ran
  · cases ran
    exact sound
  · split at ran
    · cases ran
      exact sound
    · next target leasing acquired =>
      have leased := acquire_leased sound acquired
      split at ran
      · cases ran
      · cases ran
        exact leased.sound
      · next frame kept rendered =>
        cases ran
        obtain ⟨number, -, allocatable, complete⟩ :=
          rendered_kept documented leased.allocatable typed rendered
        exact Sound.released leased number allocatable complete

theorem sound_inductive (documented : renderer.Documented) :
    Inductive (captureMachine renderer) typedCapture (Sound renderer) where
  start := ⟨fun _ none => absurd none List.not_mem_nil, List.nodup_nil,
    fun _ none => absurd none List.not_mem_nil, fun _ none => absurd none List.not_mem_nil⟩
  next := by
    intro backend after capture sound typed taken
    obtain ⟨⟨result, last⟩, ran, rfl⟩ := Option.map_eq_some_iff.mp taken
    exact sound.step documented typed ran

/-! ## Reuse -/

/-- A pass fails with every target of a size alike, or gets one frame from all of them. -/
theorem render_scene_same (documented : renderer.Documented) (faults : Faults) (scene : Scene E)
    {config : RenderConfig} (typed : config.Typed) {w h : ℤ} (wide : w ≤ i32Max)
    (tall : h ≤ i32Max) :
    (∃ error, ∀ number contents,
      renderScene renderer faults ⟨number, w, h, contents⟩ scene config = some (.error error)) ∨
    ∃ frame, ∀ number contents, ∃ kept,
      renderScene renderer faults ⟨number, w, h, contents⟩ scene config =
        some (.ok (frame, kept)) := by
  rcases valid : config.validate with error | _
  · refine Or.inl ⟨error, fun number contents => ?_⟩
    unfold renderScene
    rw [valid]
  by_cases size : (⟨w.toNat, h.toNat⟩ : Size) = config.targetSize
  · obtain ⟨⟨width, height⟩, -⟩ := validated typed valid
    have fields : w.toNat = config.source.w ∧ h.toNat = config.source.h := Size.mk.inj size
    have across : w = config.source.w := by omega
    have down : h = config.source.h := by omega
    rw [across, down]
    rcases render_scene_spec documented faults scene typed (across ▸ wide) (down ▸ tall) with
      fails | ⟨frame, renders⟩
    · exact Or.inl fails
    · refine Or.inr ⟨frame, fun number contents => ?_⟩
      obtain ⟨drawn, ran⟩ := renders number contents
      exact ⟨_, ran⟩
  · unfold renderScene
    simp only [valid, OffscreenTarget.coreSize, ne_eq, size, not_false_eq_true, if_true]
    exact Or.inl ⟨_, fun _ _ => rfl⟩

/-- Whether a target can be allocated does not depend on how many there were before. -/
theorem create_target_spec (failure : Option String) (size : Size) :
    (∃ error, ∀ number, createTarget renderer failure number size = .error error) ∨
      (0 < size.w ∧ 0 < size.h) ∧ ∀ number, createTarget renderer failure number size =
        .ok ⟨number, min size.w i32Max, min size.h i32Max, renderer.fresh number⟩ := by
  unfold createTarget
  split
  · exact Or.inl ⟨_, fun _ => rfl⟩
  · next filled =>
    cases failure with
    | none => exact Or.inr ⟨by omega, fun _ => rfl⟩
    | some text => exact Or.inl ⟨_, fun _ => rfl⟩

theorem acquire_missed {failure : Option String} {backend : Backend} {size : Size}
    {target : OffscreenTarget} (missed : backend.pool.take size = none)
    (created : createTarget renderer failure backend.allocated size = .ok target) :
    acquire renderer failure backend size =
      .ok (target, { backend with allocated := backend.allocated + 1 }) := by
  unfold acquire
  rw [missed]
  dsimp only
  rw [created]

/-- The capture, which does not meet a failure to allocate where it finds an idle target. -/
def spared (backend : Backend) (capture : Capture E) : Capture E :=
  if (backend.pool.take capture.config.targetSize).isSome then { capture with failure := none }
  else capture

/-- Whatever was captured before, and whatever failed in it, a capture is answered as it would be
with a target that is allocated for it. -/
theorem pooled_as_fresh (documented : renderer.Documented) {backend : Backend}
    (reached : Reachable (captureMachine renderer) typedCapture backend) (capture : Capture E)
    (typed : capture.config.Typed) :
    ∃ result after fresh,
      renderSceneFrame renderer backend capture = some (result, after) ∧
        renderSceneFrame renderer .new (spared backend capture) = some (result, fresh) := by
  have sound := (sound_inductive documented).holds reached
  obtain ⟨scene, config, failure, faults⟩ := capture
  dsimp only at typed
  -- Two targets of one size, which both captures render into.
  have pass : ∀ pooled target allocation other used unused, Allocatable target →
      acquire renderer failure pooled config.targetSize = .ok (target, used) →
      acquire renderer allocation .new config.targetSize = .ok (other, unused) →
      target.w = other.w → target.h = other.h →
      ∃ result after fresh,
        renderSceneFrame renderer pooled ⟨scene, config, failure, faults⟩ = some (result, after) ∧
          renderSceneFrame renderer .new ⟨scene, config, allocation, faults⟩ =
            some (result, fresh) := by
    intro pooled target allocation other used unused allocatable acquired allocated sameW sameH
    obtain ⟨number, w, h, contents⟩ := target
    obtain ⟨otherNumber, otherW, otherH, otherContents⟩ := other
    dsimp only at sameW sameH
    subst sameW sameH
    unfold renderSceneFrame
    rcases config.validate with error | _
    · exact ⟨_, _, _, rfl, rfl⟩
    dsimp only
    rw [acquired, allocated]
    dsimp only
    rcases render_scene_same documented faults scene typed allocatable.wide allocatable.tall with
      ⟨error, fails⟩ | ⟨frame, renders⟩
    · rw [fails, fails]
      exact ⟨_, _, _, rfl, rfl⟩
    · obtain ⟨kept, ran⟩ := renders number contents
      obtain ⟨otherKept, otherRan⟩ := renders otherNumber otherContents
      rw [ran, otherRan]
      exact ⟨_, _, _, rfl, rfl⟩
  unfold spared
  rcases found : backend.pool.take config.targetSize with _ | ⟨target, rest⟩
  · rw [if_neg (by simp)]
    rcases create_target_spec failure config.targetSize with ⟨error, fails⟩ | ⟨some_pixels, creates⟩
    · have refused : ∀ pooled : Backend, pooled.pool.take config.targetSize = none →
          acquire renderer failure pooled config.targetSize = .error error := by
        intro pooled missed
        unfold acquire
        rw [missed]
        dsimp only
        rw [fails]
      unfold renderSceneFrame
      rcases config.validate with error | _
      · exact ⟨_, _, _, rfl, rfl⟩
      · dsimp only
        rw [refused backend found, refused .new rfl]
        exact ⟨_, _, _, rfl, rfl⟩
    · have acquired := acquire_missed found (creates backend.allocated)
      have allocated : acquire renderer failure .new config.targetSize = _ :=
        acquire_missed rfl (creates 0)
      have leased := acquire_leased sound acquired
      exact pass backend _ failure _ _ _ leased.allocatable acquired allocated rfl rfl
  · have acquired : acquire renderer failure backend config.targetSize =
        .ok (target, { backend with pool := rest }) := by
      unfold acquire
      rw [found]
    have leased := acquire_leased sound acquired
    obtain ⟨width, height⟩ := leased.allocatable
    have some_pixels : ¬(config.targetSize.w = 0 ∨ config.targetSize.h = 0) := by
      have across := leased.width
      have down := leased.height
      have most : 0 < i32Max := by decide
      omega
    rcases create_target_spec none config.targetSize with ⟨error, fails⟩ | ⟨-, creates⟩
    · have fails := fails 0
      unfold createTarget at fails
      rw [if_neg some_pixels] at fails
      cases fails
    · have allocated : acquire renderer none .new config.targetSize = _ :=
        acquire_missed rfl (creates 0)
      exact pass backend _ none _ _ _ leased.allocatable acquired allocated leased.width
        leased.height

def cornerCapture (failure : Option String) : Capture Tile :=
  ⟨cornerScene, cornerConfig, failure, fun _ => none⟩

theorem corner_allowed : typedCapture .new (cornerCapture none) := corner_typed

/-- A capture that could not allocate, after one of the same size. -/
theorem pooled_as_fresh_hit :
    ∃ backend, (captureMachine flat).step .new (cornerCapture none) = some backend ∧
      ∃ result after fresh,
        renderSceneFrame flat backend (cornerCapture (some "out of memory")) =
          some (result, after) ∧
        renderSceneFrame flat .new (spared backend (cornerCapture (some "out of memory"))) =
          some (result, fresh) :=
  ⟨_, rfl, pooled_as_fresh flat_documented (.next .start corner_allowed rfl) _ corner_typed⟩

/-! ## The pool over whole runs -/

/-- What a capture does to the pool. -/
structure Settles (capture : Capture E) (backend : Backend)
    (result : Except CompositorError CapturedFrame) (after : Backend) : Prop where
  -- Only a pass that succeeds leaves its target behind.
  failed : ∀ error, result = .error error →
    (∀ target ∈ after.pool.idle, target ∈ backend.pool.idle) ∧
      (after.pool.idle = backend.pool.idle ∨
        ∀ target ∈ after.pool.idle, target.coreSize ≠ capture.config.targetSize)
  rendered : ∀ frame, result = .ok frame →
    (∃ target ∈ after.pool.idle, target.coreSize = capture.config.targetSize) ∨
      after.pool.idle.length = maxPooledTargets

/-- In every run of captures the pool holds at most four targets, of different sizes, each of them
once and with a whole picture in it; a failed pass drops its target. -/
theorem pool_sound (documented : renderer.Documented) {backend : Backend}
    (reached : Reachable (captureMachine renderer) typedCapture backend) :
    (backend.pool.idle.length ≤ 4 ∧ (backend.pool.idle.map OffscreenTarget.coreSize).Nodup ∧
      Sound renderer backend) ∧
    ∀ (capture : Capture E), capture.config.Typed → ∀ result after,
      renderSceneFrame renderer backend capture = some (result, after) →
        Settles capture backend result after := by
  have sound := (sound_inductive documented).holds reached
  refine ⟨⟨backend.pool.bounded, backend.pool.distinct, sound⟩, ?_⟩
  intro capture typed result after ran
  unfold renderSceneFrame at ran
  split at ran
  · cases ran
    exact ⟨fun _ _ => ⟨fun _ member => member, Or.inl rfl⟩, fun _ ok => by cases ok⟩
  · split at ran
    · cases ran
      exact ⟨fun _ _ => ⟨fun _ member => member, Or.inl rfl⟩, fun _ ok => by cases ok⟩
    · next target leasing acquired =>
      have leased := acquire_leased sound acquired
      split at ran
      · cases ran
      · cases ran
        refine ⟨fun _ _ => ⟨?_, Or.inr fun other member => (leased.alone other member).2⟩,
          fun _ ok => by cases ok⟩
        intro other member
        unfold acquire at acquired
        split at acquired
        · next taken =>
          cases acquired
          exact (take_some taken).2.mem_iff.mpr (List.mem_cons_of_mem _ member)
        · split at acquired
          · cases acquired
          · cases acquired
            exact member
      · next frame kept rendered =>
        cases ran
        refine ⟨fun _ fails => (by cases fails), fun _ _ => ?_⟩
        obtain ⟨-, size, -, -⟩ := rendered_kept documented leased.allocatable typed rendered
        rcases release_idle leasing.pool kept with added | ⟨same, known | full⟩
        · refine Or.inl ⟨kept, ?_, size⟩
          dsimp only
          rw [added]
          exact List.mem_append_right _ (List.mem_singleton.mpr rfl)
        · obtain ⟨pooled, member, equal⟩ := known
          exact absurd (equal.trans size) (leased.alone pooled member).2
        · refine Or.inr ?_
          dsimp only
          rw [same, full]

theorem pool_sound_hit :
    ∃ backend, (captureMachine flat).step .new (cornerCapture none) = some backend ∧
      (backend.pool.idle.length ≤ 4 ∧ (backend.pool.idle.map OffscreenTarget.coreSize).Nodup ∧
        Sound flat backend) ∧
      ∀ (capture : Capture Tile), capture.config.Typed → ∀ result after,
        renderSceneFrame flat backend capture = some (result, after) →
          Settles capture backend result after :=
  ⟨_, rfl, pool_sound flat_documented (.next .start corner_allowed rfl)⟩

end ADesk.Render.Pool
