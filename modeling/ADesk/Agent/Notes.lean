/- ADesk/Agent/Notes
   digest: The notes that the agent loop leaves for the provider, and which of them it sees. -/

import ADesk.Agent.Accounts

set_option autoImplicit false

namespace ADesk.Agent.Notes

open ADesk.Agent.Accounts
open ADesk.Agent.Errors
open ADesk.Agent.Execute (ActionKind Call LoopConfig execute enrichAccessibility observeAfterInput)
open ADesk.Foundation.Execution

universe u

variable {Observation : Type u}

/-! ## Notes -/

def providerText : ProviderError → String
  | .missingApiKey => "missing API key: pass --api-key or set ADESK_AGENT_API_KEY"
  | .transport message => s!"provider transport error: {message}"
  | .status status body => s!"provider returned HTTP {status}: {body}"
  | .timeout millis => s!"provider timed out after {millis} ms"
  | .invalidResponse message => s!"invalid provider response: {message}"

/-- What an error says of itself. -/
def errorText : Error → String
  | .client code message => s!"{code.asStr}: {message}"
  | .provider error => providerText error
  | .transport message => s!"transport error: {message}"
  | .protocolVersion expected got =>
    s!"AGP protocol version mismatch: agent expects {expected}, runtime speaks {got}"
  | .stepBudgetExhausted steps => s!"step budget exhausted after {steps} steps"
  | .failureBudgetExhausted failures =>
    s!"failure budget exhausted after {failures} consecutive failures"
  | .stepTimeout step timeoutMs => s!"step {step} timed out after {timeoutMs} ms"
  | .invalidDecision message => s!"invalid decision: {message}"
  | .io message => message
  | .json message => message

/-- What the loop leaves a note about. -/
inductive Note
  | disabled
  | treeUnavailable
  | searchUnavailable
  | actionUnavailable
  | failed (error : Error)

def Note.text : Note → String
  | .disabled => "accessibility is disabled; set include_accessibility"
  | .treeUnavailable => "accessibility tree unavailable"
  | .searchUnavailable => "find_accessible unavailable"
  | .actionUnavailable => "invoke_accessible_action unavailable"
  | .failed error => errorText error

/-- The note about the error of a step. -/
def Note.ofError : Note → Bool
  | .failed _ => true
  | _ => false

/-- The note about a call that the accessibility backend cannot serve. -/
def unavailable : Call → Note
  | .decided .findAccessible => .searchUnavailable
  | .decided .invokeAccessibleAction => .actionUnavailable
  | _ => .treeUnavailable

/-- The decisions that are not executed while accessibility is off. -/
def gated (config : LoopConfig) (kind : ActionKind) : Bool :=
  kind ∈ [.accessibilityTree, .findAccessible, .invokeAccessibleAction] &&
    !config.includeAccessibility

/-! ## The loop -/

/-- The loop with what it keeps for the next context. -/
structure Noting (Observation : Type u) where
  loop : AgentLoop Observation
  lastError : Option String
  -- History: `last_error` of the contexts that the provider was handed, and every note that was
  -- left, with the number of contexts before it.
  handed : List (Option String)
  left : List (ℕ × Note)

namespace Noting

def new : Noting Observation := ⟨.new, none, [], []⟩

def leave (n : Noting Observation) (note : Note) : Noting Observation :=
  { n with lastError := some note.text, left := n.left ++ [(n.handed.length, note)] }

/-- What recording a step does to the note. -/
def recordStep (n : Noting Observation) : Option Error → Noting Observation
  | none => { n with lastError := none }
  | some error => n.leave (.failed error)

/-- The loop goes on; a context that it builds shows the note. -/
def goOn (n : Noting Observation) (loop : AgentLoop Observation) : Noting Observation :=
  { n with
    loop := loop
    handed := n.handed ++
      List.replicate (loop.contexts.length - n.loop.contexts.length) n.lastError }

end Noting

/-- A loop whose run ended in an error can be run again. -/
def rested (loop : AgentLoop Observation) : AgentLoop Observation :=
  match loop.phase with
  | .failed _ => { loop with phase := .idle }
  | _ => loop

inductive Label (Observation : Type u)
  | run
  | giveUp (error : Error)
  | decide (kind : ActionKind) (latencyMs : ℕ)
  | answer (answer : Answer Observation)
  -- The accessibility backend cannot serve the call.
  | degrade (error : Error)
  | fail (error : Error)

def step (setup : Setup) (n : Noting Observation) : Label Observation → Option (Noting Observation)
  | .run => (Accounts.step setup (rested n.loop) .run).map n.goOn
  | .giveUp error => (Accounts.step setup n.loop (.giveUp error)).map n.goOn
  | .decide kind latencyMs =>
    (Accounts.step setup n.loop (.decide kind latencyMs)).map
      (if gated setup.config kind then (n.leave .disabled).recordStep none else n).goOn
  | .answer answer =>
    match n.loop.phase with
    | .calling _ _ _ rest _ _ =>
      (Accounts.step setup n.loop (.answer answer)).map
        (if rest.isEmpty then n.recordStep none else n).goOn
    | _ => none
  | .degrade error =>
    match n.loop.phase with
    | .calling _ _ call rest _ _ =>
      if call.degrades && isAccessibilityUnavailable error then
        let noted := n.leave (unavailable call)
        (Accounts.step setup n.loop (.answer .plain)).map
          (if rest.isEmpty then noted.recordStep none else noted).goOn
      else none
    | _ => none
  | .fail error =>
    match n.loop.phase with
    | .calling _ _ _ _ retry _ =>
      (Accounts.step setup n.loop (.fail error)).map
        (if error.class = .retryable ∧ retry < setup.config.retriesPerStep then n
          else n.recordStep (some error)).goOn
    | _ => none

def machine (Observation : Type u) (setup : Setup) :
    Machine (Noting Observation) (Label Observation) :=
  ⟨.new, step setup⟩

/-- Every note is shown by the next context that the provider is handed, and kept until then. -/
def Seen (n : Noting Observation) : Prop :=
  ∀ noted ∈ n.left, n.handed[noted.1]? = some (some noted.2.text) ∨
    noted.1 = n.handed.length ∧ n.lastError = some noted.2.text

/-- No decision asks for accessibility while it is off, and no call of a step finds the backend
unable to serve it. -/
def quiet (setup : Setup) (_ : Noting Observation) : Label Observation → Prop
  | .decide kind _ => gated setup.config kind = false
  | .degrade _ => False
  | .run | .giveUp _ | .answer _ | .fail _ => True

instance (setup : Setup) (n : Noting Observation) (label : Label Observation) :
    Decidable (quiet setup n label) :=
  match label with
  | .decide kind _ => inferInstanceAs (Decidable (gated setup.config kind = false))
  | .degrade _ => inferInstanceAs (Decidable False)
  | .run | .giveUp _ | .answer _ | .fail _ => inferInstanceAs (Decidable True)

/-! ## What becomes of a note -/

/-- The `last_error` that the next context shows: the recorded success of the step takes every note
away but that about an error. -/
def Note.fate (note : Note) : Option String := if note.ofError then some note.text else none

/-- No step is under way. -/
def resting : Phase Observation → Bool
  | .idle | .failed _ => true
  | .deciding | .calling .. => false

def Shown (n : Noting Observation) (noted : ℕ × Note) : Prop :=
  n.handed[noted.1]? = some noted.2.fate

def Due (n : Noting Observation) (noted : ℕ × Note) : Prop :=
  noted.1 = n.handed.length ∧ n.lastError = noted.2.fate

/-- The calls that the backend can be unable to serve come last. -/
def degradesLast : List Call → Bool
  | [] => true
  | call :: rest => (!call.degrades || rest.isEmpty) && degradesLast rest

/-- The calls at hand of a loop, the one that is made first. -/
def atHand : Phase Observation → List Call
  | .calling _ _ call rest _ _ => call :: rest
  | .idle | .deciding | .failed _ => []

/-- Every note is shown as its fate has it, or will be when the next run begins. -/
structure Fated (n : Noting Observation) : Prop where
  notes : ∀ noted ∈ n.left, Shown n noted ∨ resting n.loop.phase = true ∧ Due n noted
  last : degradesLast (atHand n.loop.phase) = true

theorem execute_degrades_last (config : LoopConfig) (kind : ActionKind) :
    degradesLast (execute config kind) = true := by
  cases kind <;> simp only [execute, observeAfterInput, enrichAccessibility]
  all_goals repeat' split
  all_goals rfl

/-- A step that ends hands out a context, unless the run ends with it. -/
def Ended (before after : AgentLoop Observation) : Prop :=
  before.contexts.length < after.contexts.length ∨ resting after.phase = true

theorem begin_ended (setup : Setup) {before a : AgentLoop Observation}
    (same : a.contexts = before.contexts) : Ended before (a.beginStep setup) := by
  unfold AgentLoop.beginStep
  split
  · left
    simp [same]
  · right
    rfl

theorem begin_at_hand (setup : Setup) (a : AgentLoop Observation) :
    atHand (a.beginStep setup).phase = [] := by
  unfold AgentLoop.beginStep
  split <;> rfl

theorem advance_at_hand (setup : Setup) (a : AgentLoop Observation) (kind : ActionKind)
    (latencyMs : ℕ) (execution : Execution Observation) (calls : List Call) :
    atHand (a.advance setup kind latencyMs execution calls).phase = calls := by
  cases calls with
  | nil => exact begin_at_hand setup _
  | cons call rest => rfl

theorem advance_ended (setup : Setup) {before a : AgentLoop Observation}
    (same : a.contexts = before.contexts) (kind : ActionKind) (latencyMs : ℕ)
    (execution : Execution Observation) :
    Ended before (a.advance setup kind latencyMs execution []) :=
  begin_ended setup same

theorem abandon_ended (setup : Setup) {before a : AgentLoop Observation}
    (same : a.contexts = before.contexts) (kind : ActionKind) (latencyMs : ℕ)
    (execution : Execution Observation) (error : Error) :
    Ended before (a.abandon setup kind latencyMs execution error) ∧
      atHand (a.abandon setup kind latencyMs execution error).phase = [] := by
  unfold AgentLoop.abandon
  dsimp only
  split
  · exact ⟨Or.inr rfl, rfl⟩
  · split
    · exact ⟨Or.inr rfl, rfl⟩
    · exact ⟨begin_ended setup same, begin_at_hand setup _⟩

theorem go_on_fated {n : Noting Observation} {loop : AgentLoop Observation}
    (notes : ∀ noted ∈ n.left, Shown n noted ∨ Due n noted ∧ Ended n.loop loop)
    (last : degradesLast (atHand loop.phase) = true) : Fated (n.goOn loop) := by
  refine ⟨fun noted member => ?_, last⟩
  unfold Noting.goOn Shown Due
  dsimp only
  rcases notes noted member with shown | ⟨⟨next, kept⟩, ended⟩
  · exact Or.inl (List.getElem?_append_left (List.getElem?_eq_some_iff.mp shown).1 ▸ shown)
  · cases grown : loop.contexts.length - n.loop.contexts.length with
    | zero =>
      refine Or.inr ⟨ended.resolve_left (by omega), ?_, kept⟩
      simpa using next
    | succ more =>
      left
      rw [next, kept, List.getElem?_append_right (Nat.le_refl _), Nat.sub_self]
      rfl

/-- While a step is under way, no note is due. -/
theorem Fated.shown {n : Noting Observation} (fated : Fated n)
    (busy : resting n.loop.phase = false) : ∀ noted ∈ n.left, Shown n noted := by
  intro noted member
  refine (fated.notes noted member).resolve_right fun due => ?_
  rw [busy] at due
  exact absurd due.1 Bool.false_ne_true

/-- A note that the step leaves last is due with its fate. -/
theorem due_after {n : Noting Observation} (noted : Noting Observation)
    (shown : ∀ entry ∈ n.left, Shown n entry)
    {note : Note} (left : noted.left = n.left ++ [(n.handed.length, note)])
    (handed : noted.handed = n.handed) (kept : noted.lastError = note.fate) :
    ∀ entry ∈ noted.left, Shown noted entry ∨ Due noted entry := by
  intro entry member
  unfold Shown Due
  rw [handed]
  rw [left] at member
  rcases List.mem_append.mp member with old | new
  · exact Or.inl (shown entry old)
  · rw [List.mem_singleton.mp new]
    exact Or.inr ⟨rfl, kept⟩

/-! ## The steps of the loop -/

section Steps

variable {setup : Setup} {a after : AgentLoop Observation}

theorem run_step (taken : Accounts.step setup a .run = some after) :
    Ended a after ∧ atHand after.phase = [] := by
  cases phase : a.phase with
  | idle =>
    simp only [Accounts.step, phase] at taken
    cases taken
    exact ⟨begin_ended setup rfl, begin_at_hand setup _⟩
  | deciding => simp [Accounts.step, phase] at taken
  | calling => simp [Accounts.step, phase] at taken
  | failed => simp [Accounts.step, phase] at taken

theorem give_up_step {error : Error} (taken : Accounts.step setup a (.giveUp error) = some after) :
    resting a.phase = false ∧ atHand after.phase = [] := by
  cases phase : a.phase with
  | deciding =>
    simp only [Accounts.step, phase] at taken
    cases taken
    exact ⟨rfl, rfl⟩
  | idle => simp [Accounts.step, phase] at taken
  | calling => simp [Accounts.step, phase] at taken
  | failed => simp [Accounts.step, phase] at taken

theorem decide_step {kind : ActionKind} {latencyMs : ℕ}
    (taken : Accounts.step setup a (.decide kind latencyMs) = some after) :
    resting a.phase = false ∧ atHand after.phase = execute setup.config kind ∧
      (execute setup.config kind = [] → Ended a after) := by
  cases phase : a.phase with
  | deciding =>
    simp only [Accounts.step, phase] at taken
    split at taken
    · next finishing =>
      cases taken
      subst finishing
      exact ⟨rfl, rfl, fun _ => Or.inr rfl⟩
    · cases taken
      refine ⟨rfl, advance_at_hand setup _ kind latencyMs _ _, fun nothing => ?_⟩
      rw [nothing]
      exact advance_ended setup (by rfl) kind latencyMs _
  | idle => simp [Accounts.step, phase] at taken
  | calling => simp [Accounts.step, phase] at taken
  | failed => simp [Accounts.step, phase] at taken

theorem answer_step {kind : ActionKind} {latencyMs retry : ℕ} {call : Call} {rest : List Call}
    {execution : Execution Observation} {answer : Answer Observation}
    (phase : a.phase = .calling kind latencyMs call rest retry execution)
    (taken : Accounts.step setup a (.answer answer) = some after) :
    atHand after.phase = rest ∧ (rest = [] → Ended a after) := by
  simp only [Accounts.step, phase] at taken
  split at taken
  · cases taken
    refine ⟨advance_at_hand setup _ kind latencyMs _ rest, fun nothing => ?_⟩
    rw [nothing]
    refine advance_ended setup ?_ kind latencyMs _
    cases answer <;> rfl
  · cases taken

theorem fail_step {kind : ActionKind} {latencyMs retry : ℕ} {call : Call} {rest : List Call}
    {execution : Execution Observation} {error : Error}
    (phase : a.phase = .calling kind latencyMs call rest retry execution)
    (taken : Accounts.step setup a (.fail error) = some after) :
    if error.class = .retryable ∧ retry < setup.config.retriesPerStep then
      atHand after.phase = call :: rest
    else Ended a after ∧ atHand after.phase = [] := by
  simp only [Accounts.step, phase] at taken
  split at taken
  · cases taken
  · split at taken
    · next again =>
      cases taken
      rw [if_pos again]
      rfl
    · next ends =>
      cases taken
      rw [if_neg ends]
      exact abandon_ended setup (by rfl) kind latencyMs _ error

end Steps

/-! ## The steps of the notes -/

section Cases

variable {setup : Setup} {n after : Noting Observation}

theorem answer_cases {answer : Answer Observation}
    (taken : step setup n (.answer answer) = some after) :
    ∃ kind latencyMs call rest retry execution loop,
      n.loop.phase = .calling kind latencyMs call rest retry execution ∧
        Accounts.step setup n.loop (.answer answer) = some loop ∧
        after = (if rest.isEmpty then n.recordStep none else n).goOn loop := by
  cases phase : n.loop.phase with
  | calling kind latencyMs call rest retry execution =>
    simp only [step, phase] at taken
    obtain ⟨loop, moved, rfl⟩ := Option.map_eq_some_iff.mp taken
    exact ⟨kind, latencyMs, call, rest, retry, execution, loop, rfl, moved, rfl⟩
  | idle => simp [step, phase] at taken
  | deciding => simp [step, phase] at taken
  | failed => simp [step, phase] at taken

theorem degrade_cases {error : Error} (taken : step setup n (.degrade error) = some after) :
    ∃ kind latencyMs call rest retry execution loop,
      n.loop.phase = .calling kind latencyMs call rest retry execution ∧
        call.degrades = true ∧ Accounts.step setup n.loop (.answer .plain) = some loop ∧
        after = (if rest.isEmpty then (n.leave (unavailable call)).recordStep none
          else n.leave (unavailable call)).goOn loop := by
  cases phase : n.loop.phase with
  | calling kind latencyMs call rest retry execution =>
    simp only [step, phase] at taken
    split at taken
    · next degrades =>
      obtain ⟨loop, moved, rfl⟩ := Option.map_eq_some_iff.mp taken
      exact ⟨kind, latencyMs, call, rest, retry, execution, loop, rfl,
        (Bool.and_eq_true_iff.mp degrades).1, moved, rfl⟩
    · cases taken
  | idle => simp [step, phase] at taken
  | deciding => simp [step, phase] at taken
  | failed => simp [step, phase] at taken

theorem fail_cases {error : Error} (taken : step setup n (.fail error) = some after) :
    ∃ kind latencyMs call rest retry execution loop,
      n.loop.phase = .calling kind latencyMs call rest retry execution ∧
        Accounts.step setup n.loop (.fail error) = some loop ∧
        after = (if error.class = .retryable ∧ retry < setup.config.retriesPerStep then n
          else n.recordStep (some error)).goOn loop := by
  cases phase : n.loop.phase with
  | calling kind latencyMs call rest retry execution =>
    simp only [step, phase] at taken
    obtain ⟨loop, moved, rfl⟩ := Option.map_eq_some_iff.mp taken
    exact ⟨kind, latencyMs, call, rest, retry, execution, loop, rfl, moved, rfl⟩
  | idle => simp [step, phase] at taken
  | deciding => simp [step, phase] at taken
  | failed => simp [step, phase] at taken

end Cases

theorem gated_execute {config : LoopConfig} {kind : ActionKind} (off : gated config kind = true) :
    execute config kind = [] := by
  unfold gated at off
  obtain ⟨asks, closed⟩ := Bool.and_eq_true_iff.mp off
  have disabled : config.includeAccessibility = false := by simpa using closed
  have member : kind ∈ [ActionKind.accessibilityTree, .findAccessible, .invokeAccessibleAction] :=
    of_decide_eq_true asks
  simp only [List.mem_cons, List.not_mem_nil, or_false] at member
  rcases member with rfl | rfl | rfl <;> simp [execute, disabled]

theorem unavailable_not_error (call : Call) : (unavailable call).ofError = false := by
  unfold unavailable
  split <;> rfl

theorem unavailable_fate (call : Call) : (unavailable call).fate = none := by
  unfold Note.fate
  rw [unavailable_not_error, if_neg Bool.false_ne_true]

theorem fated_step {setup : Setup} {n after : Noting Observation} {label : Label Observation}
    (fated : Fated n) (taken : step setup n label = some after) : Fated after := by
  cases label with
  | run =>
    obtain ⟨loop, moved, rfl⟩ := Option.map_eq_some_iff.mp taken
    obtain ⟨ended, nothing⟩ := run_step moved
    refine go_on_fated (fun noted member => ?_) (by rw [nothing]; rfl)
    rcases fated.notes noted member with shown | ⟨_, due⟩
    · exact Or.inl shown
    · refine Or.inr ⟨due, ?_⟩
      have same : (rested n.loop).contexts = n.loop.contexts := by
        unfold rested
        split <;> rfl
      unfold Ended at ended ⊢
      rwa [same] at ended
  | giveUp error =>
    obtain ⟨loop, moved, rfl⟩ := Option.map_eq_some_iff.mp taken
    obtain ⟨busy, nothing⟩ := give_up_step moved
    exact go_on_fated (fun noted member => Or.inl (fated.shown busy noted member))
      (by rw [nothing]; rfl)
  | decide kind latencyMs =>
    obtain ⟨loop, moved, rfl⟩ := Option.map_eq_some_iff.mp taken
    obtain ⟨busy, calls, ended⟩ := decide_step moved
    have last : degradesLast (atHand loop.phase) = true := by
      rw [calls]
      exact execute_degrades_last setup.config kind
    split
    · next off =>
      have due := due_after ((n.leave .disabled).recordStep none) (fated.shown busy) rfl rfl rfl
      refine go_on_fated (fun noted member => ?_) last
      exact (due noted member).imp_right fun due => ⟨due, ended (gated_execute off)⟩
    · exact go_on_fated (fun noted member => Or.inl (fated.shown busy noted member)) last
  | answer answer =>
    obtain ⟨_, _, call, rest, _, _, loop, phase, moved, rfl⟩ := answer_cases taken
    obtain ⟨calls, _⟩ := answer_step phase moved
    have shown := fated.shown (by rw [phase]; rfl)
    have order := fated.last
    rw [phase] at order
    have last : degradesLast (atHand loop.phase) = true := by
      rw [calls]
      exact (Bool.and_eq_true_iff.mp order).2
    split
    · exact go_on_fated (fun noted member => Or.inl (shown noted member)) last
    · exact go_on_fated (fun noted member => Or.inl (shown noted member)) last
  | degrade error =>
    obtain ⟨_, _, call, rest, _, _, loop, phase, degrades, moved, rfl⟩ := degrade_cases taken
    obtain ⟨calls, ended⟩ := answer_step phase moved
    have shown := fated.shown (by rw [phase]; rfl)
    have order := fated.last
    rw [phase] at order
    have final : rest = [] := by
      have closing := (Bool.and_eq_true_iff.mp order).1
      simpa [degrades] using closing
    subst final
    have due := due_after ((n.leave (unavailable call)).recordStep none) shown rfl rfl
      (unavailable_fate call).symm
    refine go_on_fated (fun noted member => ?_) (by rw [calls]; rfl)
    exact (due noted member).imp_right fun due => ⟨due, ended rfl⟩
  | fail error =>
    obtain ⟨_, _, call, rest, _, _, loop, phase, moved, rfl⟩ := fail_cases taken
    have went := fail_step phase moved
    have shown := fated.shown (by rw [phase]; rfl)
    split
    · next again =>
      rw [if_pos again] at went
      refine go_on_fated (fun noted member => Or.inl (shown noted member)) ?_
      have order := fated.last
      rw [phase] at order
      rw [went]
      exact order
    · next ends =>
      rw [if_neg ends] at went
      have due := due_after (n.recordStep (some error)) shown rfl rfl rfl
      refine go_on_fated (fun noted member => ?_) (by rw [went.2]; rfl)
      exact (due noted member).imp_right fun due => ⟨due, went.1⟩

theorem fated_reachable {setup : Setup} {n : Noting Observation}
    (reached : Reachable (machine Observation setup) anyStep n) : Fated n := by
  have always : Inductive (machine Observation setup) anyStep Fated :=
    ⟨⟨fun _ member => absurd member List.not_mem_nil, rfl⟩, fun fated _ taken =>
      fated_step fated taken⟩
  exact always.holds reached

/-! ## Which notes are seen -/

/-- The notes are about errors. -/
def OfErrors (left : List (ℕ × Note)) : Prop := ∀ noted ∈ left, noted.2.ofError = true

/-- A quiet step leaves notes about errors only, and every other one a note about accessibility. -/
theorem step_left {setup : Setup} {n after : Noting Observation} {label : Label Observation}
    (taken : step setup n label = some after) :
    OfErrors after.left ↔ OfErrors n.left ∧ quiet setup n label := by
  have one : ∀ (place : ℕ) (note : Note), OfErrors (n.left ++ [(place, note)]) ↔
      OfErrors n.left ∧ note.ofError = true := by
    intro place note
    unfold OfErrors
    simp [or_imp, forall_and]
  cases label with
  | run =>
    obtain ⟨loop, moved, rfl⟩ := Option.map_eq_some_iff.mp taken
    exact (and_iff_left trivial).symm
  | giveUp error =>
    obtain ⟨loop, moved, rfl⟩ := Option.map_eq_some_iff.mp taken
    exact (and_iff_left trivial).symm
  | decide kind latencyMs =>
    obtain ⟨loop, moved, rfl⟩ := Option.map_eq_some_iff.mp taken
    split
    · next off =>
      refine (one _ _).trans (and_congr_right fun _ => ?_)
      simp [quiet, off, Note.ofError]
    · next on =>
      have silent : gated setup.config kind = false := by simpa using on
      exact (and_iff_left silent).symm
  | answer answer =>
    obtain ⟨_, _, call, rest, _, _, loop, _, _, rfl⟩ := answer_cases taken
    split <;> exact (and_iff_left trivial).symm
  | degrade error =>
    obtain ⟨_, _, call, rest, _, _, loop, _, _, _, rfl⟩ := degrade_cases taken
    have lost : ¬ OfErrors (n.leave (unavailable call)).left := by
      intro all
      have error := ((one _ _).mp all).2
      rw [unavailable_not_error] at error
      exact Bool.false_ne_true error
    split <;> exact iff_of_false lost fun quiet => quiet.2
  | fail error =>
    obtain ⟨_, _, call, rest, _, _, loop, _, _, rfl⟩ := fail_cases taken
    split
    · exact (and_iff_left trivial).symm
    · exact (one _ _).trans (and_congr_right fun _ => iff_of_true rfl trivial)

theorem errors_reachable {setup : Setup} {n : Noting Observation}
    (reached : Reachable (machine Observation setup) anyStep n) :
    OfErrors n.left ↔ Reachable (machine Observation setup) (quiet setup) n := by
  constructor
  · induction reached with
    | start => exact fun _ => .start
    | next _ _ taken ih =>
      intro errors
      obtain ⟨before, silent⟩ := (step_left taken).mp errors
      exact .next (ih before) silent taken
  · intro silent
    have always : Inductive (machine Observation setup) (quiet setup) fun n => OfErrors n.left :=
      ⟨fun _ member => absurd member List.not_mem_nil, fun errors ok taken =>
        (step_left taken).mpr ⟨errors, ok⟩⟩
    exact always.holds silent

/-- A note is seen if it is about an error. -/
theorem Fated.seen_iff {n : Noting Observation} (fated : Fated n) : Seen n ↔ OfErrors n.left := by
  constructor
  · intro seen noted member
    by_contra other
    have lost : noted.2.fate = none := if_neg other
    have outcomes := fated.notes noted member
    unfold Shown Due at outcomes
    rw [lost] at outcomes
    rcases seen noted member with shown | ⟨next, kept⟩
    · rcases outcomes with hidden | ⟨_, place, _⟩
      · rw [shown] at hidden
        cases hidden
      · rw [place, List.getElem?_eq_none (Nat.le_refl _)] at shown
        cases shown
    · rcases outcomes with hidden | ⟨_, _, gone⟩
      · rw [next, List.getElem?_eq_none (Nat.le_refl _)] at hidden
        cases hidden
      · rw [kept] at gone
        cases gone
  · intro errors noted member
    have told : noted.2.fate = some noted.2.text := if_pos (errors noted member)
    have outcomes := fated.notes noted member
    unfold Shown Due at outcomes
    rw [told] at outcomes
    exact outcomes.imp_right fun due => due.2

/-- The provider sees every note in the next context in exactly the runs in which no step leaves a
note about accessibility. -/
theorem notes_seen_iff (setup : Setup) {n : Noting Observation}
    (reached : Reachable (machine Observation setup) anyStep n) :
    Seen n ↔ Reachable (machine Observation setup) (quiet setup) n :=
  (fated_reachable reached).seen_iff.trans (errors_reachable reached)

/-- A window is asked for that is gone, and the next context says so. -/
def goneWindow : Noting Unit :=
  finalState (machine Unit Setup.default) (quiet Setup.default)
    [.run, .decide .getWindow 5, .fail (.client .unknownWindow "window 7")] (by decide +kernel)

theorem notes_seen_gone : Seen goneWindow := by
  have silent : Reachable (machine Unit Setup.default) (quiet Setup.default) goneWindow :=
    final_state_reachable _ _ _ _
  exact (notes_seen_iff Setup.default silent.unrestricted).mpr silent

/-- The outline is asked for while accessibility is off; the note about it is gone when the step is
recorded. -/
theorem disabled_note_lost :
    ¬ ∀ (setup : Setup) (n : Noting Unit), Reachable (machine Unit setup) anyStep n → Seen n := by
  intro all
  let n : Noting Unit := finalState (machine Unit Setup.default) anyStep
    [.run, .decide .accessibilityTree 5] (by decide +kernel)
  have left : n.left = [(1, .disabled)] := by rfl
  have handed : n.handed = [none, none] := by rfl
  have seen := all Setup.default n (final_state_reachable _ _ _ _) (1, .disabled)
    (left ▸ List.mem_cons_self)
  rw [handed] at seen
  rcases seen with shown | ⟨next, _⟩
  · cases shown
  · cases next

end ADesk.Agent.Notes
