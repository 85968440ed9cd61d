/- ADesk/Foundation/Scripts
   digest: Sequential programs that call a service, what serving them does, and their rules. -/

import Mathlib.Logic.Basic

set_option autoImplicit false

namespace ADesk.Foundation.Scripts

/-- A program that makes one call at a time and goes on with the reply; it ends with a result
or with an error. -/
inductive Script (Call : Type) (Reply : Call → Type) (ε α : Type) : Type
  | done (result : α)
  | fail (error : ε)
  | call (request : Call) (next : Reply request → Script Call Reply ε α)

variable {Call : Type} {Reply : Call → Type} {ε α β σ : Type}

namespace Script

/-- Sequencing; an error ends the whole program. -/
def bind (f : α → Script Call Reply ε β) : Script Call Reply ε α → Script Call Reply ε β
  | done result => f result
  | fail error => fail error
  | call request next => call request fun reply => (next reply).bind f

instance : Monad (Script Call Reply ε) where
  pure := done
  bind script f := script.bind f

@[simp] theorem done_bind (result : α) (f : α → Script Call Reply ε β) :
    (done result >>= f) = f result := rfl

@[simp] theorem pure_bind (result : α) (f : α → Script Call Reply ε β) :
    ((pure result : Script Call Reply ε α) >>= f) = f result := rfl

@[simp] theorem fail_bind (error : ε) (f : α → Script Call Reply ε β) :
    ((fail error : Script Call Reply ε α) >>= f) = fail error := rfl

@[simp] theorem call_bind (request : Call) (next : Reply request → Script Call Reply ε α)
    (f : α → Script Call Reply ε β) :
    (call request next >>= f) = call request fun reply => next reply >>= f := rfl

/-! ## What a program may call -/

/-- Every call is admitted in the state that the calls before it lead to, whatever the replies
are, and a result meets `post`. -/
def Conforms (admits : σ → Call → Prop) (after : σ → (request : Call) → Reply request → σ)
    (post : α → σ → Prop) : σ → Script Call Reply ε α → Prop
  | state, done result => post result state
  | _, fail _ => True
  | state, call request next =>
    admits state request ∧ ∀ reply, Conforms admits after post (after state request reply)
      (next reply)

section Conforms

variable {admits : σ → Call → Prop} {after : σ → (request : Call) → Reply request → σ}

/-- The sequencing rule. -/
theorem conforms_bind {middle : α → σ → Prop} {post : β → σ → Prop}
    {script : Script Call Reply ε α} {f : α → Script Call Reply ε β} {state : σ}
    (first : Conforms admits after middle state script)
    (rest : ∀ result s, middle result s → Conforms admits after post s (f result)) :
    Conforms admits after post state (script >>= f) := by
  induction script generalizing state with
  | done result => exact rest result state first
  | fail error => exact trivial
  | call request next ih => exact ⟨first.1, fun reply => ih reply (first.2 reply)⟩

end Conforms

/-- A program with what it owes: every call is admitted by what is owed then, a result meets
`post`, and the program fails only where `failed` holds. Replies outside `possible` do not
come. -/
def Obeys (admits : σ → Call → Prop) (possible : (request : Call) → Reply request → Prop)
    (after : σ → (request : Call) → Reply request → σ) (post : α → σ → Prop)
    (failed : σ → Prop) : σ → Script Call Reply ε α → Prop
  | state, done result => post result state
  | state, fail _ => failed state
  | state, call request next =>
    admits state request ∧ ∀ reply, possible request reply →
      Obeys admits possible after post failed (after state request reply) (next reply)

/-- The sequencing rule. -/
theorem obeys_bind {admits : σ → Call → Prop} {possible : (request : Call) → Reply request → Prop}
    {after : σ → (request : Call) → Reply request → σ} {middle : α → σ → Prop}
    {post : β → σ → Prop} {failed : σ → Prop} {script : Script Call Reply ε α}
    {f : α → Script Call Reply ε β} {state : σ}
    (first : Obeys admits possible after middle failed state script)
    (rest : ∀ result s, middle result s → Obeys admits possible after post failed s (f result)) :
    Obeys admits possible after post failed state (script >>= f) := by
  induction script generalizing state with
  | done result => exact rest result state first
  | fail error => exact first
  | call request next ih =>
    exact ⟨first.1, fun reply could => ih reply (first.2 reply could)⟩

/-! ## Serving a program -/

/-- Serves every call of the program in turn. -/
def serve (handle : σ → (request : Call) → σ × Reply request) :
    σ → Script Call Reply ε α → σ × Except ε α
  | state, done result => (state, .ok result)
  | state, fail error => (state, .error error)
  | state, call request next =>
    serve handle (handle state request).1 (next (handle state request).2)

section Serve

variable {handle : σ → (request : Call) → σ × Reply request}

theorem serve_call (state : σ) (request : Call) (next : Reply request → Script Call Reply ε α) :
    serve handle state (call request next) =
      serve handle (handle state request).1 (next (handle state request).2) := rfl

theorem serve_bind (script : Script Call Reply ε α) (f : α → Script Call Reply ε β) (state : σ) :
    serve handle state (script >>= f) =
      match serve handle state script with
      | (served, .ok result) => serve handle served (f result)
      | (served, .error error) => (served, .error error) := by
  induction script generalizing state with
  | done result => rfl
  | fail error => rfl
  | call request next ih => exact ih (handle state request).2 (handle state request).1

end Serve

/-! ## The states in which calls are made -/

section Along

variable {τ : Type} {handle : σ → (request : Call) → σ × Reply request} {suits : σ → Call → Prop}
variable {admits : τ → Call → Prop} {possible : (request : Call) → Reply request → Prop}
variable {after : τ → (request : Call) → Reply request → τ} {settled : τ → Prop}
variable {relates : σ → τ → Prop}

/-- Every call of the served program is made in a state that suits it. -/
def Along (handle : σ → (request : Call) → σ × Reply request) (suits : σ → Call → Prop) :
    σ → Script Call Reply ε α → Prop
  | _, done _ => True
  | _, fail _ => True
  | state, call request next =>
    suits state request ∧
      Along handle suits (handle state request).1 (next (handle state request).2)

/-- Where every call suits the state, the service keeps up with what the program owes, and
nothing is owed in the end. -/
theorem obeys_along {script : Script Call Reply ε α} {state : σ} {owed : τ}
    (could : ∀ state request, possible request (handle state request).2)
    (kept : ∀ state owed request, relates state owed → admits owed request →
      suits state request → relates (handle state request).1
        (after owed request (handle state request).2))
    (obeys : Obeys admits possible after (fun _ => settled) settled owed script)
    (related : relates state owed) (along : Along handle suits state script) :
    ∃ left, relates (serve handle state script).1 left ∧ settled left := by
  induction script generalizing state owed with
  | done result => exact ⟨owed, related, obeys⟩
  | fail error => exact ⟨owed, related, obeys⟩
  | call request next ih =>
    exact ih _ (obeys.2 _ (could state request)) (kept state owed request related obeys.1 along.1)
      along.2

/-- Where a call that does not suit its state leaves the program stuck, the first such call is its
last. -/
theorem obeys_stops {stuck : τ → Prop} {script : Script Call Reply ε α} {state : σ} {owed : τ}
    (could : ∀ state request, possible request (handle state request).2)
    (kept : ∀ state owed request, relates state owed → admits owed request →
      suits state request → relates (handle state request).1
        (after owed request (handle state request).2))
    (stops : ∀ state owed request, relates state owed → admits owed request →
      ¬suits state request → stuck (after owed request (handle state request).2))
    (last : ∀ owed request, stuck owed → ¬admits owed request)
    (obeys : Obeys admits possible after (fun _ => settled) settled owed script)
    (related : relates state owed) (unsuited : ¬Along handle suits state script) :
    ∃ before left request, relates before left ∧ admits left request ∧ ¬suits before request ∧
      (serve handle state script).1 = (handle before request).1 := by
  induction script generalizing state owed with
  | done result => exact absurd trivial unsuited
  | fail error => exact absurd trivial unsuited
  | call request next ih =>
    by_cases suited : suits state request
    · exact ih _ (obeys.2 _ (could state request)) (kept state owed request related obeys.1 suited)
        fun along => unsuited ⟨suited, along⟩
    · have lost := stops state owed request related obeys.1 suited
      have rest := obeys.2 _ (could state request)
      refine ⟨state, owed, request, related, obeys.1, suited, ?_⟩
      rw [serve_call]
      cases ended : next (handle state request).2 with
      | done result => rfl
      | fail error => rfl
      | call later more =>
        rw [ended] at rest
        exact absurd rest.1 (last _ later lost)

end Along

end Script

end ADesk.Foundation.Scripts
