/- ADesk/Server/Announced
   digest: When the event stream agrees with the notification store. -/

import ADesk.Server.Notices

set_option autoImplicit false

namespace ADesk.Server.Announced

open ADesk.Core.Event
open ADesk.Core.Ids (NotificationId)
open ADesk.Foundation.Execution
open ADesk.Foundation.Outbox
open ADesk.Foundation.Scripts
open ADesk.Notify.Store
open ADesk.Server.Notices

/-! ## Events about a notification -/

/-- The event is the `notification` event of the id. -/
def posts (id : NotificationId) : RuntimeEvent → Bool
  | .notification _ _ notification => notification.id = id
  | _ => false

def closes (id : NotificationId) : RuntimeEvent → Bool
  | .notificationClosed _ _ closed _ => closed = id
  | _ => false

theorem posts_notification (id : NotificationId) (seq tsMs : ℕ) (notification : Notification) :
    posts id (.notification seq tsMs notification) = true ↔ notification.id = id :=
  decide_eq_true_iff

theorem closes_closed (id closed : NotificationId) (seq tsMs : ℕ)
    (reason : NotificationCloseReason) :
    closes id (.notificationClosed seq tsMs closed reason) = true ↔ closed = id :=
  decide_eq_true_iff

/-- The notification that a close or action event is about. -/
def follows : RuntimeEvent → Option NotificationId
  | .notificationClosed _ _ id _ | .notificationAction _ _ id _ => some id
  | _ => none

/-- The notification as it was posted. -/
def live (notification : Notification) : Notification :=
  { notification with dismissed := false, closedSeq := none, closeReason := none }

/-- The `notification` events that a lookup in the store calls for. -/
def postEvents : Option Notification → List RuntimeEvent
  | some notification =>
    [.notification notification.postedSeq notification.postedTsMs (live notification)]
  | none => []

/-- The `notification_closed` events that a lookup in the store calls for: one with the stored
reason and number of a dismissed notification. The store does not keep its timestamp. -/
def CloseEvents (stored : Option Notification) (events : List RuntimeEvent) : Prop :=
  match stored with
  | none => events = []
  | some notification =>
    if notification.dismissed then
      ∃ seq tsMs reason, notification.closedSeq = some seq ∧
        notification.closeReason = some reason ∧
        events = [.notificationClosed seq tsMs notification.id reason]
    else events = []

/-- The stream agrees with the store about one id. -/
structure Agrees (s : Notices.State) (id : NotificationId) : Prop where
  posted : s.stream.filter (posts id) = postEvents s.store.notifications[id]?
  closed : CloseEvents s.store.notifications[id]? (s.stream.filter (closes id))

/-- Every close or action event comes after the `notification` event of its notification. -/
def PostsFirst (stream : List RuntimeEvent) : Prop :=
  Opened (fun id event => posts id event = true) (fun id event => follows event = some id) stream

/-! ## What a step does -/

/-- The event that a handler publishes next. -/
def upcoming : Handler Answer → Option RuntimeEvent
  | .call (.publish event) _ => some event
  | _ => none

/-- The event that a handler has still to publish. -/
def held (s : Notices.State) (handler : ℕ) : Option RuntimeEvent :=
  s.handlers[handler]?.bind upcoming

/-- No handler is between a change of the notification and the event of that change. -/
def Lasting (s : Notices.State) (id : NotificationId) : Prop :=
  ∀ handler event, held s handler = some event → posts id event = false ∧ closes id event = false

/-- The changes of the store, each with its event. -/
inductive Records (store : NotificationStore) : RuntimeEvent → NotificationStore → Prop
  | posted (new : NewNotification) (seq tsMs : ℕ)
      (free : store.notifications[(⟨store.nextId⟩ : NotificationId)]? = none) :
      Records store (.notification seq tsMs (new.posted ⟨store.nextId⟩ seq tsMs))
        (store.allocate new seq tsMs)
  | closed (id : NotificationId) (notification : Notification)
      (stored : store.notifications[id]? = some notification)
      (open_ : notification.dismissed = false) (reason : NotificationCloseReason)
      (seq tsMs : ℕ) :
      Records store (.notificationClosed seq tsMs id reason)
        (store.setDismissed id notification stored reason seq)
  | invoked (id : NotificationId) (notification : Notification)
      (stored : store.notifications[id]? = some notification) (seq tsMs : ℕ)
      (actionKey : String) : Records store (.notificationAction seq tsMs id actionKey) store

/-- The call that a handler makes next. -/
def nextCall : Handler Answer → Option Call
  | .call call _ => some call
  | _ => none

/-- The call that a step serves. -/
def servedCall (s : Notices.State) : Label → Option Call
  | .serve handler => s.handlers[handler]?.bind nextCall
  | _ => none

theorem served_call_found {s : Notices.State} {handler : ℕ} {call : Call}
    {next : Reply call → Handler Answer} (found : s.handlers[handler]? = some (.call call next)) :
    servedCall s (.serve handler) = some call := by
  rw [servedCall, found]
  rfl

/-- A post that stores a notification finds the next id free. -/
def IdFree (s : Notices.State) : Call → Prop
  | .post new .. => new.title.isEmpty = false →
      s.store.notifications[(⟨s.store.nextId⟩ : NotificationId)]? = none
  | _ => True

/-- Ids do not run out. -/
def FreshIds (s : Notices.State) (label : Label) : Prop :=
  ∀ call ∈ servedCall s label, IdFree s call

inductive Move (s : Notices.State) (label : Label) (t : Notices.State) : Prop
  | quiet (store : t.store = s.store) (stream : t.stream = s.stream) (kept : held t = held s)
  | recorded (handler : ℕ) (event : RuntimeEvent) (free : held s handler = none)
      (records : Records s.store event t.store) (stream : t.stream = s.stream)
      (now : held t = Function.update (held s) handler (some event))
  | published (handler : ℕ) (event : RuntimeEvent) (next : Unit → Handler Answer)
      (served : label = .serve handler)
      (running : s.handlers[handler]? = some (.call (.publish event) next))
      (store : t.store = s.store) (stream : t.stream = s.stream ++ [event])
      (now : held t = Function.update (held s) handler none)
  | sent (event : RuntimeEvent) (apart : unrelated event = true) (store : t.store = s.store)
      (stream : t.stream = s.stream ++ [event]) (kept : held t = held s)

theorem held_set {s t : Notices.State} {handler : ℕ} {before after : Handler Answer}
    {event : Option RuntimeEvent} (running : s.handlers[handler]? = some before)
    (changed : t.handlers = s.handlers.set handler after) (holds : upcoming after = event) :
    held t = Function.update (held s) handler event := by
  subst holds
  obtain ⟨inside, _⟩ := List.getElem?_eq_some_iff.mp running
  funext other
  by_cases same : other = handler
  · subst same
    rw [Function.update_self, held, changed, List.getElem?_set_self inside]
    rfl
  · rw [Function.update_of_ne same, held, held, changed, List.getElem?_set_ne (Ne.symm same)]

/-- A handler that goes on to a point where it holds what it held before. -/
theorem held_kept {s t : Notices.State} {handler : ℕ} {before after : Handler Answer}
    (running : s.handlers[handler]? = some before)
    (changed : t.handlers = s.handlers.set handler after)
    (same : upcoming after = upcoming before) : held t = held s := by
  have now : upcoming before = held s handler := by
    rw [held, running]
    rfl
  rw [held_set running changed (same.trans now), Function.update_eq_self]

theorem held_request {s t : Notices.State} {request : Request}
    (changed : t.handlers = s.handlers ++ [dispatch request]) : held t = held s := by
  funext handler
  rw [held, held, changed]
  rcases Nat.lt_trichotomy handler s.handlers.length with old | new | beyond
  · rw [List.getElem?_append_left old]
  · rw [new, List.getElem?_concat_length, List.getElem?_eq_none (Nat.le_refl _),
      dispatch_reserves]
    rfl
  · rw [List.getElem?_eq_none (by simp; omega), List.getElem?_eq_none (Nat.le_of_lt beyond)]

/-- Serving the next call of a handler. -/
theorem serve_move {s t : Notices.State} {handler : ℕ} {call : Call}
    {next : Reply call → Handler Answer}
    (found : s.handlers[handler]? = some (.call call next)) (stage : Stage (.call call next))
    (fresh : FreshIds s (.serve handler))
    (served : t = { (answer s call).1 with
      handlers := s.handlers.set handler (next (answer s call).2) }) :
    Move s (.serve handler) t := by
  have free : upcoming (.call call next) = none → held s handler = none := by
    intro silent
    rw [held, found]
    exact silent
  have fresh := fresh call (served_call_found found)
  cases stage with
  | reserving request =>
    subst served
    exact .quiet rfl rfl (held_kept found rfl rfl)
  | timing request seq =>
    subst served
    refine .quiet rfl rfl (held_kept found rfl ?_)
    cases request <;> rfl
  | posting params seq tsMs =>
    rcases s.store.post_cases params seq tsMs with ⟨error, refused⟩ | ⟨titled, stored⟩
    · simp only [answer, refused] at served
      subst served
      exact .quiet rfl rfl (held_kept found rfl rfl)
    · simp only [answer, stored] at served
      subst served
      exact .recorded handler _ (free rfl) (.posted params seq tsMs (fresh titled)) rfl
        (held_set found rfl rfl)
  | closing params seq tsMs =>
    rcases s.store.close_cases params.notificationId params.reason seq with
      ⟨error, refused⟩ | ⟨notification, again⟩ | ⟨notification, stored, open_, closed⟩
    · simp only [answer, refused] at served
      subst served
      exact .quiet rfl rfl (held_kept found rfl rfl)
    · simp only [answer, again] at served
      subst served
      exact .quiet rfl rfl (held_kept found rfl rfl)
    · simp only [answer, closed] at served
      subst served
      exact .recorded handler _ (free rfl) (.closed _ notification stored open_ _ seq tsMs) rfl
        (held_set found rfl rfl)
  | invoking params seq tsMs =>
    cases valid : s.store.invokeAction params.notificationId params.actionKey with
    | error error =>
      simp only [answer, valid] at served
      subst served
      exact .quiet rfl rfl (held_kept found rfl rfl)
    | ok result =>
      obtain ⟨notification, stored⟩ := NotificationStore.invoke_action_stored valid
      simp only [answer, valid] at served
      subst served
      exact .recorded handler _ (free rfl) (.invoked _ notification stored seq tsMs _) rfl
        (held_set found rfl rfl)
  | publishing event result =>
    subst served
    exact .published handler event _ rfl found rfl rfl (held_set found rfl rfl)

theorem step_cases {s t : Notices.State} {label : Label} (staged : Staged s)
    (fresh : FreshIds s label) (taken : step s label = some t) : Move s label t := by
  cases label with
  | tick nanos =>
    cases taken
    exact .quiet rfl rfl rfl
  | number =>
    cases taken
    exact .quiet rfl rfl rfl
  | request request =>
    cases taken
    exact .quiet rfl rfl (held_request rfl)
  | serve handler =>
    simp only [step] at taken
    split at taken
    · next call next found =>
      cases taken
      exact serve_move found (staged.found found) fresh rfl
    · cases taken
  | refuse handler error =>
    simp only [step] at taken
    split at taken
    · next next found =>
      cases taken
      have stage := staged.found found
      cases stage with
      | reserving request => exact .quiet rfl rfl (held_kept found rfl rfl)
    · cases taken
  | cancel handler =>
    simp only [step] at taken
    split at taken
    · next next found =>
      cases taken
      exact .quiet rfl rfl (held_kept found rfl rfl)
    · cases taken
  | other event =>
    simp only [step] at taken
    split at taken
    · next apart =>
      cases taken
      exact .sent event apart rfl rfl rfl
    · cases taken

/-! ## The store accounts for the events -/

/-- The committed events are those that the store calls for, and actions of stored
notifications. -/
structure Accounts (store : NotificationStore) (committed : Multiset RuntimeEvent) : Prop where
  posted : ∀ id, committed.filter (fun event => posts id event = true) =
    postEvents store.notifications[id]?
  closed : ∀ id, ∃ events, CloseEvents store.notifications[id]? events ∧
    committed.filter (fun event => closes id event = true) = events
  known : ∀ event ∈ committed, ∀ id, follows event = some id → store.notifications[id]? ≠ none

theorem accounts_nothing : Accounts NotificationStore.new 0 where
  posted := fun id => by simp [NotificationStore.new, postEvents]
  closed := fun id => ⟨[], by simp [NotificationStore.new, CloseEvents], by simp⟩
  known := fun event member => by simp at member

theorem unrelated_apart {event : RuntimeEvent} (apart : unrelated event = true)
    (id : NotificationId) :
    posts id event = false ∧ closes id event = false ∧ follows event = none := by
  cases event with
  | notification => cases apart
  | notificationClosed => cases apart
  | notificationAction => cases apart
  | _ => exact ⟨rfl, rfl, rfl⟩

/-- An event that is neither posted nor closed leaves the account as it is. -/
theorem Accounts.extend {store : NotificationStore} {committed : Multiset RuntimeEvent}
    (accounts : Accounts store committed) {event : RuntimeEvent}
    (apart : ∀ id, posts id event = false ∧ closes id event = false)
    (known : ∀ id, follows event = some id → store.notifications[id]? ≠ none) :
    Accounts store (event ::ₘ committed) where
  posted := by
    intro id
    rw [Multiset.filter_cons_of_neg _ (by simp [(apart id).1])]
    exact accounts.posted id
  closed := by
    intro id
    rw [Multiset.filter_cons_of_neg _ (by simp [(apart id).2])]
    exact accounts.closed id
  known := by
    intro other member id about
    rcases Multiset.mem_cons.mp member with rfl | old
    · exact known id about
    · exact accounts.known other old id about

theorem accounts_post {store : NotificationStore} {committed : Multiset RuntimeEvent}
    (accounts : Accounts store committed) (new : NewNotification) (seq tsMs : ℕ)
    (free : store.notifications[(⟨store.nextId⟩ : NotificationId)]? = none) :
    Accounts (store.allocate new seq tsMs)
      (.notification seq tsMs (new.posted ⟨store.nextId⟩ seq tsMs) ::ₘ committed) where
  posted := by
    intro id
    rw [NotificationStore.allocate_lookup]
    by_cases same : (⟨store.nextId⟩ : NotificationId) = id
    · subst same
      have own : posts ⟨store.nextId⟩ (.notification seq tsMs
          (new.posted ⟨store.nextId⟩ seq tsMs)) = true := (posts_notification ..).mpr rfl
      rw [Multiset.filter_cons_of_pos committed own, accounts.posted, free, if_pos rfl]
      rfl
    · have apart : ¬ posts id (.notification seq tsMs
          (new.posted ⟨store.nextId⟩ seq tsMs)) = true := mt (posts_notification ..).mp same
      rw [Multiset.filter_cons_of_neg committed apart, accounts.posted, if_neg same]
  closed := by
    intro id
    rw [NotificationStore.allocate_lookup, Multiset.filter_cons_of_neg _ (by simp [closes])]
    obtain ⟨events, called, filtered⟩ := accounts.closed id
    by_cases same : (⟨store.nextId⟩ : NotificationId) = id
    · subst same
      rw [free] at called
      rw [if_pos rfl]
      exact ⟨events, called, filtered⟩
    · rw [if_neg same]
      exact ⟨events, called, filtered⟩
  known := by
    intro event member id about
    rw [NotificationStore.allocate_lookup]
    rcases Multiset.mem_cons.mp member with rfl | old
    · cases about
    · split
      · exact Option.some_ne_none _
      · exact accounts.known event old id about

theorem accounts_close {store : NotificationStore} {committed : Multiset RuntimeEvent}
    (accounts : Accounts store committed) {id : NotificationId} {notification : Notification}
    (stored : store.notifications[id]? = some notification)
    (open_ : notification.dismissed = false) (reason : NotificationCloseReason) (seq tsMs : ℕ) :
    Accounts (store.setDismissed id notification stored reason seq)
      (.notificationClosed seq tsMs id reason ::ₘ committed) where
  posted := by
    intro other
    rw [NotificationStore.dismissed_lookup,
      Multiset.filter_cons_of_neg _ (by simp [posts]), accounts.posted]
    by_cases same : id = other
    · subst same
      rw [if_pos rfl, stored]
      rfl
    · rw [if_neg same]
  closed := by
    intro other
    rw [NotificationStore.dismissed_lookup]
    obtain ⟨events, called, filtered⟩ := accounts.closed other
    by_cases same : id = other
    · subst same
      rw [stored] at called
      have keyed : notification.id = id := store.keyed stored
      have none_before : events = [] := by simpa [CloseEvents, open_] using called
      have own : closes id (.notificationClosed seq tsMs id reason) = true :=
        (closes_closed ..).mpr rfl
      rw [Multiset.filter_cons_of_pos committed own, filtered, none_before, if_pos rfl]
      refine ⟨_, ⟨seq, tsMs, reason, rfl, rfl, rfl⟩, ?_⟩
      rw [show (dismiss notification reason seq).id = id from keyed]
      rfl
    · have apart : ¬ closes other (.notificationClosed seq tsMs id reason) = true :=
        mt (closes_closed ..).mp same
      rw [Multiset.filter_cons_of_neg committed apart, if_neg same]
      exact ⟨events, called, filtered⟩
  known := by
    intro event member other about
    rw [NotificationStore.dismissed_lookup]
    rcases Multiset.mem_cons.mp member with rfl | old
    · cases about
      rw [if_pos rfl]
      exact Option.some_ne_none _
    · split
      · exact Option.some_ne_none _
      · exact accounts.known event old other about

theorem accounts_record {store after : NotificationStore} {committed : Multiset RuntimeEvent}
    {event : RuntimeEvent} (accounts : Accounts store committed)
    (records : Records store event after) : Accounts after (event ::ₘ committed) := by
  cases records with
  | posted new seq tsMs free => exact accounts_post accounts new seq tsMs free
  | closed id notification stored open_ reason seq tsMs =>
    exact accounts_close accounts stored open_ reason seq tsMs
  | invoked id notification stored seq tsMs actionKey =>
    refine accounts.extend (fun other => ⟨rfl, rfl⟩) fun other about => ?_
    cases about
    rw [stored]
    exact Option.some_ne_none _

/-- In every state of a run the store accounts for the published events and the held ones. -/
def Accounted (s : Notices.State) : Prop :=
  ∃ committed, Commits (held s) s.stream committed ∧ Accounts s.store committed

theorem move_accounted {s t : Notices.State} {label : Label} (move : Move s label t)
    (accounted : Accounted s) : Accounted t := by
  obtain ⟨committed, commits, accounts⟩ := accounted
  cases move with
  | quiet store stream kept => exact ⟨committed, by rwa [stream, kept], by rwa [store]⟩
  | recorded handler event free records stream now =>
    refine ⟨event ::ₘ committed, ?_, accounts_record accounts records⟩
    rw [stream, now]
    exact commits.hold free event
  | published handler event next served running store stream now =>
    have holds : held s handler = some event := by
      rw [held, running]
      rfl
    refine ⟨committed, ?_, by rwa [store]⟩
    rw [stream, now]
    exact commits.publish holds
  | sent event apart store stream kept =>
    refine ⟨event ::ₘ committed, ?_, ?_⟩
    · rw [stream, kept]
      exact commits.send event
    · rw [store]
      refine accounts.extend (fun id => ?_) fun id about => ?_
      · exact ⟨(unrelated_apart apart id).1, (unrelated_apart apart id).2.1⟩
      · rw [(unrelated_apart apart id).2.2] at about
        cases about

theorem accounted {s : Notices.State} (reached : Reachable noticeMachine FreshIds s) :
    Accounted s := by
  refine invariant_relative (P := Accounted) staged_of_reachable ?_ ?_ reached
  · have nobody : held State.new = fun _ => none := by
      funext handler
      rfl
    exact ⟨0, nobody ▸ commits_nothing, accounts_nothing⟩
  · intro before after label staged _ accounted fresh taken
    exact move_accounted (step_cases staged fresh taken) accounted

/-- A list of at most one event that holds the events a lookup calls for. -/
theorem close_events_unique {stored : Option Notification} {events stream : List RuntimeEvent}
    (called : CloseEvents stored events) (same : (stream : Multiset RuntimeEvent) = events) :
    CloseEvents stored stream := by
  have short : events = [] ∨ ∃ event, events = [event] := by
    unfold CloseEvents at called
    split at called
    · exact .inl called
    · split at called
      · obtain ⟨seq, tsMs, reason, _, _, only⟩ := called
        exact .inr ⟨_, only⟩
      · exact .inl called
  rcases short with rfl | ⟨event, rfl⟩
  · rw [(Multiset.coe_eq_zero _).mp same]
    exact called
  · rw [Multiset.coe_eq_singleton.mp same]
    exact called

theorem post_events_unique {stored : Option Notification} {stream : List RuntimeEvent}
    (same : (stream : Multiset RuntimeEvent) = postEvents stored) :
    stream = postEvents stored := by
  cases stored with
  | none => exact (Multiset.coe_eq_zero _).mp same
  | some notification => exact Multiset.coe_eq_singleton.mp same

theorem agrees_of_accounted {s : Notices.State} (accounted : Accounted s) {id : NotificationId}
    (lasting : Lasting s id) : Agrees s id := by
  obtain ⟨committed, commits, accounts⟩ := accounted
  have posted := commits.settled (fun event => posts id event = true)
    fun handler event holds => by simp [(lasting handler event holds).1]
  have closed := commits.settled (fun event => closes id event = true)
    fun handler event holds => by simp [(lasting handler event holds).2]
  obtain ⟨events, called, same⟩ := accounts.closed id
  rw [accounts.posted] at posted
  rw [same] at closed
  simp only [Bool.decide_eq_true] at posted closed
  exact ⟨post_events_unique posted, close_events_unique called closed⟩

/-! ## Posts come first -/

/-- A close or action event is published only when no handler has the `notification` event of
its notification still to publish. -/
def PostsOut (s : Notices.State) : Call → Prop
  | .publish event => ∀ id ∈ follows event, ∀ other ∈ s.handlers, ∀ opening ∈ upcoming other,
      posts id opening = false
  | _ => True

def InTurn (s : Notices.State) (label : Label) : Prop := ∀ call ∈ servedCall s label, PostsOut s call

def Orderly (s : Notices.State) (label : Label) : Prop := FreshIds s label ∧ InTurn s label

/-- A stored notification has its `notification` event among the committed ones. -/
theorem Accounts.opening {store : NotificationStore} {committed : Multiset RuntimeEvent}
    (accounts : Accounts store committed) {event : RuntimeEvent} (inside : event ∈ committed)
    {id : NotificationId} (about : follows event = some id) :
    ∃ opening, committed.filter (fun event => posts id event = true) = {opening} := by
  obtain ⟨notification, stored⟩ := Option.ne_none_iff_exists'.mp
    (accounts.known event inside id about)
  have called := accounts.posted id
  rw [stored] at called
  exact ⟨_, called⟩

theorem in_turn_publish {s : Notices.State} {handler : ℕ} {event : RuntimeEvent}
    {next : Unit → Handler Answer}
    (running : s.handlers[handler]? = some (.call (.publish event) next)) :
    InTurn s (.serve handler) ↔ ∀ id, follows event = some id → ∀ other opening,
      held s other = some opening → posts id opening = false := by
  constructor
  · intro turn id about other opening waits
    obtain ⟨script, found, next⟩ := Option.bind_eq_some_iff.mp waits
    have out := turn _ (served_call_found running)
    exact out id about script (List.mem_of_getElem? found) opening next
  · intro turn call served
    rw [served_call_found running] at served
    cases served
    intro id about script member opening next
    obtain ⟨other, found⟩ := List.mem_iff_getElem?.mp member
    exact turn id about other opening (Option.bind_eq_some_iff.mpr ⟨script, found, next⟩)

theorem in_turn_silent {s : Notices.State} {label : Label}
    (silent : ¬ ∃ handler event next, label = .serve handler ∧
      s.handlers[handler]? = some (.call (.publish event) next)) : InTurn s label := by
  intro call served
  cases label with
  | serve handler =>
    obtain ⟨script, found, calls⟩ := Option.bind_eq_some_iff.mp served
    cases call with
    | publish event =>
      cases script with
      | call request next =>
        cases calls
        exact absurd ⟨handler, event, next, rfl, found⟩ silent
      | _ => cases calls
    | _ => trivial
  | _ => cases served

theorem publish_stream {s t : Notices.State} {handler : ℕ} {event : RuntimeEvent}
    {next : Unit → Handler Answer}
    (running : s.handlers[handler]? = some (.call (.publish event) next))
    (taken : step s (.serve handler) = some t) : t.stream = s.stream ++ [event] := by
  simp only [step, running] at taken
  cases taken
  rfl

/-- A step keeps the order of posts exactly when it is taken in turn. -/
theorem posts_first_step {s t : Notices.State} {label : Label} (staged : Staged s)
    (accounted : Accounted s) (first : PostsFirst s.stream) (fresh : FreshIds s label)
    (taken : step s label = some t) : PostsFirst t.stream ↔ InTurn s label := by
  by_cases publishing : ∃ handler event next, label = .serve handler ∧
      s.handlers[handler]? = some (.call (.publish event) next)
  · obtain ⟨handler, event, next, rfl, running⟩ := publishing
    obtain ⟨committed, commits, accounts⟩ := accounted
    have holds : held s handler = some event := by
      rw [held, running]
      rfl
    have inside := commits.mem_held holds
    rw [publish_stream running taken, in_turn_publish running]
    constructor
    · intro later id about other opening waits
      obtain ⟨only, one⟩ := accounts.opening inside about
      obtain ⟨sent, published, opens⟩ := later.last about
      refine Bool.eq_false_iff.mpr fun same => ?_
      exact commits.unpublished _ one waits same sent published opens
    · intro turn
      refine first.append fun id about => ?_
      obtain ⟨only, one⟩ := accounts.opening inside about
      have listed : only ∈ committed.filter (fun event => posts id event = true) := by
        rw [one]
        exact Multiset.mem_singleton_self only
      obtain ⟨opening, opens⟩ := Multiset.mem_filter.mp listed
      refine ⟨only, commits.published opening fun other waits => ?_, opens⟩
      rw [turn id about other only waits] at opens
      cases opens
  · refine iff_of_true ?_ (in_turn_silent publishing)
    cases step_cases staged fresh taken with
    | quiet store stream kept => rwa [stream]
    | recorded handler event free records stream now => rwa [stream]
    | published handler event next served running store stream now =>
      exact absurd ⟨handler, event, next, served, running⟩ publishing
    | sent event apart store stream kept =>
      rw [stream]
      refine first.append fun id about => ?_
      rw [(unrelated_apart apart id).2.2] at about
      cases about

theorem posts_first {s : Notices.State} (reached : Reachable noticeMachine Orderly s) :
    PostsFirst s.stream := by
  refine invariant_relative (P := fun s => PostsFirst s.stream) (Q := fun s => Staged s ∧ Accounted s)
    (fun reached => ⟨staged_of_reachable reached, accounted (reached.mono fun _ _ => And.left)⟩)
    ?_ ?_ reached
  · exact opened_nil _ _
  · intro before after label known _ first allowed taken
    exact (posts_first_step known.1 known.2 first allowed.1 taken).mpr allowed.2

/-- As long as ids do not run out and every close and action event is published in turn, the
stream agrees with the lasting state of the store and the `notification` event of each
notification comes first. The first step out of turn breaks that order. -/
theorem stream_agrees {s : Notices.State} (reached : Reachable noticeMachine Orderly s) :
    (∀ id, Lasting s id → Agrees s id) ∧ PostsFirst s.stream ∧
      ∀ label t, FreshIds s label → step s label = some t → ¬ InTurn s label →
        ¬ PostsFirst t.stream := by
  have known := accounted (reached.mono fun _ _ => And.left)
  have first := posts_first reached
  refine ⟨fun id lasting => agrees_of_accounted known lasting, first, ?_⟩
  intro label t fresh taken outOfTurn later
  exact outOfTurn ((posts_first_step (staged_of_reachable reached) known first fresh taken).mp later)

/-! ## Runs -/

instance (s : Notices.State) : ∀ call, Decidable (IdFree s call)
  | .post .. => inferInstanceAs (Decidable (_ → _))
  | .reserveSeq | .nowMs | .close .. | .invokeAction .. | .publish _ =>
    inferInstanceAs (Decidable True)

instance (s : Notices.State) : ∀ call, Decidable (PostsOut s call)
  | .publish _ => inferInstanceAs (Decidable (∀ id ∈ _, ∀ other ∈ _, ∀ opening ∈ _, _))
  | .reserveSeq | .nowMs | .post .. | .close .. | .invokeAction .. =>
    inferInstanceAs (Decidable True)

instance (s : Notices.State) (label : Label) : Decidable (Orderly s label) :=
  inferInstanceAs (Decidable ((∀ call ∈ servedCall s label, IdFree s call) ∧
    ∀ call ∈ servedCall s label, PostsOut s call))

/-- One handler has stored a notification, another one has dismissed it; neither has published. -/
def postedAndClosed : List Label :=
  [.request (.post ⟨none, "mail", "", .normal, none, [], [], none⟩), .serve 0, .serve 0, .serve 0,
    .request (.close ⟨⟨1⟩, .dismissed⟩), .serve 1, .serve 1, .serve 1]

def postPublishedFirst : Notices.State :=
  finalState noticeMachine Orderly (postedAndClosed ++ [.serve 0, .serve 1]) (by decide +kernel)

theorem stream_agrees_post_first :
    postPublishedFirst.stream.map RuntimeEvent.kind = [.notification, .notificationClosed] ∧
      (∀ id, Lasting postPublishedFirst id → Agrees postPublishedFirst id) ∧
      PostsFirst postPublishedFirst.stream ∧
      ∀ label t, FreshIds postPublishedFirst label → step postPublishedFirst label = some t →
        ¬ InTurn postPublishedFirst label → ¬ PostsFirst t.stream :=
  ⟨by decide +kernel, stream_agrees (final_state_reachable _ _ _ _)⟩

def closePublishedFirst : Notices.State :=
  finalState noticeMachine anyStep (postedAndClosed ++ [.serve 1, .serve 0]) (by decide +kernel)

/-- The close of a notification is published before the notification itself. -/
theorem close_event_first :
    Reachable noticeMachine anyStep closePublishedFirst ∧
      ¬ PostsFirst closePublishedFirst.stream := by
  refine ⟨final_state_reachable _ _ _ _, fun first => ?_⟩
  have split : closePublishedFirst.stream = [] ++ RuntimeEvent.notificationClosed 2 0 ⟨1⟩ .dismissed ::
      [.notification 1 0 ⟨⟨1⟩, none, "mail", "", .normal, none, [], [], 1, 0, false, none, none,
        none⟩] := by decide +kernel
  obtain ⟨opening, inside, _⟩ := first ⟨1⟩ _ _ _ split rfl
  cases inside

end ADesk.Server.Announced
