import RouteTable.Proofs.Router.Resolution
import RouteTable.Proofs.Router.SelfLink

namespace RouteTable

inductive Event where
  | register (name : Text) (route : Route)
  -- A new client, whose context has the default host of the router or no host.
  | enter (hosted : Bool)
  | dispatch (client : Nat) (request : Request)
  | generate (client : Nat) (nameOrTarget : Text) (args : Arguments) (relative : Bool)

-- Nothing is answered to a registration, nor to a client that has not entered.
structure Moment where
  event : Event
  answer : Option (Except RouteError Text)

-- The clients are numbered in the order in which they entered.
structure Service where
  router : Router
  contexts : List Context := []
  past : List Moment := []

namespace Service

def answer? (service : Service) : Event → Option (Except RouteError Text)
  | .register _ _ | .enter _ => none
  | .dispatch client request => service.contexts[client]?.map fun context =>
    (service.router.serve request context).answer
  | .generate client nameOrTarget args relative => service.contexts[client]?.map fun context =>
    service.router.generate context nameOrTarget args relative

def after (service : Service) : Event → Service
  | .register name route => { service with router := service.router.add name route }
  | .enter hosted => { service with
      contexts := service.contexts ++ [if hosted then service.router.context else {}] }
  | .dispatch client request => { service with
      contexts := service.contexts.modify client fun context =>
        (service.router.serve request context).context }
  | .generate _ _ _ _ => service

def step (service : Service) (event : Event) : Service :=
  { service.after event with past := service.past ++ [⟨event, service.answer? event⟩] }

def run (service : Service) (events : List Event) : Service := events.foldl step service

variable {service : Service} {past earlier later : List Moment} {moment : Moment} {client : Nat}
  {context : Context} {router : Router}

-- Some request of the client was answered.
def Dispatched (past : List Moment) (client : Nat) : Prop :=
  ∃ request target, ⟨.dispatch client request, some (.ok target)⟩ ∈ past

theorem dispatched_concat :
    Dispatched (past ++ [moment]) client ↔ Dispatched past client ∨
      ∃ request target, moment = ⟨.dispatch client request, some (.ok target)⟩ := by
  simp only [Dispatched, List.mem_append, List.mem_singleton, exists_or, eq_comm]

structure Follows (router : Router) (past : List Moment) (client : Nat) (context : Context) :
    Prop where
  registered : ∀ name, context.routeName = some name → name ∈ router.names
  dispatched : context.routeName.isSome = true ↔ Dispatched past client

-- An answer to a self link. A route is missing only before the first dispatch.
structure Linked (past : List Moment) (client : Nat) (answer : Except RouteError Text) : Prop where
  unset : answer = .error .noCurrentRoute ↔ ¬ Dispatched past client
  found : ∀ sought, answer ≠ .error (.routeNotFound sought)

theorem Follows.linked (follows : Follows router past client context)
    (indexed : Router.Indexed router) (args : Arguments) (relative : Bool) :
    Linked past client (router.generate context [] args relative) := by
  cases current : context.routeName with
  | none =>
    have unset : router.generate context [] args relative = .error .noCurrentRoute := by
      rw [Router.generate, Router.sought?, current]
      rfl
    have fresh : ¬ Dispatched past client := by
      rw [← follows.dispatched, current]
      exact Bool.false_ne_true
    rw [unset]
    refine ⟨iff_of_true rfl fresh, ?_⟩
    intro sought found
    cases found
  | some name =>
    have meaning : Router.sought? context [] = .ok name := by
      rw [Router.sought?, current]
      rfl
    have dispatched : Dispatched past client := by
      rw [← follows.dispatched, current]
      rfl
    -- A route name in the context is registered, so the empty name never goes unfound.
    obtain ⟨⟨_, route⟩, listed, rfl⟩ := List.mem_map.mp (follows.registered name current)
    rw [Router.generate_of_sought meaning, Router.select?_of_name indexed listed]
    rcases route.makeFrom_outcome (Router.currentFor context route) context.host args relative with
      ⟨_, _, made⟩ | ⟨_, ⟨_, made⟩ | made⟩
    all_goals
      simp only [made]
      refine ⟨iff_of_false ?_ (not_not_intro dispatched), ?_⟩
      · intro unset
        cases unset
      · intro sought found
        cases found

-- Every self link so far was answered by what had been dispatched until then.
def Answered (past : List Moment) : Prop :=
  ∀ earlier later client args relative answer,
    past = earlier ++ ⟨.generate client [] args relative, some answer⟩ :: later →
    Linked earlier client answer

theorem Answered.concat (answered : Answered past)
    (last : ∀ client args relative answer,
      moment = ⟨.generate client [] args relative, some answer⟩ → Linked past client answer) :
    Answered (past ++ [moment]) := by
  intro earlier later client args relative answer whole
  rcases List.eq_nil_or_concat later with rfl | ⟨others, final, rfl⟩
  · obtain ⟨rfl, rest⟩ := List.append_inj' whole rfl
    exact last client args relative answer (List.singleton_inj.mp rest)
  · rw [List.concat_eq_append, ← List.cons_append, ← List.append_assoc] at whole
    exact answered _ _ _ _ _ _ (List.append_inj' whole rfl).1

structure Sound (service : Service) : Prop where
  indexed : Router.Indexed service.router
  follows : ∀ client context, service.contexts[client]? = some context →
    Follows service.router service.past client context
  entered : ∀ client, Dispatched service.past client → client < service.contexts.length
  answered : Answered service.past

theorem Sound.answered_step (sound : Sound service) (event : Event) :
    Answered (service.step event).past := by
  apply sound.answered.concat
  intro client args relative answer same
  obtain ⟨rfl, given⟩ := Moment.mk.inj same
  obtain ⟨context, known, rfl⟩ := Option.map_eq_some_iff.mp given
  exact (sound.follows client context known).linked sound.indexed args relative

theorem Follows.register (follows : Follows router past client context)
    (indexed : Router.Indexed router) (name : Text) (route : Route) :
    Follows (router.add name route) past client context := by
  refine ⟨?_, follows.dispatched⟩
  intro current set
  rw [indexed.names_add]
  have listed := follows.registered current set
  split
  · exact listed
  · exact List.mem_append_left _ listed

theorem Follows.other (follows : Follows router past client context)
    (silent : ∀ request target, moment ≠ ⟨.dispatch client request, some (.ok target)⟩) :
    Follows router (past ++ [moment]) client context := by
  refine ⟨follows.registered, follows.dispatched.trans ?_⟩
  rw [dispatched_concat]
  constructor
  · exact Or.inl
  · rintro (before | ⟨request, target, now⟩)
    · exact before
    · exact absurd now (silent request target)

theorem Follows.dispatch (follows : Follows router past client context) (request : Request) :
    Follows router (past ++ [⟨.dispatch client request, some (router.serve request context).answer⟩])
      client (router.serve request context).context := by
  cases search : Router.firstMatch? request router.entries with
  | none =>
    rw [Router.serve_of_none search]
    apply follows.other
    nofun
  | some found =>
    obtain ⟨name, route, matched⟩ := found
    have chosen := Router.chosen_of_firstMatch? search
    rw [Router.serve_of_some search]
    refine ⟨?_, ?_⟩
    · intro current set
      cases set
      exact List.mem_map_of_mem chosen.listed
    · rw [dispatched_concat]
      exact iff_of_true rfl (Or.inr ⟨request, route.target, rfl⟩)

theorem Sound.entered_step (sound : Sound service) (event : Event)
    (dispatched : Dispatched (service.step event).past client) :
    client < service.contexts.length := by
  rcases dispatched_concat.mp dispatched with before | ⟨request, target, now⟩
  · exact sound.entered client before
  · obtain ⟨rfl, given⟩ := Moment.mk.inj now
    obtain ⟨context, known, _⟩ := Option.map_eq_some_iff.mp given
    exact (List.getElem?_eq_some_iff.mp known).1

theorem Sound.register (sound : Sound service) (name : Text) (route : Route) :
    Sound (service.step (.register name route)) where
  indexed := sound.indexed.add name route
  follows client context known :=
    ((sound.follows client context known).register sound.indexed name route).other nofun
  entered _ dispatched := sound.entered_step _ dispatched
  answered := sound.answered_step _

-- A new client starts with no route, and nothing in the past is its own.
theorem Sound.enter (sound : Sound service) (hosted : Bool) :
    Sound (service.step (.enter hosted)) where
  indexed := sound.indexed
  follows client context known := by
    change (service.contexts ++ [_])[client]? = some context at known
    rw [List.getElem?_append] at known
    split at known
    · exact (sound.follows client context known).other nofun
    · next beyond =>
      have fresh : context.routeName = none := by
        rw [List.mem_singleton.mp (List.mem_of_getElem? known)]
        cases hosted <;> rfl
      refine ⟨?_, ?_⟩
      · rw [fresh]
        nofun
      · rw [fresh]
        exact iff_of_false nofun fun dispatched => beyond (sound.entered_step _ dispatched)
  entered _ dispatched :=
    Nat.lt_of_lt_of_le (sound.entered_step _ dispatched) (List.sublist_append_left _ _).length_le
  answered := sound.answered_step _

theorem Sound.dispatch (sound : Sound service) (client : Nat) (request : Request) :
    Sound (service.step (.dispatch client request)) where
  indexed := sound.indexed
  follows other context known := by
    change (service.contexts.modify client _)[other]? = some context at known
    rw [List.getElem?_modify] at known
    obtain ⟨old, found, rfl⟩ := Option.map_eq_some_iff.mp known
    have follows := sound.follows other old found
    by_cases here : client = other
    · subst here
      have answer : service.answer? (.dispatch client request) =
          some (service.router.serve request old).answer := congrArg (Option.map _) found
      rw [if_pos rfl, step, answer]
      exact follows.dispatch request
    · rw [if_neg here]
      apply follows.other
      intro _ _ same
      exact here (Event.dispatch.inj (Moment.mk.inj same).1).1
  entered _ dispatched := by
    change _ < (service.contexts.modify client _).length
    rw [List.length_modify]
    exact sound.entered_step _ dispatched
  answered := sound.answered_step _

theorem Sound.generate (sound : Sound service) (client : Nat) (nameOrTarget : Text)
    (args : Arguments) (relative : Bool) :
    Sound (service.step (.generate client nameOrTarget args relative)) where
  indexed := sound.indexed
  follows other context known := (sound.follows other context known).other nofun
  entered _ dispatched := sound.entered_step _ dispatched
  answered := sound.answered_step _

theorem Sound.step (sound : Sound service) (event : Event) : Sound (service.step event) := by
  cases event with
  | register name route => exact sound.register name route
  | enter hosted => exact sound.enter hosted
  | dispatch client request => exact sound.dispatch client request
  | generate client nameOrTarget args relative =>
    exact sound.generate client nameOrTarget args relative

theorem Sound.run (sound : Sound service) (events : List Event) : Sound (service.run events) := by
  induction events generalizing service with
  | nil => exact sound
  | cons event rest ih => exact ih (sound.step event)

-- What holds of a service at any time.
structure SelfLinks (service : Service) : Prop where
  registered : ∀ (client : Nat) (context : Context), service.contexts[client]? = some context →
    ∀ name, context.routeName = some name → name ∈ service.router.names
  linked : ∀ (client : Nat) (context : Context), service.contexts[client]? = some context →
    ∀ args relative, Linked service.past client (service.router.generate context [] args relative)
  answered : Answered service.past

theorem sound_start (indexed : Router.Indexed router) : Sound { router } where
  indexed := indexed
  follows := nofun
  entered := by
    rintro client ⟨request, target, listed⟩
    cases listed
  answered := by
    intro earlier later client args relative answer whole
    exact absurd whole.symm (List.append_ne_nil_of_right_ne_nil _ (List.cons_ne_nil _ _))

-- From its first answered request on, a context refers to a route that is registered; its self links
-- fail for want of a route before that, and never afterwards.
theorem selfLinks_run (built : Router.Built router) (events : List Event) :
    SelfLinks (run { router } events) := by
  have sound := (sound_start built.registered.indexed).run events
  refine ⟨?_, ?_, sound.answered⟩
  · intro client context known
    exact (sound.follows client context known).registered
  · intro client context known args relative
    exact (sound.follows client context known).linked sound.indexed args relative

-- A client whose first request finds nothing, and one that comes when the route has been replaced.
def docsTraffic : List Event :=
  [.enter true, .dispatch 0 { path := "/news" }, .generate 0 [] .empty false,
    .dispatch 0 Router.docsVisit, .register "docs" (Route.standardRoute "print" Route.docs),
    .enter false]

def docsService : Service := run { router := Router.docsRouter } docsTraffic

theorem selfLinks_run_docs : ∃ context : Context, docsService.contexts = [context, {}] ∧
    docsService.router.url context [] .empty ≠ .error .noCurrentRoute ∧
    docsService.router.url {} [] .empty = .error .noCurrentRoute := by
  have links := selfLinks_run Router.built_docsRouter docsTraffic
  have first : Dispatched docsService.past 0 := by
    obtain ⟨target, served⟩ := Router.answer_of_accepted Router.docsRouter_accepts
      (Router.docsRouter.serve { path := "/news" } Router.docsRouter.context).context
    refine ⟨Router.docsVisit, target, ?_⟩
    rw [← served]
    exact List.mem_of_getElem? (i := 3) rfl
  have second : ¬ Dispatched docsService.past 1 := by
    rintro ⟨request, target, listed⟩
    simp [docsService, docsTraffic, run, step, after, answer?] at listed
  refine ⟨_, rfl, ?_, ?_⟩
  · intro failed
    exact (links.linked 0 _ rfl .empty false).unset.mp failed first
  · exact (links.linked 1 {} rfl .empty false).unset.mpr second

end Service

end RouteTable
