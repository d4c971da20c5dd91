import DynamicBinding.Proofs.Machine.Client
import DynamicBinding.Proofs.Machine.Course
import DynamicBinding.Proofs.Site.Activity
/-!
# What shows at a site while something runs

A site is watched while a task is performed, a request is fulfilled or a user does what it wants.
What shows at it are moments: calls that come in, calls that end, calls that are refused, each with
the site as it was left on the machine.

* `Task.Shows`, `Request.Shows` and `Client.Shows` say of some moments that they show at the site.
  They follow the run itself, so a plan that comes back to the site shows between the beginning and
  the end of the call that it runs for.
* `Client.exists_shows`: there always are such moments.
* `Client.Shows.leads`: the moments are an activity of the site, `Site.Activity.Leads`.  Nothing but
  the calls through a site changes it.
-/

namespace DynamicBinding

open Site (Event Moment Activity)

variable {α β : Type}

/-- Which moments show while a task is performed, from a machine on. -/
abbrev Watch := Task → Machine → List Moment → Prop

/-! ## What shows -/

/-- What shows while a course is run is what shows while it has tasks performed. -/
inductive Course.Shows (p : Perform) (watch : Watch) :
    Course α → Machine → List Moment → Prop
  | done (a : α) (m : Machine) : Shows p watch (.done a) m []
  | act {β : Type} {x : Exec β} {hx : x.SparesSites} {next : β → Course α} {m n : Machine} {b : β}
    {moments : List Moment} (hrun : x.run.run m = (.ok b, n))
    (h : Shows p watch (next b) n moments) : Shows p watch (.act x hx next) m moments
  | actStopped {β : Type} {x : Exec β} {hx : x.SparesSites} {next : β → Course α} {m n : Machine}
    {stop : Stop} (hrun : x.run.run m = (.error stop, n)) : Shows p watch (.act x hx next) m []
  | perform {task : Task} {next : Value → Course α} {m n : Machine} {v : Value}
    {first rest : List Moment} (hfirst : watch task m first)
    (hrun : (p task).run.run m = (.ok v, n)) (h : Shows p watch (next v) n rest) :
    Shows p watch (.perform task next) m (first ++ rest)
  | performStopped {task : Task} {next : Value → Course α} {m n : Machine} {stop : Stop}
    {first : List Moment} (hfirst : watch task m first)
    (hrun : (p task).run.run m = (.error stop, n)) : Shows p watch (.perform task next) m first

namespace Machine

/-- The moment of an event at site `i`, if that is the site `id` that is watched. -/
def momentAt (m : Machine) (id i : Nat) (e : Event) : List Moment :=
  if i = id then [⟨e, m.site id⟩] else []

/-- An event at the site that is watched is a moment. -/
theorem momentAt_self {m : Machine} {id : Nat} {s : Site} (hs : m.sites[id]? = some s) (e : Event) :
    m.momentAt id id e = [⟨e, s⟩] := by
  rw [momentAt, if_pos rfl, site_eq hs]

/-- An event at another site is none. -/
theorem momentAt_of_ne {id i : Nat} (hi : i ≠ id) (m : Machine) (e : Event) :
    m.momentAt id i e = [] := if_neg hi

/-- The machine on which the plan of a hit runs. -/
def hitBegun (m : Machine) (i : Nat) (found : Site) : Machine :=
  m.modifySite i fun _ => found.countHit

/-- The binding that is resolved for a miss, and the machine on which its plan runs. -/
def missBegun (m : Machine) (i : Nat) (args : List Value) : Binding × Machine :=
  (m.modifySite i Site.countMiss).anchor ((m.site i).binder.resolve args)

end Machine

/-- The machine that a plan leaves. -/
def Perform.ended (p : Perform) (plan : Plan) (args : List Value) (m : Machine) : Machine :=
  ((p (.execute plan args)).run.run m).2

/-- What shows at the site `id` while a call goes through the site `i`. -/
inductive CallShows (id : Nat) (p : Perform) (watch : Watch) (binder : Binder) (i : Nat)
    (args : List Value) (m : Machine) : List Moment → Prop
  | refused (h : ¬ binder.operation.Accepts args) :
    CallShows id p watch binder i args m (m.momentAt id i (.refusal args))
  | hit {γ : Binding} {found : Site} {moments : List Moment} (h : binder.operation.Accepts args)
    (hlookup : (m.site i).lookup? args = some (γ, found))
    (hplan : watch (.execute γ.plan args) (m.hitBegun i found) moments) :
    CallShows id p watch binder i args m
      ((m.hitBegun i found).momentAt id i (.call args ((m.site i).binder.resolve args)) ++
        (moments ++ (p.ended γ.plan args (m.hitBegun i found)).momentAt id i .finish))
  | miss {β : Binding} {begun : Machine} {moments : List Moment}
    (h : binder.operation.Accepts args) (hlookup : (m.site i).lookup? args = none)
    (hbegun : m.missBegun i args = (β, begun)) (hplan : watch (.execute β.plan args) begun moments) :
    CallShows id p watch binder i args m
      (begun.momentAt id i (.call args β) ++
        (moments ++
          ((p.ended β.plan args begun).modifySite i (·.install β)).momentAt id i .finish))

/-- What shows at a site while one task is performed whose parts are performed by `p`. -/
inductive StepShows (id : Nat) (p : Perform) (watch : Watch) : Watch
  | call {binder : Binder} {i : Nat} {args : List Value} {m : Machine} {moments : List Moment}
    (h : CallShows id p watch binder i args m moments) :
    StepShows id p watch (.invoke binder (some i) args) m moments
  | course {task : Task} {m : Machine} {moments : List Moment} (hsite : ¬ task.ThroughSite)
    (course : Course Value) (hcourse : ∀ q, step .kept q task = course.run q)
    (h : course.Shows p watch m moments) : StepShows id p watch task m moments

/-- What shows at a site while a task is performed to a depth. -/
def Task.Shows (id : Nat) : Nat → Watch
  | 0 => fun _ _ moments => moments = []
  | depth + 1 => StepShows id (run .kept depth) (Task.Shows id depth)

/-- What shows at a site while a request is fulfilled. -/
def Request.Shows (id depth : Nat) : Request → Machine → List Moment → Prop
  | .call name args, m, moments =>
    match m.siteNames.lookup name with
    | some i => Task.Shows id depth (.invoke (m.site i).binder (some i) args) m moments
    | none => moments = []
  | _, _, moments => moments = []

/-- What shows at a site while a user does what it wants. -/
def Client.Shows (id depth : Nat) : Client → Machine → List Moment → Prop
  | .done, _, moments => moments = []
  | .ask request next, m, moments =>
    ∃ first rest, moments = first ++ rest ∧ request.Shows id depth m first ∧
      (next ((request.perform .kept depth).run.run m).1).Shows id depth
        ((request.perform .kept depth).run.run m).2 rest

/-! ## Something shows -/

/-- Every course shows something if every task does. -/
theorem Course.exists_shows {p : Perform} {watch : Watch}
    (hwatch : ∀ task m, ∃ moments, watch task m moments) (course : Course α) (m : Machine) :
    ∃ moments, course.Shows p watch m moments := by
  induction course generalizing m with
  | done a => exact ⟨[], .done a m⟩
  | act x hx next ih =>
    rcases hrun : x.run.run m with ⟨⟨stop⟩ | ⟨b⟩, n⟩
    · exact ⟨[], .actStopped hrun⟩
    · obtain ⟨moments, h⟩ := ih b n
      exact ⟨moments, .act hrun h⟩
  | perform task next ih =>
    obtain ⟨first, hfirst⟩ := hwatch task m
    rcases hrun : (p task).run.run m with ⟨⟨stop⟩ | ⟨v⟩, n⟩
    · exact ⟨first, .performStopped hfirst hrun⟩
    · obtain ⟨rest, hrest⟩ := ih v n
      exact ⟨first ++ rest, .perform hfirst hrun hrest⟩

/-- Every call of a site shows something. -/
theorem CallShows.exists_shows {watch : Watch}
    (hwatch : ∀ task m, ∃ moments, watch task m moments) (id : Nat) (p : Perform)
    (binder : Binder) (i : Nat) (args : List Value) (m : Machine) :
    ∃ moments, CallShows id p watch binder i args m moments := by
  by_cases hacc : binder.operation.Accepts args
  · cases hlookup : (m.site i).lookup? args with
    | some hit =>
      obtain ⟨γ, found⟩ := hit
      obtain ⟨moments, h⟩ := hwatch (.execute γ.plan args) (m.hitBegun i found)
      exact ⟨_, .hit hacc hlookup h⟩
    | none =>
      rcases hbegun : m.missBegun i args with ⟨β, begun⟩
      obtain ⟨moments, h⟩ := hwatch (.execute β.plan args) begun
      exact ⟨_, .miss hacc hlookup hbegun h⟩
  · exact ⟨_, .refused hacc⟩

/-- Every step shows something. -/
theorem StepShows.exists_shows {watch : Watch}
    (hwatch : ∀ task m, ∃ moments, watch task m moments) (id : Nat) (p : Perform) (task : Task)
    (m : Machine) : ∃ moments, StepShows id p watch task m moments := by
  by_cases hsite : task.ThroughSite
  · cases task with
    | invoke binder site args =>
      cases site with
      | some i =>
        obtain ⟨moments, h⟩ := CallShows.exists_shows hwatch id p binder i args m
        exact ⟨moments, .call h⟩
      | none => exact hsite.elim
    | _ => exact hsite.elim
  · obtain ⟨course, hcourse⟩ := Task.hasCourse hsite
    obtain ⟨moments, h⟩ := course.exists_shows (p := p) hwatch m
    exact ⟨moments, .course hsite course hcourse h⟩

/-- Every task shows something, however deep it goes. -/
theorem Task.exists_shows (id depth : Nat) (task : Task) (m : Machine) :
    ∃ moments, Task.Shows id depth task m moments := by
  induction depth generalizing task m with
  | zero => exact ⟨[], rfl⟩
  | succ depth ih => exact StepShows.exists_shows ih id (run .kept depth) task m

/-- Every request shows something. -/
theorem Request.exists_shows (id depth : Nat) (request : Request) (m : Machine) :
    ∃ moments, request.Shows id depth m moments := by
  cases request with
  | call name args =>
    cases hname : m.siteNames.lookup name with
    | none => exact ⟨[], by simp only [Shows, hname]⟩
    | some i =>
      obtain ⟨moments, h⟩ :=
        Task.exists_shows id depth (.invoke (m.site i).binder (some i) args) m
      exact ⟨moments, by simpa only [Shows, hname] using h⟩
  | _ => exact ⟨[], rfl⟩

/-- Whatever a user does, something shows, if only nothing. -/
theorem Client.exists_shows (id depth : Nat) (client : Client) (m : Machine) :
    ∃ moments, client.Shows id depth m moments := by
  induction client generalizing m with
  | done => exact ⟨[], rfl⟩
  | ask request next ih =>
    obtain ⟨first, hfirst⟩ := request.exists_shows id depth m
    obtain ⟨rest, hrest⟩ := ih ((request.perform .kept depth).run.run m).1
      ((request.perform .kept depth).run.run m).2
    exact ⟨first ++ rest, first, rest, rfl, hfirst, hrest⟩

/-! ### Plans that have nothing performed -/

/-- What the plan does does not depend on who performs tasks. -/
def Plan.Idle (plan : Plan) (args : List Value) : Prop :=
  ∃ x : Exec Value, x.SparesSites ∧ ∀ q, execute q plan args = x

/-- Operators on builtin values have nothing performed. -/
theorem Plan.Idle.binary (i : Script.BinaryImplementation) (operator : Operator)
    (args : List Value) : (Plan.binary i operator).Idle args := by
  refine ⟨onTwo args fun a b => Exec.onStore (i.run operator a b), ?_, fun _ => rfl⟩
  unfold onTwo
  split
  · exact .onStore _
  · exact .fail _

/-- Where nothing is performed, nothing shows. -/
theorem Plan.Idle.shows_nil {plan : Plan} {args : List Value} (h : plan.Idle args)
    (id depth : Nat) (m : Machine) : Task.Shows id (depth + 1) (.execute plan args) m [] := by
  obtain ⟨x, hx, hexecute⟩ := h
  have hcourse : ∀ q, step .kept q (.execute plan args) = (Course.act x hx .done).run q := by
    intro q
    simp only [step, hexecute, Course.run, bind_pure]
  refine .course (fun h => h) (Course.act x hx .done) hcourse ?_
  rcases hrun : x.run.run m with ⟨⟨stop⟩ | ⟨v⟩, n⟩
  · exact .actStopped hrun
  · exact .act hrun (.done v n)

/-- The plan that a call of the site runs. -/
def Machine.servedPlan (m : Machine) (id : Nat) (args : List Value) : Plan :=
  match (m.site id).lookup? args with
  | some (γ, _) => γ.plan
  | none => (m.missBegun id args).1.plan

/-- A call whose plan has nothing performed shows as the call and its end. -/
theorem Request.exists_served {m : Machine} {name : String} {id : Nat} {args : List Value}
    (hname : m.siteNames.lookup name = some id)
    (hacc : (m.site id).binder.operation.Accepts args) (hidle : (m.servedPlan id args).Idle args)
    (depth : Nat) :
    ∃ β s t, Request.Shows id (depth + 2) (.call name args) m
      [⟨.call args β, s⟩, ⟨.finish, t⟩] := by
  have hself : ∀ (n : Machine) (e : Event), n.momentAt id id e = [⟨e, n.site id⟩] :=
    fun _ _ => if_pos rfl
  simp only [Shows, hname]
  cases hlookup : (m.site id).lookup? args with
  | some hit =>
    obtain ⟨γ, found⟩ := hit
    have hplan : m.servedPlan id args = γ.plan := by simp only [Machine.servedPlan, hlookup]
    rw [hplan] at hidle
    have hshows : CallShows id (run .kept (depth + 1)) (Task.Shows id (depth + 1)) _ id args m _ :=
      .hit hacc hlookup (hidle.shows_nil id depth _)
    rw [hself, hself] at hshows
    exact ⟨_, _, _, .call hshows⟩
  | none =>
    rcases hbegun : m.missBegun id args with ⟨β, begun⟩
    have hplan : m.servedPlan id args = β.plan := by
      simp only [Machine.servedPlan, hlookup, hbegun]
    rw [hplan] at hidle
    have hshows : CallShows id (run .kept (depth + 1)) (Task.Shows id (depth + 1)) _ id args m _ :=
      .miss hacc hlookup hbegun (hidle.shows_nil id depth _)
    rw [hself, hself] at hshows
    exact ⟨_, _, _, .call hshows⟩

/-- A user who calls one site and nothing else. -/
def Client.calling (name : String) : List (List Value) → Client
  | [] => .done
  | args :: rest => .ask (.call name args) fun _ => calling name rest

/-- The user passes on the argument lists only. -/
theorem Client.recordFree_calling {lists : List (List Value)} (name : String)
    (h : ∀ args ∈ lists, RecordFreeArgs args) : (Client.calling name lists).RecordFree := by
  induction lists with
  | nil => trivial
  | cons args rest ih =>
    rw [List.forall_mem_cons] at h
    exact ⟨h.1, fun _ _ => ih h.2⟩

/-- At each of the calls the site runs a plan that has nothing performed. -/
def Machine.Quiet (id depth : Nat) (name : String) : List (List Value) → Machine → Prop
  | [], _ => True
  | args :: rest, m =>
    m.siteNames.lookup name = some id ∧ (m.site id).binder.operation.Accepts args ∧
      (m.servedPlan id args).Idle args ∧
        Quiet id depth name rest (((Request.call name args).perform .kept (depth + 2)).run.run m).2

/-- Calls whose plans have nothing performed show one after the other. -/
theorem Client.exists_served {id depth : Nat} {name : String} {lists : List (List Value)}
    {m : Machine} (h : m.Quiet id depth name lists) :
    ∃ (moments : List Moment) (served : List (List Value × Binding)),
      (Client.calling name lists).Shows id (depth + 2) m moments ∧
        moments.map (·.event) = served.flatMap Event.served ∧ served.map Prod.fst = lists := by
  induction lists generalizing m with
  | nil => exact ⟨[], [], rfl, rfl, rfl⟩
  | cons args rest ih =>
    obtain ⟨hname, hacc, hidle, hrest⟩ := h
    obtain ⟨β, s, t, hfirst⟩ := Request.exists_served hname hacc hidle depth
    obtain ⟨moments, served, hshows, hevents, hlists⟩ := ih hrest
    refine ⟨_, (args, β) :: served, ⟨_, moments, rfl, hfirst, hshows⟩, ?_, ?_⟩
    · rw [List.map_append, hevents]
      rfl
    · rw [List.map_cons, hlists]

/-! ## What shows is an activity -/

/-- From a machine with the site `s` on, the moments are an activity of it, which is over on the
second machine. -/
def LeadsAt (id : Nat) (m n : Machine) (moments : List Moment) : Prop :=
  ∀ ⦃s : Site⦄, m.sites[id]? = some s →
    ∃ t, n.sites[id]? = some t ∧ ∀ pending, Activity.Leads ⟨s, pending⟩ moments ⟨t, pending⟩

/-- What is said to show while tasks are performed is an activity. -/
def Watch.Faithful (id : Nat) (p : Perform) (watch : Watch) : Prop :=
  ∀ ⦃task : Task⦄ ⦃m : Machine⦄ ⦃moments : List Moment⦄, watch task m moments →
    LeadsAt id m ((p task).run.run m).2 moments

section Faithful

variable {id : Nat} {m n o : Machine} {moments more : List Moment} {p : Perform} {watch : Watch}

/-- What spares the site is no event. -/
theorem LeadsAt.of_spares (h : m.Spares n) : LeadsAt id m n [] :=
  fun s hs => ⟨s, h hs, fun _ => .nil _⟩

/-- What goes on at other sites is no event. -/
theorem LeadsAt.modifySite {i : Nat} (hi : i ≠ id) (change : Site → Site) :
    LeadsAt id m (m.modifySite i change) [] := by
  intro s hs
  refine ⟨s, ?_, fun _ => .nil _⟩
  rw [Machine.getElem?_sites_modifySite, if_neg hi]
  exact hs

/-- An activity goes on where the last one ended. -/
theorem LeadsAt.append (h : LeadsAt id m n moments) (h' : LeadsAt id n o more) :
    LeadsAt id m o (moments ++ more) := by
  intro s hs
  obtain ⟨t, ht, hleads⟩ := h hs
  obtain ⟨u, hu, hleads'⟩ := h' ht
  exact ⟨u, hu, fun pending => (hleads pending).append (hleads' pending)⟩

/-- Acts spare the site, and each task shows an activity. -/
theorem Course.Shows.leadsAt (hwatch : Watch.Faithful id p watch) {course : Course α}
    (h : course.Shows p watch m moments) :
    LeadsAt id m ((course.run p).run.run m).2 moments := by
  induction h with
  | done a m => exact .of_spares fun _ _ hs => hs
  | @act β x hx next m n b moments hrun _ ih =>
    have hspares := hx m
    rw [hrun] at hspares
    simp only [Course.run, DynamicBinding.run_bind, hrun]
    exact (LeadsAt.of_spares hspares).append ih
  | @actStopped β x hx next m n stop hrun =>
    have hspares := hx m
    rw [hrun] at hspares
    simp only [Course.run, DynamicBinding.run_bind, hrun]
    exact .of_spares hspares
  | perform hfirst hrun _ ih =>
    have hleads := hwatch hfirst
    rw [hrun] at hleads
    simp only [Course.run, DynamicBinding.run_bind, hrun]
    exact hleads.append ih
  | performStopped hfirst hrun =>
    have hleads := hwatch hfirst
    rw [hrun] at hleads
    simp only [Course.run, DynamicBinding.run_bind, hrun]
    exact hleads

/-! ### Calls of sites -/

/-- Reading gives the machine. -/
theorem run_get (m : Machine) : (get : Exec Machine).run.run m = (.ok m, m) := rfl

/-- A change is made at once. -/
theorem run_modifyGet (f : Machine → α × Machine) (m : Machine) :
    (modifyGet f : Exec α).run.run m = (.ok (f m).1, (f m).2) := rfl

/-- A change without an answer is made at once. -/
theorem run_modify (f : Machine → Machine) (m : Machine) :
    (modify f : Exec PUnit).run.run m = (.ok ⟨⟩, f m) := rfl

/-- What comes afterwards is done to what is left. -/
theorem run_afterwards (x : Exec α) (change : Machine → Machine) (m : Machine) :
    (Exec.afterwards x change).run.run m = ((x.run.run m).1, change (x.run.run m).2) := rfl

variable {binder : Binder} {i : Nat} {args : List Value}

/-- A hit runs the plan of the binding that was found. -/
theorem invoke_hit (hacc : binder.operation.Accepts args) {γ : Binding} {found : Site}
    (hlookup : (m.site i).lookup? args = some (γ, found)) :
    (invoke .kept p binder (some i) args).run.run m =
      (p (.execute γ.plan args)).run.run (m.hitBegun i found) := by
  rw [invoke_of_accepts hacc]
  simp only [invoke.answer, invokeSite, run_bind, run_get, hlookup, run_modify]
  rfl

/-- A miss runs the plan that was resolved, and installs its binding whatever comes of it. -/
theorem invoke_miss (hacc : binder.operation.Accepts args) {β : Binding}
    (hlookup : (m.site i).lookup? args = none) (hbegun : m.missBegun i args = (β, n)) :
    (invoke .kept p binder (some i) args).run.run m =
      (((p (.execute β.plan args)).run.run n).1,
        (p.ended β.plan args n).modifySite i (·.install β)) := by
  rw [invoke_of_accepts hacc]
  rw [Machine.missBegun] at hbegun
  simp only [invoke.answer, invokeSite, run_bind, run_get, hlookup, run_modify, run_modifyGet,
    hbegun, run_afterwards]
  rfl

/-- A miss that has begun touches its own site by a count only. -/
theorem Machine.spares_missBegun {β : Binding} (hbegun : m.missBegun i args = (β, n)) :
    (m.modifySite i Site.countMiss).Spares n := by
  have hspares := (m.modifySite i Site.countMiss).spares_anchor ((m.site i).binder.resolve args)
  rw [missBegun] at hbegun
  rwa [hbegun] at hspares

/-- A call through another site shows as what its plan shows. -/
theorem CallShows.leadsAt_of_ne (hi : i ≠ id) (hwatch : Watch.Faithful id p watch)
    (h : CallShows id p watch binder i args m moments) :
    LeadsAt id m ((invoke .kept p binder (some i) args).run.run m).2 moments := by
  cases h with
  | refused hacc =>
    obtain ⟨expected, -, -, hrefused⟩ := invoke_of_not_accepts hacc
    rw [hrefused, Machine.momentAt_of_ne hi]
    exact .of_spares fun _ _ hs => hs
  | hit hacc hlookup hplan =>
    rw [invoke_hit hacc hlookup, Machine.momentAt_of_ne hi, Machine.momentAt_of_ne hi,
      List.append_nil]
    exact (LeadsAt.modifySite hi _).append (hwatch hplan)
  | @miss β begun moments hacc hlookup hbegun hplan =>
    rw [invoke_miss hacc hlookup hbegun, Machine.momentAt_of_ne hi, Machine.momentAt_of_ne hi]
    have hcounted : LeadsAt id m begun [] :=
      (LeadsAt.modifySite hi _).append (.of_spares (Machine.spares_missBegun hbegun))
    exact hcounted.append ((hwatch hplan).append (.modifySite hi _))

/-- An event at the site itself. -/
theorem leads_momentAt {s t : Site} {pending after : List (Option Binding)} {e : Event}
    (ht : n.sites[id]? = some t) (hstep : Activity.step ⟨s, pending⟩ e = ⟨t, after⟩) :
    Activity.Leads ⟨s, pending⟩ (n.momentAt id id e) ⟨t, after⟩ := by
  have hleads := Activity.Leads.single ⟨s, pending⟩ e
  rw [hstep] at hleads
  rw [Machine.momentAt_self ht]
  exact hleads

/-- A call through the site shows between its beginning and its end. -/
theorem CallShows.leadsAt_self (hwatch : Watch.Faithful id p watch)
    (h : CallShows id p watch binder id args m moments) :
    LeadsAt id m ((invoke .kept p binder (some id) args).run.run m).2 moments := by
  intro s hs
  have hsite := Machine.site_eq hs
  cases h with
  | refused hacc =>
    obtain ⟨expected, -, -, hrefused⟩ := invoke_of_not_accepts hacc
    rw [hrefused]
    exact ⟨s, hs, fun pending => leads_momentAt hs rfl⟩
  | @hit γ found moments hacc hlookup hplan =>
    have hbegun : (m.hitBegun id found).sites[id]? = some found.countHit := by
      rw [Machine.hitBegun, Machine.getElem?_sites_modifySite, if_pos rfl, hs]
      rfl
    obtain ⟨t, ht, hleads⟩ := hwatch hplan hbegun
    rw [invoke_hit hacc hlookup]
    refine ⟨t, ht, fun pending => ?_⟩
    have hcall : Activity.step ⟨s, pending⟩ (.call args ((m.site id).binder.resolve args)) =
        ⟨found.countHit, none :: pending⟩ := by
      rw [hsite] at hlookup
      simp only [Activity.step, hlookup]
    exact (leads_momentAt hbegun hcall).append
      ((hleads (none :: pending)).append (leads_momentAt ht rfl))
  | @miss β begun moments hacc hlookup hmiss hplan =>
    have hbegun : begun.sites[id]? = some s.countMiss := by
      apply Machine.spares_missBegun hmiss
      rw [Machine.getElem?_sites_modifySite, if_pos rfl, hs]
      rfl
    obtain ⟨t, ht, hleads⟩ := hwatch hplan hbegun
    -- the plan may have come back to the site: the binding is installed in what it left
    have hended : ((p.ended β.plan args begun).modifySite id (·.install β)).sites[id]? =
        some (t.install β) := by
      rw [Machine.getElem?_sites_modifySite, if_pos rfl, Perform.ended, ht]
      rfl
    rw [invoke_miss hacc hlookup hmiss]
    refine ⟨t.install β, hended, fun pending => ?_⟩
    have hcall : Activity.step ⟨s, pending⟩ (.call args β) =
        ⟨s.countMiss, some β :: pending⟩ := by
      rw [hsite] at hlookup
      simp only [Activity.step, hlookup]
    exact (leads_momentAt hbegun hcall).append
      ((hleads (some β :: pending)).append (leads_momentAt hended rfl))

/-- A call through a site is an activity of that site, and none of any other. -/
theorem CallShows.leadsAt (hwatch : Watch.Faithful id p watch)
    (h : CallShows id p watch binder i args m moments) :
    LeadsAt id m ((invoke .kept p binder (some i) args).run.run m).2 moments := by
  by_cases hi : i = id
  · subst hi
    exact h.leadsAt_self hwatch
  · exact h.leadsAt_of_ne hi hwatch

/-! ### Runs -/

/-- One task is an activity if its parts are. -/
theorem StepShows.faithful (hwatch : Watch.Faithful id p watch) :
    Watch.Faithful id (step .kept p) (StepShows id p watch) := by
  intro task m moments h
  cases h with
  | call h => exact h.leadsAt hwatch
  | course _ course hcourse h =>
    rw [hcourse]
    exact h.leadsAt hwatch

/-- **What shows while a task is performed is an activity** of the site, however deep it goes. -/
theorem Task.Shows.faithful (id depth : Nat) :
    Watch.Faithful id (DynamicBinding.run .kept depth) (Task.Shows id depth) := by
  induction depth with
  | zero =>
    intro task m moments h
    obtain rfl : moments = [] := h
    exact .of_spares fun _ _ hs => hs
  | succ depth ih => exact StepShows.faithful ih

/-- A request shows the activity of the one call that it may be, or nothing. -/
theorem Request.Shows.leadsAt {depth : Nat} {request : Request}
    (h : request.Shows id depth m moments) :
    LeadsAt id m ((request.perform .kept depth).run.run m).2 moments := by
  cases request with
  | openSite name binder capacity =>
    obtain rfl : moments = [] := h
    exact .of_spares (m.spares_addSite (.withCapacity binder capacity))
  | make literal =>
    obtain rfl : moments = [] := h
    exact .of_spares (literal.make_sparesSites m)
  | define name v =>
    obtain rfl : moments = [] := h
    exact .of_spares fun _ _ hs => hs
  | call name args =>
    simp only [Shows] at h
    simp only [Request.perform, run_bind, run_get]
    cases hname : m.siteNames.lookup name with
    | none =>
      simp only [hname] at h
      subst h
      exact .of_spares fun _ _ hs => hs
    | some i =>
      simp only [hname] at h
      exact Task.Shows.faithful id depth h

/-- What shows while a user does what it wants is an activity of the site. -/
theorem Client.Shows.leadsAt {depth : Nat} {client : Client} (h : client.Shows id depth m moments) :
    LeadsAt id m (client.run .kept depth m).2 moments := by
  induction client generalizing m moments with
  | done =>
    obtain rfl : moments = [] := h
    exact .of_spares fun _ _ hs => hs
  | ask request next ih =>
    obtain ⟨first, rest, rfl, hfirst, hrest⟩ := h
    exact hfirst.leadsAt.append (ih _ hrest)

end Faithful

end DynamicBinding
