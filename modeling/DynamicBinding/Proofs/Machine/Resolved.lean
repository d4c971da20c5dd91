import DynamicBinding.Proofs.Machine.Moments
/-!
# What is resolved where there are no records

A user that brings in no records calls a site without records, and so do all plans that run for it.
So every binding that shows at the site was resolved for the arguments of its call.

That the arguments of *all* calls are free of records does not follow from what runs answer.  It
does follow from their agreement for all ways of performing tasks: `Perform.guarded` stops with an
error at the first task that has no counterpart where nothing is kept, and since the run without
bindings knows nothing of that error, there is no such task (`Course.Shows.resolvedCalls`).
-/

namespace DynamicBinding

open Site (Event Moment)

variable {α : Type} {p p₁ p₂ : Perform} {m n : Machine} {id : Nat} {binder : Binder}
  {moments more : List Moment} {watch : Watch} {args : List Value}

/-! ## Tasks with a counterpart -/

/-- The task has a counterpart in a run that keeps nothing. -/
def Task.Tracked (m : Machine) (task : Task) : Prop :=
  ∃ n other, m.Tracks n ∧ Task.Matches m task other

open Classical in
/-- Performs the tasks that have a counterpart, and stops with the error at any other. -/
noncomputable def Perform.guarded (p : Perform) (e : RuntimeError) : Perform := fun task =>
  ExceptT.mk fun m => if task.Tracked m then (p task).run.run m else (.error (.error e), m)

/-- A task with a counterpart is performed as before. -/
theorem Perform.guarded_of_tracked {task : Task} (h : task.Tracked m) (e : RuntimeError) :
    (p.guarded e task).run.run m = (p task).run.run m := if_pos h

/-- At any other task the error is raised. -/
theorem Perform.guarded_of_not_tracked {task : Task} (h : ¬ task.Tracked m) (e : RuntimeError) :
    (p.guarded e task).run.run m = (.error (.error e), m) := if_neg h

/-- Stopping at other tasks makes no difference to the tasks of two runs that agree. -/
theorem Perform.Agree.guarded (hp : Perform.Agree p₁ p₂) (e : RuntimeError) :
    Perform.Agree (p₁.guarded e) p₂ := by
  intro m₁ m₂ t₁ t₂ htracks hmatches
  have hsame := Perform.guarded_of_tracked (p := p₁) ⟨m₂, t₂, htracks, hmatches⟩ e
  obtain ⟨same, good, tracks, grows⟩ := hp htracks hmatches
  rw [← hsame] at same good tracks grows
  exact ⟨same, good, tracks, grows⟩

/-! ## Calls -/

/-- The bindings of all calls were resolved for their arguments. -/
def ResolvedCalls (binder : Binder) (moments : List Moment) : Prop :=
  ∀ call ∈ Site.calls (moments.map (·.event)), call.2.ResolvedFor binder call.1

namespace ResolvedCalls

/-- Where nothing shows, no call does. -/
theorem nil : ResolvedCalls binder [] := fun _ h => (nomatch h)

/-- What shows one after the other is judged one after the other. -/
theorem append (h : ResolvedCalls binder moments) (h' : ResolvedCalls binder more) :
    ResolvedCalls binder (moments ++ more) := by
  intro call hcall
  rw [Site.calls, List.map_append, List.filterMap_append, List.mem_append] at hcall
  rcases hcall with hcall | hcall
  · exact h call hcall
  · exact h' call hcall

/-- What has shown so far is judged by itself. -/
theorem of_append (h : ResolvedCalls binder (moments ++ more)) : ResolvedCalls binder moments := by
  intro call hcall
  apply h call
  rw [Site.calls, List.map_append, List.filterMap_append]
  exact List.mem_append_left _ hcall

/-- A moment shows at most one call, of the event that it is about. -/
theorem momentAt {i : Nat} {e : Event}
    (h : i = id → ∀ call, e.call? = some call → call.2.ResolvedFor binder call.1) :
    ResolvedCalls binder (m.momentAt id i e) := by
  by_cases hi : i = id
  · intro call hcall
    rw [Machine.momentAt, if_pos hi] at hcall
    obtain ⟨e', he', hcall'⟩ := List.mem_filterMap.1 hcall
    obtain rfl : e' = e := by simpa using he'
    exact h hi call hcall'
  · rw [Machine.momentAt_of_ne hi]
    exact nil

/-- The end of a call is no call. -/
theorem momentAt_finish {i : Nat} : ResolvedCalls binder (m.momentAt id i .finish) :=
  momentAt fun _ _ h => (nomatch h)

end ResolvedCalls

/-- The bindings of all calls that show were resolved for their arguments, if the task has a
counterpart. -/
def Watch.Resolves (id : Nat) (watch : Watch) : Prop :=
  ∀ ⦃task : Task⦄ ⦃m : Machine⦄ ⦃moments : List Moment⦄ ⦃binder : Binder⦄, task.Tracked m →
    m.Hosts id binder → watch task m moments → ResolvedCalls binder moments

/-- A course has only tasks performed that have a counterpart, because stopping at any other makes
no difference. -/
theorem Course.Shows.resolvedCalls (hp : Perform.Agree p p₂) (hwatch : watch.Resolves id)
    {course : Course α} (h : course.Shows p watch m moments) (hosts : m.Hosts id binder)
    {r : Except Stop α} (hr : ∀ e, ((course.run (p.guarded e)).run.run m).1 = r) :
    ResolvedCalls binder moments := by
  have htracked : ∀ {task : Task} {next : Value → Course α} {m : Machine},
      (∀ e, (((Course.perform task next).run (p.guarded e)).run.run m).1 = r) → task.Tracked m := by
    intro task next m hr
    by_contra hnot
    have hstop : ∀ e, r = .error (.error e) := by
      intro e
      rw [← hr e]
      simp only [Course.run, DynamicBinding.run_bind, Perform.guarded_of_not_tracked hnot]
    -- the answer does not depend on the error, so it cannot be the error
    have hboth := (hstop (.raised "one")).symm.trans (hstop (.raised "other"))
    simp at hboth
  induction h with
  | done => exact .nil
  | @act β x hx next m n b moments hrun _ ih =>
    have hspares := hx m
    rw [hrun] at hspares
    have hosts' : n.Hosts id binder := by
      obtain ⟨s, hs, hbinder⟩ := hosts
      exact ⟨s, hspares hs, hbinder⟩
    apply ih hosts'
    intro e
    rw [← hr e]
    simp only [Course.run, DynamicBinding.run_bind, hrun]
  | actStopped => exact .nil
  | @perform task next m n v first rest hfirst hrun _ ih =>
    have htask := htracked hr
    obtain ⟨m₂, other, htracks, hmatches⟩ := htask
    have hgrows := (hp htracks hmatches).grows
    rw [hrun] at hgrows
    refine (hwatch ⟨m₂, other, htracks, hmatches⟩ hosts hfirst).append (ih (hgrows hosts) ?_)
    intro e
    rw [← hr e]
    simp only [Course.run, DynamicBinding.run_bind,
      Perform.guarded_of_tracked ⟨m₂, other, htracks, hmatches⟩, hrun]
  | performStopped hfirst hrun => exact hwatch (htracked hr) hosts hfirst

/-- A call through a site shows the binding that is resolved for it. -/
theorem CallShows.resolvedCalls (hwatch : watch.Resolves id) {called : Binder} {i : Nat}
    (h : CallShows id p watch called i args m moments) (htracks : m.Tracks n)
    (hcalled : m.Hosts i called) (hargs : RecordFreeArgs args) (hosts : m.Hosts id binder) :
    ResolvedCalls binder moments := by
  obtain ⟨-, hbinder⟩ := hcalled.site_eq
  have hsame : i = id → called = binder := by
    rintro rfl
    exact hbinder.symm.trans hosts.site_eq.2
  have hresolved := called.isResolved_resolve hargs
  cases h with
  | refused => exact .momentAt fun _ _ h => (nomatch h)
  | @hit γ found moments hacc hlookup hplan =>
    obtain ⟨htracks', hgrows, hmatches⟩ := htracks.hit hcalled hargs hlookup
    refine .append (.momentAt fun hi call hcall => ?_) (.append ?_ .momentAt_finish)
    · obtain rfl := Option.some.inj hcall
      rw [← hsame hi, hbinder]
      exact ⟨hargs, hacc, Binding.siteless_eq hresolved⟩
    · exact hwatch ⟨n, _, htracks', hmatches⟩ (hgrows hosts) hplan
  | @miss β begun moments hacc hlookup hbegun hplan =>
    rw [Machine.missBegun, hbinder] at hbegun
    obtain ⟨hcounted, hgrows⟩ := htracks.countMiss hcalled
    have htracks' := hcounted.anchor hresolved
    obtain ⟨-, hgrows', hsiteless, hplaces⟩ := hcounted.sites.anchor hresolved
    have hmatches := Task.Matches.execute_of_siteless hargs hsiteless hplaces hargs
    rw [hbegun] at htracks' hgrows' hsiteless hmatches
    refine .append (.momentAt fun hi call hcall => ?_) (.append ?_ .momentAt_finish)
    · obtain rfl := Option.some.inj hcall
      rw [← hsame hi]
      exact ⟨hargs, hacc, hsiteless⟩
    · exact hwatch ⟨n, _, htracks', hmatches⟩ (hgrows' (hgrows hosts)) hplan

/-! ## Runs -/

/-- In a step, calls are resolved if they are in all tasks below. -/
theorem StepShows.resolves (hp : Perform.Agree p p₂) (hwatch : watch.Resolves id) :
    Watch.Resolves id (StepShows id p watch) := by
  intro task m moments binder htracked hosts h
  obtain ⟨n, other, htracks, hmatches⟩ := htracked
  cases h with
  | call h =>
    cases hmatches with
    | invoke site₂ hsite hargs =>
      exact h.resolvedCalls hwatch htracks (hsite _ rfl) hargs hosts
  | course _ course hcourse h =>
    have hr : ∀ e, ((course.run (p.guarded e)).run.run m).1 =
        ((step .fresh p₂ other).run.run n).1 := by
      intro e
      rw [← hcourse]
      exact (step_agree (hp.guarded e) htracks hmatches).same
    exact h.resolvedCalls hp hwatch hosts hr

/-- However deep a task goes, the calls that show were resolved for their arguments. -/
theorem Task.Shows.resolves (id depth : Nat) : Watch.Resolves id (Task.Shows id depth) := by
  induction depth with
  | zero =>
    intro task m moments binder _ _ h
    obtain rfl : moments = [] := h
    exact .nil
  | succ depth ih => exact StepShows.resolves (DynamicBinding.run_agree depth) ih

/-- So it is with every request of a user without records. -/
theorem Request.Shows.resolvedCalls {depth : Nat} {request : Request}
    (h : request.Shows id depth m moments) (hfree : request.RecordFree) (htracks : m.Tracks n)
    (hosts : m.Hosts id binder) : ResolvedCalls binder moments := by
  cases request with
  | call name args =>
    simp only [Shows] at h
    cases hname : m.siteNames.lookup name with
    | none =>
      simp only [hname] at h
      subst h
      exact .nil
    | some i =>
      simp only [hname] at h
      rcases htracks.named name with ⟨hnone, -⟩ | ⟨i', -, called, hi', hcalled, -, -⟩
      · rw [hname] at hnone
        cases hnone
      · obtain rfl : i = i' := Option.some.inj (hname.symm.trans hi')
        have hsite : ∀ j, some i = some j → m.Hosts j (m.site i).binder := by
          rintro j ⟨⟩
          rw [hcalled.site_eq.2]
          exact hcalled
        have hmatches := Task.Matches.invoke (some i) hsite hfree
        exact Task.Shows.resolves id depth ⟨n, _, htracks, hmatches⟩ hosts h
  | _ =>
    obtain rfl : moments = [] := h
    exact .nil

/-- **All that shows was resolved for its call**, as long as the user brings in no records. -/
theorem Client.Shows.resolvedCalls {depth : Nat} {client : Client}
    (h : client.Shows id depth m moments) (hfree : client.RecordFree) (htracks : m.Tracks n)
    (hosts : m.Hosts id binder) : ResolvedCalls binder moments := by
  induction client generalizing m n moments with
  | done =>
    obtain rfl : moments = [] := h
    exact .nil
  | ask request next ih =>
    obtain ⟨first, rest, rfl, hfirst, hrest⟩ := h
    have hagree := request.perform_agree (fun _ capacity => capacity) depth hfree.1 htracks
    rw [request.resize_self] at hagree
    have hnext := hfree.2 _ fun v hv => hagree.good hv
    exact (hfirst.resolvedCalls hfree.1 htracks hosts).append
      (ih _ hrest hnext hagree.tracks (hagree.grows hosts))

end DynamicBinding
