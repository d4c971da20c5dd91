import DynamicBinding.Proofs.Machine.Expression
/-!
# Calls agree

One run in which sites keep bindings, and one in which every call is resolved afresh, on machines
that agree.

* `Task.Matches` pairs the tasks of the two runs.  The second run knows nothing of sites, neither
  of those that calls go through nor of those that plans were given.
* `invokeSite_agree` is where the two runs differ: a hit runs the plan that resolution would make,
  and a miss (`miss_agree`) gives the plan a site and installs the binding afterwards, whatever
  happened to the site in between.
* The calls of functions, objects and classes agree as soon as their parts do, which are left to
  two ways of performing that agree (`Perform.Agree`).
-/

namespace DynamicBinding

open Exec

/-- The task of a run that keeps bindings, and the same task where nothing is kept. -/
inductive Task.Matches (m : Machine) : Task → Task → Prop
  | invoke {binder : Binder} {site₁ : Option Nat} (site₂ : Option Nat) {args : List Value}
    (hsite : ∀ id, site₁ = some id → m.Hosts id binder) (hargs : RecordFreeArgs args) :
    Matches m (.invoke binder site₁ args) (.invoke binder site₂ args)
  | execute {plan : Plan} {args : List Value} (hplan : plan.siteless.IsResolved)
    (hplaces : m.Places plan) (hargs : RecordFreeArgs args) :
    Matches m (.execute plan args) (.execute plan.siteless args)
  | callValue {callee : Value} {args : List Value} (hcallee : callee.RecordFree)
    (hargs : RecordFreeArgs args) : Matches m (.callValue callee args) (.callValue callee args)
  | callFunction (f : FunctionRef) {args : List Value} (hargs : RecordFreeArgs args) :
    Matches m (.callFunction f args) (.callFunction f args)
  | instantiate (c : ClassRef) {args : List Value} (hargs : RecordFreeArgs args) :
    Matches m (.instantiate c args) (.instantiate c args)

/-- The two ways of performing tasks agree on machines that agree. -/
def Perform.Agree (p₁ p₂ : Perform) : Prop :=
  ∀ {m₁ m₂ : Machine} {t₁ t₂ : Task}, m₁.Tracks m₂ → Task.Matches m₁ t₁ t₂ →
    Exec.Agree Value.RecordFree m₁ m₂ (p₁ t₁) (p₂ t₂)

variable {p₁ p₂ : Perform} {m₁ m₂ : Machine} {args : List Value}

/-- Invoking a binder is performing a task. -/
theorem Perform.Agree.invoke (hp : Perform.Agree p₁ p₂) :
    Invoke.Agree (fun binder site args => p₁ (.invoke binder site args))
      (fun binder site args => p₂ (.invoke binder site args)) :=
  fun site₂ _ htracks hsite hargs => hp htracks (.invoke site₂ hsite hargs)

/-- A plan without a site is the same task for both. -/
theorem Task.Matches.execute_resolved {m : Machine} {plan : Plan} (hplan : plan.IsResolved)
    (hargs : RecordFreeArgs args) : Task.Matches m (.execute plan args) (.execute plan args) := by
  have hplaces : m.Places plan := by
    cases plan with
    | through inner site use =>
      obtain rfl : site = none := hplan
      trivial
    | _ => trivial
  have h := Task.Matches.execute (by rwa [hplan.siteless_eq]) hplaces hargs
  rwa [hplan.siteless_eq] at h

/-- The plan of a binding that was resolved, and may have been given a site, is the task of the
plan that resolution makes. -/
theorem Task.Matches.execute_of_siteless {m : Machine} {binder : Binder} {β : Binding}
    {c : List Value} (hc : RecordFreeArgs c) (hβ : β.siteless = binder.resolve c)
    (hplaces : m.Places β.plan) (hargs : RecordFreeArgs args) :
    Task.Matches m (.execute β.plan args) (.execute (binder.resolve c).plan args) := by
  have hresolved := binder.isResolved_resolve hc
  rw [← hβ] at hresolved ⊢
  exact .execute hresolved hplaces hargs

/-! ## Calls of sites -/

namespace Machine.Tracks

variable {id : Nat} {s : Site} {change : Site → Site}

/-- One site of the first machine changes to one that can be reached. -/
theorem modifySite (h : m₁.Tracks m₂) (hs : m₁.sites[id]? = some s)
    (hbinder : (change s).binder = s.binder) (hreached : (change s).Reached)
    (hplaces : ∀ β ∈ (change s).bindings, m₁.Places β.plan) :
    (m₁.modifySite id change).Tracks m₂ ∧ m₁.Grows (m₁.modifySite id change) :=
  ⟨h.withSites (h.sites.modifySite hs hbinder hreached hplaces) (grows_modifySite hs hbinder),
    grows_modifySite hs hbinder⟩

/-- A binding is installed that was resolved for the site, however the site came to be what it
is. -/
theorem install {binder : Binder} {β : Binding} (h : m₁.Tracks m₂) (hosts : m₁.Hosts id binder)
    (hβ : β.ResolvedFor binder args) (hplaces : m₁.Places β.plan) :
    (m₁.modifySite id (·.install β)).Tracks m₂ ∧ m₁.Grows (m₁.modifySite id (·.install β)) := by
  obtain ⟨s, hs, rfl⟩ := hosts
  have hreached := h.sites.reached hs
  apply h.modifySite hs rfl (hreached.install hβ)
  intro γ hγ
  rcases (Site.bindings_install hreached.sound.distinct β).1 γ hγ with rfl | hγ
  · exact hplaces
  · exact h.sites.places hs γ hγ

/-- A hit runs the plan that resolution makes. -/
theorem hit {binder : Binder} {β : Binding} {t : Site} (h : m₁.Tracks m₂)
    (hosts : m₁.Hosts id binder) (hargs : RecordFreeArgs args)
    (hlookup : (m₁.site id).lookup? args = some (β, t)) :
    (m₁.modifySite id fun _ => t.countHit).Tracks m₂ ∧
      m₁.Grows (m₁.modifySite id fun _ => t.countHit) ∧
        Task.Matches (m₁.modifySite id fun _ => t.countHit) (.execute β.plan args)
          (.execute (binder.resolve args).plan args) := by
  obtain ⟨hsite, rfl⟩ := hosts.site_eq
  have hreached := h.sites.reached hsite
  have hplaces := h.sites.places hsite
  obtain ⟨hβ, -, hbinder, hperm⟩ := Site.lookup?_eq_some hlookup
  have hsiteless := hreached.sound.siteless_of_lookup hargs hlookup
  obtain ⟨htracks, hgrows⟩ :
      (m₁.modifySite id fun _ => t.countHit).Tracks m₂ ∧
        m₁.Grows (m₁.modifySite id fun _ => t.countHit) :=
    h.modifySite hsite hbinder (hreached.hit hlookup) fun γ hγ => hplaces γ (hperm.subset hγ)
  exact ⟨htracks, hgrows, .execute_of_siteless hargs hsiteless ((hplaces β hβ).grows hgrows) hargs⟩

/-- A miss that is counted leaves the bindings of the site as they are. -/
theorem countMiss {binder : Binder} (h : m₁.Tracks m₂) (hosts : m₁.Hosts id binder) :
    (m₁.modifySite id Site.countMiss).Tracks m₂ ∧
      m₁.Grows (m₁.modifySite id Site.countMiss) := by
  obtain ⟨s, hs, rfl⟩ := hosts
  have hplaces := h.sites.places hs
  exact h.modifySite hs rfl (h.sites.reached hs).miss hplaces

end Machine.Tracks

/-- A miss runs the plan that resolution makes, with a site for its nested operation, and installs
the binding when that is done. -/
theorem miss_agree (hp : Perform.Agree p₁ p₂) {id : Nat} {binder : Binder}
    (htracks : m₁.Tracks m₂) (hosts : m₁.Hosts id binder) (hacc : binder.operation.Accepts args)
    (hargs : RecordFreeArgs args) :
    Agree Value.RecordFree m₁ m₂
      (do
        let binding ← modifyGet (·.anchor (binder.resolve args))
        Exec.afterwards (p₁ (.execute binding.plan args)) (·.modifySite id (·.install binding)))
      (p₂ (.execute (binder.resolve args).plan args)) := by
  have hresolved := binder.isResolved_resolve hargs
  have hafter := htracks.anchor hresolved
  obtain ⟨-, hgrows, hsiteless, hplaces⟩ := htracks.sites.anchor hresolved
  refine .modifyGet_left hgrows ?_
  have htask := Task.Matches.execute_of_siteless hargs hsiteless hplaces hargs
  apply Agree.afterwards_left (hp hafter htask)
  -- the site may have changed in the meantime, and the binding goes into what it is now
  intro n₁ n₂ hn hgrows'
  have hosts' := hgrows' (hgrows hosts)
  exact hn.install hosts' ⟨hargs, hacc, hsiteless⟩ (hplaces.grows hgrows')

/-- A call through a site gives what the plan gives that resolution makes. -/
theorem invokeSite_agree (hp : Perform.Agree p₁ p₂) {id : Nat} {binder : Binder}
    (htracks : m₁.Tracks m₂) (hosts : m₁.Hosts id binder) (hacc : binder.operation.Accepts args)
    (hargs : RecordFreeArgs args) :
    Agree Value.RecordFree m₁ m₂ (invokeSite p₁ id args)
      (p₂ (.execute (binder.resolve args).plan args)) := by
  apply Agree.get_left
  cases hlookup : (m₁.site id).lookup? args with
  | some found =>
    obtain ⟨β, t⟩ := found
    obtain ⟨htracks', hgrows, htask⟩ := htracks.hit hosts hargs hlookup
    simp only [hlookup]
    exact .modify_left hgrows (hp htracks' htask)
  | none =>
    obtain ⟨htracks', hgrows⟩ := htracks.countMiss hosts
    obtain ⟨-, rfl⟩ := hosts.site_eq
    simp only [hlookup]
    apply Agree.modify_left hgrows
    exact miss_agree hp htracks' (hgrows hosts) hacc hargs

/-- A call of an operation, through a site or not. -/
theorem invoke_agree (hp : Perform.Agree p₁ p₂) {binder : Binder} {site₁ : Option Nat}
    (site₂ : Option Nat) (htracks : m₁.Tracks m₂)
    (hsite : ∀ id, site₁ = some id → m₁.Hosts id binder) (hargs : RecordFreeArgs args) :
    Agree Value.RecordFree m₁ m₂ (invoke .kept p₁ binder site₁ args)
      (invoke .fresh p₂ binder site₂ args) := by
  by_cases hacc : binder.operation.Accepts args
  · rw [invoke_of_accepts hacc, invoke_of_accepts hacc]
    cases site₁ with
    | some id => exact invokeSite_agree hp htracks (hsite id rfl) hacc hargs
    | none => exact hp htracks (.execute_resolved (binder.isResolved_resolve hargs) hargs)
  · obtain ⟨expected, -, -, hrefused⟩ := invoke_of_not_accepts hacc
    rw [hrefused, hrefused]
    exact .fail htracks _

/-! ## Delegates -/

namespace Signature

/-- A shape makes no record of a value that is none. -/
theorem recordFreeResult_coerce (shape : Shape) {v : Value} (hv : v.RecordFree) :
    RecordFreeResult (shape.coerce v) := by
  unfold Shape.coerce
  split
  · exact (recordFreeResult_ok _).2 hv
  · exact (recordFreeResult_ok _).2 rfl
  · exact (recordFreeResult_ok _).2 rfl
  · exact (recordFreeResult_ok _).2 rfl
  · exact (recordFreeResult_ok _).2 rfl
  · split
    · exact (recordFreeResult_ok _).2 hv
    · exact recordFreeResult_error _

/-- Coercion goes through the arguments one by one. -/
theorem recordFreeArgs_coerceAll {shapes : List Shape} {vs ws : List Value}
    (hvs : RecordFreeArgs vs) (h : coerceAll shapes vs = .ok ws) : RecordFreeArgs ws := by
  induction shapes, vs using coerceAll.induct generalizing ws with
  | case1 shape shapes v vs ih =>
    simp only [coerceAll] at h
    cases hv : shape.coerce v with
    | error e => simp [hv, Except.bind, bind] at h
    | ok w =>
      cases hrest : coerceAll shapes vs with
      | error e => simp [hv, hrest, Except.bind, bind] at h
      | ok others =>
        simp only [hv, hrest, Except.bind, bind, pure, Except.pure, Except.ok.injEq] at h
        subst h
        exact RecordFreeArgs.cons (recordFreeResult_coerce shape hvs.head w hv)
          (ih hvs.tail hrest)
  | case2 shapes vs hne =>
    have hnil : ws = [] := by
      unfold coerceAll at h
      split at h
      · next shape shapes v vs => exact (hne shape shapes v vs rfl rfl).elim
      · exact (Except.ok.inj h).symm
    rw [hnil]
    exact RecordFreeArgs.nil

/-- A call under a signature is the conversions around a call. -/
theorem call_agree (s : Signature) {i₁ i₂ : List Value → Exec Value} {target : Value}
    (htracks : m₁.Tracks m₂) (htarget : target.RecordFree) (hargs : RecordFreeArgs args)
    (hinvoke : ∀ all, RecordFreeArgs all → Agree Value.RecordFree m₁ m₂ (i₁ all) (i₂ all)) :
    Agree Value.RecordFree m₁ m₂ (s.call i₁ target args) (s.call i₂ target args) := by
  unfold call
  split
  · exact .fail htracks _
  · apply Agree.lift_bind htracks
    intro coerced hcoerced
    have hall := RecordFreeArgs.cons htarget (recordFreeArgs_coerceAll hargs hcoerced)
    apply Agree.bind (hinvoke _ hall)
    intro answer n₁ n₂ hanswer hn
    exact .lift hn (recordFreeResult_coerce s.result hanswer)

end Signature

/-- The function that a delegate is holds the value that is wrapped. -/
theorem keeps_makeDelegate (l : Language) {v : Value} (s : Signature) (hv : v.RecordFree)
    (name : String) :
    Effect.Keeps (fun _ => True)
      (modifyGet (·.makeFunction name none (some s) (.delegate l s v))) :=
  .modifyGet fun _ ht => ⟨trivial, ht.makeFunction name none (some s) hv⟩

/-- A value becomes a delegate alike.  Each machine makes the stub and the shared site on its
own. -/
theorem Language.delegate_agree (l : Language) {v : Value} (s : Signature)
    (htracks : m₁.Tracks m₂) (hv : v.RecordFree) :
    Agree Value.RecordFree m₁ m₂ (l.delegate v s) (l.delegate v s) := by
  unfold Language.delegate
  split
  · exact .fail htracks _
  · split
    · exact .pure htracks hv
    · have hstub := htracks.stub s
      refine .modifyGet_left (m₁.grows_stub s) (.modifyGet_right ?_)
      refine .modifyGet_left (Machine.grows_sharedSite _ _) (.modifyGet_right ?_)
      have hshared := hstub.sharedSite (l.delegateBinder s)
      apply Agree.bind (.onStore hshared (keeps_makeDelegate l s hv _))
      intro f n₁ n₂ _ hn
      exact .pure hn rfl

/-! ## Calls of values -/

/-- A function is run by its body, which is read from the store that both have. -/
theorem callFunction_agree (hp : Perform.Agree p₁ p₂) (htracks : m₁.Tracks m₂) (f : FunctionRef)
    (hargs : RecordFreeArgs args) :
    Agree Value.RecordFree m₁ m₂ (callFunction p₁ f args) (callFunction p₂ f args) := by
  have hrun : Agree Value.RecordFree m₁ m₂ (callFunction.run p₁ f args)
      (callFunction.run p₂ f args) := by
    apply Agree.get
    rw [htracks.store_eq]
    have hbody := htracks.store.body f
    split
    · next e he =>
      rw [he] at hbody
      exact Expr.eval_agree hp.invoke hargs htracks e hbody
    · next method receiver he =>
      rw [he] at hbody
      exact hp htracks (.callFunction method (RecordFreeArgs.cons hbody hargs))
    · next language signature target he =>
      rw [he] at hbody
      apply signature.call_agree htracks hbody hargs
      intro all hall
      exact hp htracks (.invoke _ (fun id hid => htracks.sites.shared hid) hall)
  unfold callFunction
  split
  · split
    · exact .fail htracks _
    · exact hrun
  · exact hrun

/-- What is called is found out from the value alone. -/
theorem callValue_agree (hp : Perform.Agree p₁ p₂) (htracks : m₁.Tracks m₂) {callee : Value}
    (hcallee : callee.RecordFree) (hargs : RecordFreeArgs args) :
    Agree Value.RecordFree m₁ m₂ (callValue p₁ callee args) (callValue p₂ callee args) := by
  have hall := RecordFreeArgs.cons hcallee hargs
  unfold callValue
  split
  · exact hp htracks (.callFunction _ hargs)
  · dsimp only
    split
    · next β hβ => exact hp htracks (.execute_resolved (Object.isResolved_bind hcallee hβ) hall)
    · exact .fail htracks _
  · exact .fail htracks _

/-- A new instance is no record. -/
theorem keeps_makeInstance (c : ClassRef) :
    Effect.Keeps Value.RecordFree (modifyGet (·.makeInstance c)) :=
  .modifyGet fun _ hs => ⟨rfl, hs.makeInstance c⟩

/-- Both make the same instance and then call the same initialiser. -/
theorem instantiate_agree (hp : Perform.Agree p₁ p₂) (htracks : m₁.Tracks m₂) (c : ClassRef)
    (hargs : RecordFreeArgs args) :
    Agree Value.RecordFree m₁ m₂ (instantiate p₁ c args) (instantiate p₂ c args) := by
  apply Agree.bind (.onStore htracks (keeps_makeInstance c))
  intro made n₁ n₂ hmade hn
  apply Agree.get
  rw [hn.store_eq]
  split
  · next init hinit =>
    have hinit' := (hn.store.members c).get? hinit
    apply Agree.bind (hp hn (.callValue hinit' (RecordFreeArgs.cons hmade hargs)))
    intro answer o₁ o₂ _ ho
    split
    · exact .pure ho hmade
    · exact .fail ho _
  · split
    · exact .pure hn hmade
    · exact .fail hn _

/-- A method is looked up in the store that both have. -/
theorem callMethod_agree (hp : Perform.Agree p₁ p₂) (htracks : m₁.Tracks m₂) (c : ClassRef)
    (method : String) (hargs : RecordFreeArgs args) :
    Agree Value.RecordFree m₁ m₂ (callMethod p₁ c method args) (callMethod p₂ c method args) := by
  apply Agree.get
  rw [htracks.store_eq]
  split
  · next function hfunction =>
    exact hp htracks (.callValue ((htracks.store.members c).get? hfunction) hargs)
  · exact .fail htracks _

end DynamicBinding
