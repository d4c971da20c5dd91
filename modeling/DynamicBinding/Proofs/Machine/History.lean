import DynamicBinding.Proofs.Machine.Resolved
import DynamicBinding.Proofs.Site.Recency
/-!
# The history of a site

A user opens a site on a machine that was used before, in whatever way, and goes on.  At every moment
from then on the site is what its history made of it.

* `Client.accounts`: the bindings fit in and differ in their guards, and the counters account for all
  calls that came in, also where plans fail or come back to the site.  If calls came one after the
  other, and there were no records, then they account for every binding.
* `Site.Use` is such a history of calls that came one after the other, and `Site.Use.keeps_recent`
  says that the site keeps the guards that were used last, and how sites of different capacity
  compare.
-/

namespace DynamicBinding

open Site (Event Moment Activity)

variable {before after : Client} {left : Machine} {main : Language} {depth : Nat} {name : String}
  {binder : Binder} {capacity : Nat} {moments passed rest : List Moment}

/-! ## A new site -/

/-- A site that is opened comes last, and is empty. -/
theorem Machine.getElem?_sites_openSite (left : Machine) (name : String) (binder : Binder)
    (capacity : Nat) :
    (left.openSite name binder capacity).sites[left.sites.size]? =
      some (.withCapacity binder capacity) := by
  simp [openSite, addSite, nameSite]

/-- What shows at a new site is an activity of it. -/
theorem Client.Shows.leads
    (h : after.Shows left.sites.size depth (left.openSite name binder capacity) moments) :
    ∃ t, (after.run .kept depth (left.openSite name binder capacity)).2.sites[left.sites.size]? =
        some t ∧
      Activity.Leads ⟨.withCapacity binder capacity, []⟩ moments ⟨t, []⟩ := by
  obtain ⟨t, ht, hleads⟩ := h.leadsAt (left.getElem?_sites_openSite name binder capacity)
  exact ⟨t, ht, hleads []⟩

/-- All that shows at a new site was resolved for its call, if the users bring in no records. -/
theorem Client.Shows.resolvedCalls_openSite (hbefore : before.RecordFree)
    (hafter : after.RecordFree)
    (h : after.Shows (before.left depth main).sites.size depth
      ((before.left depth main).openSite name binder capacity) moments) :
    ResolvedCalls binder moments := by
  obtain ⟨n, htracks⟩ := Client.exists_tracks_left hbefore main depth
  have hosts := Machine.getElem?_sites_openSite (before.left depth main) name binder capacity
  exact h.resolvedCalls hafter (htracks.openSite name binder capacity capacity) ⟨_, hosts, rfl⟩

/-- Calls that came one after the other leave what serving them leaves. -/
theorem Site.Activity.Leads.siteAfter_eq_foldl_serve {s : Site} {a : Activity}
    (h : Activity.Leads ⟨s, []⟩ passed a) (hone : Site.OneByOne (passed.map (·.event))) :
    a = ⟨(Site.calls (passed.map (·.event))).foldl Site.serve s, []⟩ ∧
      Site.siteAfter s passed = (Site.calls (passed.map (·.event))).foldl Site.serve s := by
  have hrun := h.eq_run
  rw [Activity.run_oneByOne hone] at hrun
  refine ⟨hrun, ?_⟩
  rw [h.siteAfter_eq, hrun]

/-- After calls that came one after the other, the site is settled. -/
theorem Client.Shows.settled (hbefore : before.RecordFree) (hafter : after.RecordFree)
    (h : after.Shows (before.left depth main).sites.size depth
      ((before.left depth main).openSite name binder capacity) (passed ++ rest))
    (hone : Site.OneByOne (passed.map (·.event))) :
    (Site.siteAfter (.withCapacity binder capacity) passed).Settled := by
  obtain ⟨t, -, hleads⟩ := h.leads
  obtain ⟨a, hpassed, -⟩ := hleads.split
  have hresolved := (h.resolvedCalls_openSite hbefore hafter).of_append
  rw [(hpassed.siteAfter_eq_foldl_serve hone).2]
  exact (Site.Settled.new binder capacity).foldl_serve hresolved

/-- What leads on from a new site keeps the accounts of all that came in. -/
theorem Site.Activity.Leads.accounts_siteAfter {a : Activity}
    (h : Activity.Leads ⟨.withCapacity binder capacity, []⟩ passed a) :
    (Site.siteAfter (.withCapacity binder capacity) passed).capacity = max 1 capacity ∧
      (Site.siteAfter (.withCapacity binder capacity) passed).Accounts
        (passed.countP (·.event.isCall)) 0 := by
  have hsite : Site.siteAfter (.withCapacity binder capacity) passed = a.site := h.siteAfter_eq
  have hcount : passed.countP (·.event.isCall) = (passed.map (·.event)).countP (·.isCall) := by
    rw [List.countP_map]
    rfl
  rw [hsite, hcount, h.eq_run]
  exact ⟨Activity.capacity_run _ _, Activity.accounts_new binder capacity _⟩

/-! ## Accounts -/

/-- **The accounts of a site are right at every moment.** -/
theorem Client.accounts (before after : Client) (main : Language) (depth : Nat) (name : String)
    (binder : Binder) (capacity : Nat) :
    let left := before.left depth main
    let opened := left.openSite name binder capacity
    let site := Site.withCapacity binder capacity
    (∀ events : List Event,
      (Activity.run ⟨site, []⟩ events).site.Accounts (events.countP (·.isCall)) 0) ∧
    (∃ moments, after.Shows left.sites.size depth opened moments) ∧
    (∀ moments, after.Shows left.sites.size depth opened moments →
      (after.run .kept depth opened).2.sites[left.sites.size]? =
          some (Site.siteAfter site moments) ∧
        ∀ passed rest, moments = passed ++ rest →
          let s := Site.siteAfter site passed
          s.capacity = max 1 capacity ∧ s.Accounts (passed.countP (·.event.isCall)) 0 ∧
            (before.RecordFree → after.RecordFree → Site.OneByOne (passed.map (·.event)) →
              s.bindings.length + s.evictions = s.misses)) ∧
    ∀ (p : Perform) (caching : Caching) (id : Option Nat) (args : List Value) (m : Machine),
      ¬ binder.operation.Accepts args →
        ∃ expected, binder.operation.siteArity? = some expected ∧ args.length ≠ expected ∧
          (invoke caching p binder id args).run.run m =
            (.error (.error (.argumentCount expected args.length)), m) := by
  intro left opened site
  refine ⟨Activity.accounts_new binder capacity, after.exists_shows _ depth opened,
    fun moments h => ?_, ?_⟩
  · obtain ⟨t, ht, hleads⟩ := h.leads
    refine ⟨?_, fun passed rest hsplit => ?_⟩
    · rw [hleads.siteAfter_eq]
      exact ht
    · subst hsplit
      obtain ⟨a, hpassed, -⟩ := hleads.split
      obtain ⟨hcapacity, haccounts⟩ := hpassed.accounts_siteAfter
      refine ⟨hcapacity, haccounts, fun hbefore hafter hone => ?_⟩
      exact (h.settled hbefore hafter hone).balanced
  · intro p caching id args m hacc
    obtain ⟨expected, hexpected, hlen, hrefused⟩ := invoke_of_not_accepts hacc
    refine ⟨expected, hexpected, hlen, ?_⟩
    rw [hrefused]
    rfl

/-! ### Sums through one site -/

namespace SumSite

/-- Additions of the script language. -/
def sums : Binder := ⟨.binary .add, default⟩

/-- Two whole numbers. -/
def ints : List Value := [.int 1, .int 2]

/-- Two floats. -/
def floats : List Value := [.float default, .float default]

/-- A user who adds whole numbers, floats, and the whole numbers again. -/
def user : Client := Client.calling "sum" [ints, floats, ints]

/-- A machine on which the user has opened the site. -/
def machine (capacity : Nat) : Machine :=
  ({ main := default } : Machine).openSite "sum" sums capacity

/-- There are only numbers among the arguments. -/
theorem recordFree_args : ∀ args ∈ [ints, floats, ints], RecordFreeArgs args := by
  have hargs : ∀ v w : Value, v.RecordFree → w.RecordFree → RecordFreeArgs [v, w] :=
    fun _ _ hv hw => RecordFreeArgs.cons hv (RecordFreeArgs.cons hw RecordFreeArgs.nil)
  simp only [List.forall_mem_cons]
  exact ⟨hargs _ _ rfl rfl, hargs _ _ rfl rfl, hargs _ _ rfl rfl, fun _ h => (nomatch h)⟩

/-- The user brings in no record. -/
theorem recordFree_user : user.RecordFree := Client.recordFree_calling "sum" recordFree_args

/-- No sum calls anything. -/
theorem quiet (h : capacity = 1 ∨ capacity = 2) :
    (machine capacity).Quiet 0 1 "sum" [ints, floats, ints] := by
  rcases h with rfl | rfl
  · refine ⟨rfl, fun _ hn => Option.some.inj hn, .binary _ _ _, ?_⟩
    refine ⟨rfl, fun _ hn => Option.some.inj hn, .binary _ _ _, ?_⟩
    exact ⟨rfl, fun _ hn => Option.some.inj hn, .binary _ _ _, trivial⟩
  · refine ⟨rfl, fun _ hn => Option.some.inj hn, .binary _ _ _, ?_⟩
    refine ⟨rfl, fun _ hn => Option.some.inj hn, .binary _ _ _, ?_⟩
    exact ⟨rfl, fun _ hn => Option.some.inj hn, .binary _ _ _, trivial⟩

end SumSite

/-- The site has room for one binding, and has dropped two. -/
theorem Client.accounts_sums :
    let site := Site.withCapacity SumSite.sums 1
    ∃ moments, SumSite.user.Shows 0 3 (SumSite.machine 1) moments ∧
      Site.OneByOne (moments.map (·.event)) ∧
      (Site.siteAfter site moments).bindings.length ≤ 1 ∧
      (Site.siteAfter site moments).hits + (Site.siteAfter site moments).misses = 3 ∧
      (Site.siteAfter site moments).bindings.length + (Site.siteAfter site moments).evictions =
        (Site.siteAfter site moments).misses ∧
      ∃ expected, (invoke .kept (DynamicBinding.run .kept 3) SumSite.sums (some 0)
          [.int 1]).run.run (SumSite.machine 1) =
        (.error (.error (.argumentCount expected 1)), SumSite.machine 1) := by
  intro site
  obtain ⟨moments, served, hshows, hevents, hlists⟩ :=
    Client.exists_served (SumSite.quiet (.inl rfl))
  have hone : Site.OneByOne (moments.map (·.event)) := by
    rw [hevents]
    exact Site.oneByOne_flatMap_served served
  have hthree : moments.countP (·.event.isCall) = 3 := by
    have hcount := Site.countP_isCall (moments.map (·.event))
    rw [List.countP_map, hevents, Site.calls_flatMap_served] at hcount
    exact hcount.trans ((List.length_map Prod.fst).symm.trans (congrArg List.length hlists))
  obtain ⟨-, -, hmoments, hrefused⟩ :=
    Client.accounts .done SumSite.user default 3 "sum" SumSite.sums 1
  obtain ⟨-, hevery⟩ := hmoments moments hshows
  obtain ⟨hcapacity, haccounts, hbalanced⟩ := hevery moments [] (List.append_nil moments).symm
  have hrefuses : ¬ SumSite.sums.operation.Accepts [.int 1] := fun h => nomatch h 2 rfl
  obtain ⟨expected, -, -, herror⟩ :=
    hrefused (DynamicBinding.run .kept 3) .kept (some 0) [.int 1] (SumSite.machine 1) hrefuses
  refine ⟨moments, hshows, hone, ?_, haccounts.counted.trans hthree, ?_, expected, herror⟩
  · exact Nat.le_trans haccounts.bounded (Nat.le_of_eq hcapacity)
  · exact hbalanced trivial SumSite.recordFree_user hone

/-! ## One call after the other -/

/-- A new site was called some times, each time after the last call had ended.  Nothing else is said
of what the user did before and in between, but that no records came in. -/
structure Site.Use (binder : Binder) (capacity : Nat) where
  before : Client
  after : Client
  main : Language
  depth : Nat
  name : String
  passed : List Moment
  /-- What shows later. -/
  rest : List Moment
  recordFree_before : before.RecordFree
  recordFree_after : after.RecordFree
  shows : after.Shows (before.left depth main).sites.size depth
    ((before.left depth main).openSite name binder capacity) (passed ++ rest)
  oneByOne : Site.OneByOne (passed.map (·.event))

namespace Site.Use

/-- The arguments of the calls. -/
def history (u : Use binder capacity) : List (List Value) :=
  (Site.calls (u.passed.map (·.event))).map Prod.fst

/-- The guards that resolution makes of the arguments. -/
def guards (u : Use binder capacity) : List Guard :=
  u.history.map fun args => (binder.resolve args).guard

/-- What has become of the site. -/
def site (u : Use binder capacity) : Site :=
  Site.siteAfter (.withCapacity binder capacity) u.passed

variable (u : Use binder capacity)

/-- The site before and after the moments that passed. -/
theorem leads : ∃ a, Activity.Leads ⟨u.site, []⟩ u.rest a := by
  obtain ⟨t, -, hleads⟩ := u.shows.leads
  obtain ⟨a, hpassed, hrest⟩ := hleads.split
  obtain ⟨ha, hsite⟩ := hpassed.siteAfter_eq_foldl_serve u.oneByOne
  rw [ha, ← hsite] at hrest
  exact ⟨_, hrest⟩

/-- The site has served the calls that passed, one after the other. -/
theorem site_eq :
    u.site = (Site.calls (u.passed.map (·.event))).foldl Site.serve
      (.withCapacity binder capacity) := by
  obtain ⟨t, -, hleads⟩ := u.shows.leads
  obtain ⟨a, hpassed, -⟩ := hleads.split
  exact (hpassed.siteAfter_eq_foldl_serve u.oneByOne).2

/-- All calls, before and after, have the bindings that resolution makes. -/
theorem resolvedCalls : ResolvedCalls binder (u.passed ++ u.rest) :=
  u.shows.resolvedCalls_openSite u.recordFree_before u.recordFree_after

/-- Between two calls the counters of the site account for all its bindings. -/
theorem settled : u.site.Settled :=
  u.shows.settled u.recordFree_before u.recordFree_after u.oneByOne

/-- The site is still one of the binder. -/
theorem binder_site : u.site.binder = binder := by
  rw [u.site_eq]
  exact Site.binder_foldl_serve _ _

/-- The guards of the bindings that were resolved are those that resolution makes. -/
theorem guards_eq :
    u.guards = (Site.calls (u.passed.map (·.event))).map (·.2.guard) := by
  rw [guards, history, List.map_map]
  apply List.map_congr_left
  intro call hcall
  have hresolved := u.resolvedCalls.of_append call hcall
  exact hresolved.guard_eq.symm

/-- **The site keeps the guards that were used last.** -/
theorem guards_site : u.site.guards = (recent u.guards).take (max 1 capacity) := by
  have hnew : (Site.withCapacity binder capacity).guards =
      (recent ([] : List Guard)).take (Site.withCapacity binder capacity).capacity := by
    simp [recent, Site.guards, Site.withCapacity]
  have hserved := (Site.Settled.new binder capacity).guards_foldl_serve
    u.resolvedCalls.of_append hnew
  rw [u.site_eq, hserved, u.guards_eq, List.nil_append]
  rfl

/-- The next call is a hit if its guard is one of those that are kept, and is counted as what it
is. -/
theorem next {args : List Value} {resolved : Binding} {t : Site} {tail : List Moment}
    (h : u.rest = ⟨.call args resolved, t⟩ :: tail) :
    if (binder.resolve args).guard ∈ u.site.guards then
      t.hits = u.site.hits + 1 ∧ t.misses = u.site.misses
    else t.hits = u.site.hits ∧ t.misses = u.site.misses + 1 := by
  have hresolved : resolved.ResolvedFor u.site.binder args := by
    rw [u.binder_site]
    apply u.resolvedCalls ⟨args, resolved⟩
    rw [h, List.map_append, Site.calls, List.filterMap_append]
    exact List.mem_append_right _ List.mem_cons_self
  have hiff := u.settled.sound.isSome_lookup?_iff hresolved
  rw [hresolved.guard_eq, u.binder_site] at hiff
  obtain ⟨a, hleads⟩ := u.leads
  rw [h] at hleads
  cases hleads with
  | cons e hleads =>
    cases hlookup : u.site.lookup? args with
    | some hit =>
      obtain ⟨γ, found⟩ := hit
      rw [hlookup] at hiff
      rw [if_pos (hiff.1 rfl)]
      simp only [Activity.step, hlookup]
      rw [Site.lookup?_frame hlookup]
      exact ⟨rfl, rfl⟩
    | none =>
      rw [hlookup] at hiff
      rw [if_neg fun hmem => Bool.false_ne_true (hiff.2 hmem)]
      simp only [Activity.step, hlookup]
      exact ⟨rfl, rfl⟩

/-- **A site keeps the bindings that were used last**, as many as it has room for, and a call is a
hit if its guard is one of theirs.  A site with less room keeps the first of them, and has a hit only
where the other one has. -/
theorem keeps_recent {binder : Binder} {capacity : Nat} (u : Use binder capacity) :
    let used := (recent u.guards).take (max 1 capacity)
    u.site.guards = used ∧
    (∀ args resolved t tail, u.rest = ⟨.call args resolved, t⟩ :: tail →
      if (binder.resolve args).guard ∈ used then
        t.hits = u.site.hits + 1 ∧ t.misses = u.site.misses
      else t.hits = u.site.hits ∧ t.misses = u.site.misses + 1) ∧
    ∀ smaller ≤ capacity, ∀ v : Use binder smaller, v.history = u.history →
      v.site.guards <+: u.site.guards ∧
      v.site.bindings.map Binding.siteless <+: u.site.bindings.map Binding.siteless ∧
      ∀ args resolved t tail resolved' t' tail', v.rest = ⟨.call args resolved, t⟩ :: tail →
        u.rest = ⟨.call args resolved', t'⟩ :: tail' → t.hits = v.site.hits + 1 →
          t'.hits = u.site.hits + 1 := by
  intro used
  refine ⟨u.guards_site, fun args resolved t tail h => ?_, fun smaller hle v hhistory => ?_⟩
  · have hnext := u.next h
    rwa [u.guards_site] at hnext
  · have hbegins : v.site.guards <+: u.site.guards := by
      rw [v.guards_site, u.guards_site, guards, guards, hhistory]
      exact List.take_prefix_take_left (by omega)
    have hbinder : v.site.binder = u.site.binder := v.binder_site.trans u.binder_site.symm
    refine ⟨hbegins, v.settled.sound.siteless_begins u.settled.sound hbinder hbegins, ?_⟩
    intro args resolved t tail resolved' t' tail' hv hu hhit
    have hsmall := v.next hv
    have hlarge := u.next hu
    by_cases hmem : (binder.resolve args).guard ∈ v.site.guards
    · rw [if_pos (hbegins.subset hmem)] at hlarge
      exact hlarge.1
    · rw [if_neg hmem] at hsmall
      omega

/-- Calls whose plans have nothing performed are such a use, and the last of them may be the next. -/
theorem exists_of_quiet (history : List (List Value)) (args : List Value)
    (hquiet : (({ main := main } : Machine).openSite name binder capacity).Quiet 0 depth name
      (history ++ [args]))
    (hargs : ∀ a ∈ history ++ [args], RecordFreeArgs a) :
    ∃ u : Use binder capacity, u.history = history ∧
      ∃ resolved t tail, u.rest = ⟨.call args resolved, t⟩ :: tail := by
  obtain ⟨moments, served, hshows, hevents, hlists⟩ := Client.exists_served hquiet
  obtain ⟨first, last, rfl, hfirst, hlast⟩ := List.map_eq_append_iff.1 hlists
  rw [List.flatMap_append] at hevents
  obtain ⟨passed, rest, rfl, hpassed, hrest⟩ := List.map_eq_append_iff.1 hevents
  obtain ⟨call, others, rfl, rfl, -⟩ := List.map_eq_cons_iff.1 hlast
  obtain ⟨⟨e, t⟩, tail, rfl, hcall, -⟩ := List.map_eq_cons_iff.1 hrest
  obtain rfl : e = .call call.1 call.2 := hcall
  have hone : Site.OneByOne (passed.map (·.event)) := by
    rw [hpassed]
    exact Site.oneByOne_flatMap_served first
  let u : Use binder capacity :=
    { before := .done, after := Client.calling name (history ++ [call.1]), main := main
      depth := depth + 2, name := name, passed := passed
      rest := ⟨.call call.1 call.2, t⟩ :: tail, recordFree_before := trivial
      recordFree_after := Client.recordFree_calling name hargs, shows := hshows, oneByOne := hone }
  refine ⟨u, ?_, call.2, t, tail, rfl⟩
  show (Site.calls (passed.map (·.event))).map Prod.fst = history
  rw [hpassed, Site.calls_flatMap_served, hfirst]

/-- After sums of whole numbers and of floats, a site with room for two bindings has both, and the
next sum of whole numbers is a hit.  With room for one it is a miss. -/
theorem keeps_recent_sums :
    let ints := (SumSite.sums.resolve SumSite.ints).guard
    let floats := (SumSite.sums.resolve SumSite.floats).guard
    ∃ (u : Use SumSite.sums 2) (v : Use SumSite.sums 1),
      u.history = [SumSite.ints, SumSite.floats] ∧ v.history = u.history ∧
      u.site.guards = [floats, ints] ∧ v.site.guards = [floats] ∧
      v.site.bindings.map Binding.siteless <+: u.site.bindings.map Binding.siteless ∧
      (∃ resolved t tail, u.rest = ⟨.call SumSite.ints resolved, t⟩ :: tail ∧
        t.hits = u.site.hits + 1) ∧
      ∃ resolved t tail, v.rest = ⟨.call SumSite.ints resolved, t⟩ :: tail ∧
        t.misses = v.site.misses + 1 := by
  intro ints floats
  obtain ⟨u, hu, resolved, t, tail, hrest⟩ :=
    exists_of_quiet [SumSite.ints, SumSite.floats] SumSite.ints (SumSite.quiet (.inr rfl))
      SumSite.recordFree_args
  obtain ⟨v, hv, resolved', t', tail', hrest'⟩ :=
    exists_of_quiet [SumSite.ints, SumSite.floats] SumSite.ints (SumSite.quiet (.inl rfl))
      SumSite.recordFree_args
  obtain ⟨hguards, hnext, hsmaller⟩ := u.keeps_recent
  obtain ⟨hguards', hnext', -⟩ := v.keeps_recent
  have hkept : (recent u.guards).take 2 = [floats, ints] := by
    rw [guards, hu]
    decide
  have hkept' : (recent v.guards).take 1 = [floats] := by
    rw [guards, hv]
    decide
  obtain ⟨-, hbegins, -⟩ := hsmaller 1 (by decide) v (hv.trans hu.symm)
  have hhit := hnext _ _ _ _ hrest
  have hmiss := hnext' _ _ _ _ hrest'
  rw [show max 1 2 = 2 from rfl, hkept, if_pos (by decide)] at hhit
  rw [show max 1 1 = 1 from rfl, hkept', if_neg (by decide)] at hmiss
  exact ⟨u, v, hu, hv.trans hu.symm, hguards.trans hkept, hguards'.trans hkept', hbegins,
    ⟨resolved, t, tail, hrest, hhit.1⟩, resolved', t', tail', hrest', hmiss.2⟩

end Site.Use

end DynamicBinding
