import DynamicBinding.Proofs.Machine.Client
/-!
# What the guards of resolved bindings are worth

Resolution looks at the arguments once, and its guard decides who else is served by what it made.

* `Binder.executes_alike_of_passes`: whom a guard lets through, its plan serves as a plan of their
  own would, also if either plan performs its nested operation through a site that was in use.
* `Binder.guards_partition`: the guards cut the argument lists into classes.  So no site that can be
  reached keeps two bindings for one argument list.
-/

namespace DynamicBinding

open Exec

variable {a b args : List Value}

/-! ## One guard -/

/-- **A guard licenses its plan** for all that it lets through: the source is that of their own
binding, and the plan does what their own plan does, to any store, with a new site for its nested
operation or with one that was used for whatever else. -/
theorem Binder.executes_alike_of_passes (binder : Binder) (ha : RecordFreeArgs a)
    (hb : RecordFreeArgs b) (hacc : binder.operation.Accepts a)
    (hp : (binder.resolve a).guard.passes b = true) :
    (binder.resolve a).source = (binder.resolve b).source ∧
      (∀ caching depth (m : Machine),
        let anchored := m.anchor (binder.resolve a)
        let own := m.anchor (binder.resolve b)
        (run caching depth (.execute anchored.1.plan b)).run.run anchored.2 =
          (run caching depth (.execute own.1.plan b)).run.run own.2) ∧
      ∀ depth (m n : Machine) (β γ : Binding), m.Tracks n → n.Tracks n →
        β.siteless = binder.resolve a → m.Places β.plan →
          γ.siteless = binder.resolve b → n.Places γ.plan →
            let served := (run .kept depth (.execute β.plan b)).run.run m
            let own := (run .kept depth (.execute γ.plan b)).run.run n
            served.1 = own.1 ∧ served.2.store = own.2.store := by
  have hresolve := (binder.resolve_eq ha hb hacc hp).2
  refine ⟨by rw [hresolve], fun caching depth m => by rw [hresolve], ?_⟩
  intro depth m n β γ hmn hnn hβ hβplaces hγ hγplaces
  -- either plan does what the resolved plan does where nothing is kept
  have hserved := run_agree depth hmn (.execute_of_siteless ha hβ hβplaces hb)
  have hown := run_agree depth hnn (.execute_of_siteless hb hγ hγplaces hb)
  rw [hresolve] at hown
  refine ⟨hserved.same.trans hown.same.symm, ?_⟩
  rw [← hserved.tracks.store_eq, ← hown.tracks.store_eq]

/-- Two instances of one class, asked for a member.  The plan for the first is used with a site of
its own, the plan for the second without. -/
theorem membership_executes_alike :
    let c : ClassRef := ⟨0, "C", ["__contains__"]⟩
    let binder : Binder := ⟨.binary .isIn, default⟩
    let inner : Binder := ⟨.invokeMember "__contains__" false 1, default⟩
    let a : List Value := [.int 1, .object (.classInstance 0 c)]
    let b : List Value := [.int 2, .object (.classInstance 1 c)]
    let m := ({ main := default } : Machine).openSite "nested" inner 1
    let served := (run .kept 9 (.execute (.through inner (some 0) (.membership false)) b)).run.run m
    let own := (run .kept 9 (.execute (binder.resolve b).plan b)).run.run m
    (binder.resolve a).guard.passes b = true ∧
      (binder.resolve a).source = (binder.resolve b).source ∧
        (run .kept 9 (.execute (m.anchor (binder.resolve a)).1.plan b)).run.run
            (m.anchor (binder.resolve a)).2 =
          (run .kept 9 (.execute (m.anchor (binder.resolve b)).1.plan b)).run.run
            (m.anchor (binder.resolve b)).2 ∧
        served.1 = own.1 ∧ served.2.store = own.2.store := by
  intro c binder inner a b m
  have hpair : ∀ i j, RecordFreeArgs [.int i, .object (.classInstance j c)] := fun _ _ =>
    RecordFreeArgs.cons rfl (RecordFreeArgs.cons rfl RecordFreeArgs.nil)
  have hacc : binder.operation.Accepts a := fun n hn => Option.some.inj hn
  have hp : (binder.resolve a).guard.passes b = true := by decide
  have hm : m.Tracks m := (Machine.Tracks.new default).openSite "nested" inner 1 1
  have hosts : m.Hosts 0 inner := ⟨_, rfl, rfl⟩
  obtain ⟨hsource, hanchored, hused⟩ :=
    Binder.executes_alike_of_passes binder (hpair 1 0) (hpair 2 1) hacc hp
  exact ⟨hp, hsource, hanchored .kept 9 m,
    hused 9 m m { binder.resolve a with plan := .through inner (some 0) (.membership false) }
      (binder.resolve b) hm hm rfl hosts rfl trivial⟩

/-! ## All guards -/

/-- **The guards of one binder cut the argument lists into classes.**  A guard lets through the
lists that have the same guard, its own list among them.  A site that can be reached, as every site
of a program can, keeps at most one binding that applies, and serves that one in whatever order the
bindings are. -/
theorem Binder.guards_partition (binder : Binder) :
    (∀ a b, RecordFreeArgs a → RecordFreeArgs b → binder.operation.Accepts a →
      binder.operation.Accepts b →
        ((binder.resolve a).guard.passes b = true ↔
          (binder.resolve a).guard = (binder.resolve b).guard)) ∧
      (∀ a, RecordFreeArgs a → binder.operation.Accepts a →
        (binder.resolve a).guard.passes a = true) ∧
      (∀ s : Site, s.Reached → s.binder = binder → ∀ args, RecordFreeArgs args →
        (s.bindings.filter (·.applies args)).length ≤ 1 ∧
          ∀ bindings : List Binding, bindings.Perm s.bindings →
            (({ s with bindings := bindings } : Site).lookup? args).map Prod.fst =
              (s.lookup? args).map Prod.fst) ∧
      ∀ (client : Client), client.RecordFree → ∀ main depth (id : Nat) (s : Site),
        (client.left depth main).sites[id]? = some s → s.binder = binder → s.Reached := by
  refine ⟨?_, ?_, ?_, ?_⟩
  · intro a b ha hb hacca haccb
    constructor
    · intro hp
      rw [(binder.resolve_eq ha hb hacca hp).2]
    · intro heq
      rw [heq]
      exact binder.resolve_applies hb haccb
  · intro a ha hacc
    exact binder.resolve_applies ha hacc
  · intro s hs _ args hargs
    refine ⟨hs.sound.length_filter_applies_le hargs, ?_⟩
    intro bindings hperm
    rw [Site.map_fst_lookup?, Site.map_fst_lookup?]
    exact hs.sound.find?_applies_perm hargs hperm
  · intro client h main depth id s hs _
    exact Client.reached_of_left h depth hs

/-- Sums: two whole numbers share a guard with two others, and a site that keeps their binding and
that of two floats serves both pairs with it, in either order. -/
theorem guards_partition_sums :
    let binder : Binder := ⟨.binary .add, default⟩
    let a : List Value := [.int 1, .int 2]
    let b : List Value := [.int 3, .int 4]
    let floats : List Value := [.float default, .float default]
    let first := (Site.withCapacity binder 2).install (binder.resolve a)
    let s := first.install (binder.resolve floats)
    ((binder.resolve a).guard.passes b = true ↔
        (binder.resolve a).guard = (binder.resolve b).guard) ∧
      (binder.resolve a).guard.passes a = true ∧
      (s.bindings.filter (·.applies b)).length ≤ 1 ∧
      (({ s with bindings := s.bindings.reverse } : Site).lookup? b).map Prod.fst =
        (s.lookup? b).map Prod.fst ∧
      ∀ depth (id : Nat) (t : Site),
        ((Client.reentrant default).left depth default).sites[id]? = some t →
          t.binder = binder → t.Reached := by
  intro binder a b floats first s
  have hargs : ∀ i j, RecordFreeArgs [.int i, .int j] := fun _ _ =>
    RecordFreeArgs.cons rfl (RecordFreeArgs.cons rfl RecordFreeArgs.nil)
  have hfloats : RecordFreeArgs floats :=
    RecordFreeArgs.cons rfl (RecordFreeArgs.cons rfl RecordFreeArgs.nil)
  have hacc : ∀ v w, binder.operation.Accepts [v, w] := fun _ _ n hn => Option.some.inj hn
  have hfirst : first.Reached := (Site.Reached.new binder 2).install ⟨hargs 1 2, hacc _ _, rfl⟩
  have hs : s.Reached := hfirst.install ⟨hfloats, hacc _ _, rfl⟩
  obtain ⟨hguard, hown, hsite, hprogram⟩ := Binder.guards_partition binder
  obtain ⟨hone, horder⟩ := hsite s hs rfl b (hargs 3 4)
  exact ⟨hguard a b (hargs 1 2) (hargs 3 4) (hacc _ _) (hacc _ _), hown a (hargs 1 2) (hacc _ _),
    hone, horder s.bindings.reverse (List.reverse_perm _),
    hprogram (Client.reentrant default) (Client.recordFree_reentrant default) default⟩

end DynamicBinding
