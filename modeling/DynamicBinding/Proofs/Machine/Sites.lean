import DynamicBinding.Machine.Evaluation
import DynamicBinding.Proofs.Publisher.Cells
import DynamicBinding.Proofs.Site.Reached
/-!
# The sites of a machine

Positions of sites are written down in many places: in the plans that were given a site, in other
sites, and among the shared sites.  `Machine.SitesSound` says that each leads to a site of the right
binder, and that all sites can be reached.  Sites are only ever added, and never change their
binder, so what is written down once stays right (`Machine.Grows`).
-/

namespace DynamicBinding

/-! ## Sites of a machine -/

namespace Machine

/-- The site at the position is there, and is one of the binder. -/
def Hosts (m : Machine) (id : Nat) (binder : Binder) : Prop :=
  ∃ s, m.sites[id]? = some s ∧ s.binder = binder

/-- The sites of the first machine are there in the second one. -/
def Grows (m n : Machine) : Prop := ∀ ⦃id binder⦄, m.Hosts id binder → n.Hosts id binder

/-- If the plan was given a site, then one of the operation that the plan performs. -/
def Places (m : Machine) : Plan → Prop
  | .through inner (some id) _ => m.Hosts id inner
  | _ => True

/-- The sites of the machine can be reached, and positions lead to sites of the right binder. -/
structure SitesSound (m : Machine) : Prop where
  reached : ∀ {id : Nat} {s : Site}, m.sites[id]? = some s → s.Reached
  places : ∀ {id : Nat} {s : Site}, m.sites[id]? = some s → ∀ β ∈ s.bindings, m.Places β.plan
  shared : ∀ {binder id}, m.shared.get? binder = some id → m.Hosts id binder

variable {m n o : Machine} {id : Nat} {s : Site} {binder : Binder} {plan : Plan}

/-- A machine has its own sites. -/
theorem Grows.refl (m : Machine) : m.Grows m := fun _ _ h => h

/-- Sites that stay through one change and the next stay through both. -/
theorem Grows.trans (h : m.Grows n) (h' : n.Grows o) : m.Grows o := fun _ _ hosts => h' (h hosts)

/-- A plan keeps the site that it was given. -/
theorem Places.grows (h : m.Places plan) (hgrows : m.Grows n) : n.Places plan := by
  cases plan with
  | through inner site use =>
    cases site with
    | none => trivial
    | some id => exact hgrows h
  | _ => trivial

/-- What is at a position is read there. -/
theorem site_eq (hs : m.sites[id]? = some s) : m.site id = s := by
  rw [site, Array.getD_eq_getD_getElem?, hs, Option.getD_some]

/-- The site that is hosted at a position is the one that is read there. -/
theorem Hosts.site_eq (h : m.Hosts id binder) :
    m.sites[id]? = some (m.site id) ∧ (m.site id).binder = binder := by
  obtain ⟨s, hs, hbinder⟩ := h
  rw [Machine.site_eq hs]
  exact ⟨hs, hbinder⟩

/-! ### Changing a site -/

variable {change : Site → Site}

/-- Only the site at the position changes. -/
theorem getElem?_sites_modifySite (m : Machine) (id : Nat) (change : Site → Site) (i : Nat) :
    (m.modifySite id change).sites[i]? =
      if id = i then m.sites[i]?.map change else m.sites[i]? := by
  simp only [modifySite, Array.getElem?_modify]

/-- A change that keeps the binder of the site keeps all positions right. -/
theorem grows_modifySite (hs : m.sites[id]? = some s) (hbinder : (change s).binder = s.binder) :
    m.Grows (m.modifySite id change) := by
  rintro i binder ⟨t, ht, rfl⟩
  by_cases hi : id = i
  · subst hi
    obtain rfl : s = t := Option.some.inj (hs.symm.trans ht)
    exact ⟨change s, by simp [getElem?_sites_modifySite, hs], hbinder⟩
  · exact ⟨t, by simp [getElem?_sites_modifySite, hi, ht], rfl⟩

/-- Changing a site to one that can be reached. -/
theorem SitesSound.modifySite (h : m.SitesSound) (hs : m.sites[id]? = some s)
    (hbinder : (change s).binder = s.binder) (hreached : (change s).Reached)
    (hplaces : ∀ β ∈ (change s).bindings, m.Places β.plan) :
    (m.modifySite id change).SitesSound := by
  have hgrows := grows_modifySite hs hbinder
  have hcases : ∀ {i : Nat} {t : Site}, (m.modifySite id change).sites[i]? = some t →
      t = change s ∨ m.sites[i]? = some t := by
    intro i t ht
    rw [getElem?_sites_modifySite] at ht
    split at ht
    · next hi =>
      subst hi
      rw [hs] at ht
      exact .inl (Option.some.inj ht).symm
    · exact .inr ht
  refine ⟨fun {i t} ht => ?_, fun {i t} ht β hβ => ?_, fun hshared => hgrows (h.shared hshared)⟩
  · rcases hcases ht with rfl | ht
    · exact hreached
    · exact h.reached ht
  · rcases hcases ht with rfl | ht
    · exact (hplaces β hβ).grows hgrows
    · exact (h.places ht β hβ).grows hgrows

/-! ### Adding a site -/

/-- A site that is added comes after all others. -/
theorem grows_addSite (m : Machine) (s : Site) : m.Grows (m.addSite s).2 := by
  rintro i binder ⟨t, ht, rfl⟩
  refine ⟨t, ?_, rfl⟩
  obtain ⟨hi, -⟩ := Array.getElem?_eq_some_iff.1 ht
  simp only [addSite, Array.getElem?_push, if_neg (Nat.ne_of_lt hi)]
  exact ht

/-- A site that is added is there. -/
theorem hosts_addSite (m : Machine) (s : Site) : (m.addSite s).2.Hosts (m.addSite s).1 s.binder :=
  ⟨s, by simp [addSite], rfl⟩

/-- Sharing a site takes none away. -/
theorem grows_sharedSite (m : Machine) (binder : Binder) : m.Grows (m.sharedSite binder).2 := by
  unfold sharedSite
  split
  · exact Grows.refl m
  · exact grows_addSite m (.ofBinder binder)

/-- Sharing a stub takes no site away. -/
theorem grows_stub (m : Machine) (signature : Signature) : m.Grows (m.stub signature).2 := by
  obtain ⟨stubs, heq⟩ := m.frame_stub signature
  rw [heq]
  exact fun _ _ hosts => hosts

/-- Adding a site that keeps nothing yet. -/
theorem SitesSound.addSite (h : m.SitesSound) (hs : s.Reached) (hempty : s.bindings = []) :
    (m.addSite s).2.SitesSound := by
  have hgrows := grows_addSite m s
  have hcases : ∀ {i : Nat} {t : Site}, (m.addSite s).2.sites[i]? = some t →
      t = s ∨ m.sites[i]? = some t := by
    intro i t ht
    simp only [Machine.addSite, Array.getElem?_push] at ht
    split at ht
    · exact .inl (Option.some.inj ht).symm
    · exact .inr ht
  refine ⟨fun {i t} ht => ?_, fun {i t} ht β hβ => ?_, fun hshared => hgrows (h.shared hshared)⟩
  · rcases hcases ht with rfl | ht
    · exact hs
    · exact h.reached ht
  · rcases hcases ht with rfl | ht
    · simp [hempty] at hβ
    · exact (h.places ht β hβ).grows hgrows

/-- A site is shared by its binder from its first request on. -/
theorem SitesSound.sharedSite (h : m.SitesSound) (binder : Binder) :
    (m.sharedSite binder).2.SitesSound ∧ m.Grows (m.sharedSite binder).2 := by
  unfold Machine.sharedSite
  cases hget : m.shared.get? binder with
  | some id => exact ⟨h, Grows.refl m⟩
  | none =>
    have hadd := h.addSite (Site.Reached.new binder binder.language.config.siteCapacity) rfl
    have hgrows := grows_addSite m (.ofBinder binder)
    refine ⟨⟨hadd.reached, hadd.places, fun {b i} hshared => ?_⟩, hgrows⟩
    rcases Publisher.get?_finish_start hshared with ⟨rfl, rfl⟩ | hshared
    · exact hosts_addSite m (.ofBinder b)
    · exact hgrows (h.shared hshared)

/-- A plan that performs another operation gets a site for it. -/
theorem SitesSound.anchor (h : m.SitesSound) {β : Binding} (hβ : β.plan.IsResolved) :
    (m.anchor β).2.SitesSound ∧ m.Grows (m.anchor β).2 ∧ (m.anchor β).1.siteless = β ∧
      (m.anchor β).2.Places (m.anchor β).1.plan := by
  obtain ⟨guard, plan, source⟩ := β
  cases plan with
  | through inner site use =>
    obtain rfl : site = none := hβ
    exact ⟨h.addSite (Site.Reached.new inner inner.language.config.siteCapacity) rfl,
      grows_addSite m _, rfl, hosts_addSite m (.ofBinder inner)⟩
  | _ => exact ⟨h, Grows.refl m, Binding.siteless_eq hβ, trivial⟩

end Machine

/-! ## Calls by their number of arguments -/

variable {binder : Binder} {args : List Value}

/-- A call with arguments that the operation takes is answered. -/
theorem invoke_of_accepts (h : binder.operation.Accepts args) (caching : Caching) (p : Perform)
    (site : Option Nat) :
    invoke caching p binder site args = invoke.answer caching p binder site args := by
  unfold invoke
  split
  · next expected hexpected =>
    rw [if_neg (Decidable.not_not.2 (h expected hexpected))]
  · rfl

/-- A call with another number of arguments fails before anything happens. -/
theorem invoke_of_not_accepts (h : ¬ binder.operation.Accepts args) :
    ∃ expected, binder.operation.siteArity? = some expected ∧ args.length ≠ expected ∧
      ∀ caching p site, invoke caching p binder site args =
        Exec.fail (.argumentCount expected args.length) := by
  simp only [Operation.Accepts, not_forall] at h
  obtain ⟨expected, hexpected, hlen⟩ := h
  refine ⟨expected, hexpected, hlen, fun caching p site => ?_⟩
  simp only [invoke, hexpected, if_pos hlen]

end DynamicBinding
