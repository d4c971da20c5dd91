import DynamicBinding.Proofs.Resolution.Languages
import DynamicBinding.Site
import Mathlib.Data.List.Perm.Basic
/-!
# The sites that can be reached

A site starts empty, and a call does one or two things to it: a hit moves a binding to the front;
a miss is counted, and the binding that was resolved is installed some time later.  What happens in
between is not up to the site, since a plan may come back to it.  `Site.Reached` therefore allows
these things in any order and number.

* `Site.Sound` is what stays true: each binding was resolved for some arguments, and no two have
  equal guards (`Site.Reached.sound`).
* `Site.Sound.siteless_of_lookup` is what that is good for: a hit finds the binding that
  resolution would make anew.
* `Site.Sound.length_filter_applies_le` and `find?_applies_perm`: there is only one that could be
  found, so the order is of no account.
-/

namespace DynamicBinding

/-- The binding was resolved by the binder for the arguments, and may have been given a site. -/
structure Binding.ResolvedFor (β : Binding) (binder : Binder) (args : List Value) : Prop where
  recordFree : RecordFreeArgs args
  accepts : binder.operation.Accepts args
  siteless_eq : β.siteless = binder.resolve args

namespace Site

/-- The sites that calls lead to. -/
inductive Reached : Site → Prop
  | new (binder : Binder) (capacity : Nat) : Reached (withCapacity binder capacity)
  | hit {s t : Site} {args : List Value} {β : Binding} (h : Reached s)
    (hlookup : s.lookup? args = some (β, t)) : Reached t.countHit
  | miss {s : Site} (h : Reached s) : Reached s.countMiss
  | install {s : Site} {args : List Value} {β : Binding} (h : Reached s)
    (hβ : β.ResolvedFor s.binder args) : Reached (s.install β)

variable {s t : Site} {β γ : Binding} {args : List Value}

/-- Each binding was resolved for some arguments, and no two have equal guards. -/
structure Sound (s : Site) : Prop where
  resolved : ∀ β ∈ s.bindings, ∃ args, β.ResolvedFor s.binder args
  distinct : s.bindings.Pairwise fun β γ => β.guard ≠ γ.guard

/-! ## One step -/

theorem toFront_perm (bindings : List Binding) (i : Nat) : (toFront bindings i).Perm bindings := by
  unfold toFront
  cases h : bindings[i]? with
  | none => exact List.Perm.refl _
  | some β =>
    obtain ⟨hi, rfl⟩ := List.getElem?_eq_some_iff.1 h
    exact List.getElem_cons_eraseIdx_perm hi

/-- What a hit finds is one of the bindings and applies, and only the order of the bindings
changes. -/
theorem lookup?_eq_some (h : s.lookup? args = some (β, t)) :
    β ∈ s.bindings ∧ β.applies args = true ∧ t.binder = s.binder ∧
      t.bindings.Perm s.bindings := by
  simp only [lookup?, Option.bind_eq_bind, Option.bind_eq_some_iff] at h
  obtain ⟨i, hi, γ, hγ, h⟩ := h
  cases h
  obtain ⟨hlt, rfl⟩ := List.getElem?_eq_some_iff.1 hγ
  obtain ⟨hlt', happlies, -⟩ := List.findIdx?_eq_some_iff_getElem.1 hi
  exact ⟨List.getElem_mem hlt, happlies, rfl, toFront_perm _ _⟩

/-- A hit serves the first kept binding that applies. -/
theorem map_fst_lookup? (s : Site) (args : List Value) :
    (s.lookup? args).map Prod.fst = s.bindings.find? (·.applies args) := by
  simp only [lookup?, Option.bind_eq_bind]
  cases hi : s.bindings.findIdx? (·.applies args) with
  | none =>
    rw [List.findIdx?_eq_none_iff] at hi
    rw [Option.bind_none, Option.map_none, eq_comm, List.find?_eq_none]
    simpa using hi
  | some i =>
    obtain ⟨hlt, happlies, hbefore⟩ := List.findIdx?_eq_some_iff_getElem.1 hi
    rw [Option.bind_some, List.getElem?_eq_getElem hlt, Option.bind_some, Option.map_some, eq_comm,
      List.find?_eq_some_iff_getElem]
    exact ⟨happlies, i, hlt, rfl, fun j hj => by simpa using hbefore j hj⟩

/-- Taking out a binding of a guard takes out its guard. -/
theorem map_guard_eraseP (bindings : List Binding) (g : Guard) :
    (bindings.eraseP (·.guard == g)).map (·.guard) = (bindings.map (·.guard)).erase g := by
  have hsame : ((g == ·) ∘ fun β : Binding => β.guard) = fun β => β.guard == g := by
    funext β
    exact BEq.comm
  rw [List.erase_eq_eraseP, List.eraseP_map, hsame]

/-- What is put at the front was not there before, or was taken out from where it was. -/
theorem install_eq (s : Site) (β : Binding) :
    s.install β = trim { s with bindings := β :: s.bindings.eraseP (·.guard == β.guard) } := by
  rw [install, List.eraseP_eq_eraseIdx]
  cases s.bindings.findIdx? (·.guard == β.guard) with
  | none => rfl
  | some i => rfl

/-- After an installation the new binding comes first, and the others were there before under
other guards. -/
theorem bindings_install (h : s.bindings.Pairwise fun β γ => β.guard ≠ γ.guard) (β : Binding) :
    (∀ γ ∈ (s.install β).bindings, γ = β ∨ γ ∈ s.bindings) ∧
      (s.install β).bindings.Pairwise fun γ δ => γ.guard ≠ δ.guard := by
  have hsub : (s.bindings.eraseP (·.guard == β.guard)).Sublist s.bindings := List.eraseP_sublist
  have hnodup : (s.bindings.map (·.guard)).Nodup := List.pairwise_map.2 h
  have hne : ∀ γ ∈ s.bindings.eraseP (·.guard == β.guard), β.guard ≠ γ.guard := by
    intro γ hγ heq
    have hmem : γ.guard ∈ (s.bindings.map (·.guard)).erase β.guard := by
      rw [← map_guard_eraseP]
      exact List.mem_map_of_mem hγ
    rw [heq] at hmem
    exact hnodup.not_mem_erase hmem
  rw [install_eq]
  refine ⟨fun γ hγ => ?_, ?_⟩
  · rcases List.mem_cons.1 (List.mem_of_mem_take hγ) with rfl | hγ
    · exact .inl rfl
    · exact .inr (hsub.subset hγ)
  · exact (List.pairwise_cons.2 ⟨hne, h.sublist hsub⟩).sublist (List.take_sublist _ _)

namespace Sound

theorem of_perm (h : s.Sound) (hbinder : t.binder = s.binder)
    (hperm : t.bindings.Perm s.bindings) : t.Sound where
  resolved β hβ := by
    rw [hbinder]
    exact h.resolved β (hperm.subset hβ)
  distinct := (hperm.pairwise_iff fun h => Ne.symm h).2 h.distinct

theorem install (h : s.Sound) (hβ : β.ResolvedFor s.binder args) : (s.install β).Sound where
  resolved γ hγ := by
    rcases (bindings_install h.distinct β).1 γ hγ with rfl | hγ
    · exact ⟨args, hβ⟩
    · exact h.resolved γ hγ
  distinct := (bindings_install h.distinct β).2

end Sound

/-- **What can be reached is sound.** -/
theorem Reached.sound (h : s.Reached) : s.Sound := by
  induction h with
  | new binder capacity => exact ⟨fun β hβ => (nomatch hβ), List.Pairwise.nil⟩
  | hit _ hlookup ih =>
    obtain ⟨-, -, hbinder, hperm⟩ := lookup?_eq_some hlookup
    exact ih.of_perm hbinder hperm
  | miss _ ih => exact ih.of_perm rfl (List.Perm.refl _)
  | install _ hβ ih => exact ih.install hβ

/-! ## What soundness is good for -/

namespace Sound

/-- A kept binding that applies is the one that resolution makes of the arguments. -/
theorem siteless_of_applies (h : s.Sound) (hargs : RecordFreeArgs args) (hβ : β ∈ s.bindings)
    (happlies : β.applies args = true) : β.siteless = s.binder.resolve args := by
  obtain ⟨a, hresolved⟩ := h.resolved β hβ
  have hguard : β.guard = (s.binder.resolve a).guard := by
    rw [← hresolved.siteless_eq]
    rfl
  have hp : (s.binder.resolve a).guard.passes args = true := by
    rw [← hguard]
    exact happlies
  rw [(s.binder.resolve_eq hresolved.recordFree hargs hresolved.accepts hp).2]
  exact hresolved.siteless_eq

/-- A hit finds the binding that resolution makes of the arguments. -/
theorem siteless_of_lookup (h : s.Sound) (hargs : RecordFreeArgs args)
    (hlookup : s.lookup? args = some (β, t)) : β.siteless = s.binder.resolve args := by
  obtain ⟨hβ, happlies, -⟩ := lookup?_eq_some hlookup
  exact h.siteless_of_applies hargs hβ happlies

/-- At most one kept binding applies. -/
theorem length_filter_applies_le (h : s.Sound) (hargs : RecordFreeArgs args) :
    (s.bindings.filter (·.applies args)).length ≤ 1 := by
  have hguard : ∀ β ∈ s.bindings.filter (·.applies args),
      β.guard = (s.binder.resolve args).guard := by
    intro β hβ
    rw [List.mem_filter] at hβ
    rw [← h.siteless_of_applies hargs hβ.1 hβ.2]
    rfl
  have hdistinct := h.distinct.filter (·.applies args)
  match hfilter : s.bindings.filter (·.applies args) with
  | [] => simp [hfilter]
  | [β] => simp [hfilter]
  | β :: γ :: rest =>
    rw [hfilter] at hguard hdistinct
    have hne := (List.pairwise_cons.1 hdistinct).1 γ List.mem_cons_self
    exact absurd ((hguard β (by simp)).trans (hguard γ (by simp)).symm) hne

/-- The binding that is found does not depend on the order. -/
theorem find?_applies_perm (h : s.Sound) (hargs : RecordFreeArgs args) {bindings : List Binding}
    (hperm : bindings.Perm s.bindings) :
    bindings.find? (·.applies args) = s.bindings.find? (·.applies args) := by
  have hfilter := hperm.filter (·.applies args)
  rw [← List.head?_filter, ← List.head?_filter]
  match heq : s.bindings.filter (·.applies args), h.length_filter_applies_le hargs with
  | [], _ =>
    rw [heq] at hfilter
    rw [hfilter.eq_nil, heq]
  | [β], _ =>
    rw [heq] at hfilter
    rw [List.perm_singleton.1 hfilter, heq]
  | _ :: _ :: _, hle =>
    rw [heq] at hle
    simp at hle

end Sound

end Site

end DynamicBinding
