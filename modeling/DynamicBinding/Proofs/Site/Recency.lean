import DynamicBinding.Proofs.Site.Activity
import Mathlib.Data.List.Dedup
/-!
# A site keeps what was used last

Calls that come one after the other leave a site with the guards that were used last: the history
of guards, each counted once at its last use and the last used first, cut off at the capacity.
`recent` is that order, and it knows nothing of sites.

* `recent_concat`: using a guard once more brings it to the front.
* `Site.Settled.guards_serve` reads a move to the front and an installation as the same step on
  guards, and `Site.Settled.guards_foldl_serve` runs it along a history.
* `Site.Sound.isSome_lookup?_iff`: a call is a hit if its guard is among those that are kept.
-/

namespace DynamicBinding

/-! ## Last used first -/

section Recent

variable {α : Type} [DecidableEq α]

/-- The different members of a history, the one used last first. -/
def recent (history : List α) : List α := history.dedup.reverse

/-- Another use counts instead of the earlier one. -/
theorem dedup_concat (history : List α) (a : α) :
    (history ++ [a]).dedup = history.dedup.erase a ++ [a] := by
  induction history with
  | nil => simp
  | cons b rest ih =>
    by_cases hb : b ∈ rest
    · have hconcat : b ∈ rest ++ [a] := List.mem_append_left _ hb
      rw [List.cons_append, List.dedup_cons_of_mem hconcat, ih, List.dedup_cons_of_mem hb]
    · rw [List.dedup_cons_of_notMem hb, List.cons_append]
      by_cases hba : b = a
      · subst hba
        have hconcat : b ∈ rest ++ [b] := by simp
        have hnot : b ∉ rest.dedup := by rwa [List.mem_dedup]
        rw [List.dedup_cons_of_mem hconcat, ih, List.erase_cons_head, List.erase_of_not_mem hnot]
      · have hconcat : b ∉ rest ++ [a] := by simp [hb, hba]
        have hne : ¬ (b == a) = true := by simpa using hba
        rw [List.dedup_cons_of_notMem hconcat, ih, List.erase_cons_tail hne, List.cons_append]

/-- Using a member brings it to the front. -/
theorem recent_concat (history : List α) (a : α) :
    recent (history ++ [a]) = a :: (recent history).erase a := by
  have hnodup : (recent history).Nodup := List.nodup_reverse.2 (List.nodup_dedup history)
  rw [recent, dedup_concat, List.reverse_concat, hnodup.erase_eq_filter,
    (List.nodup_dedup history).erase_eq_filter, recent, List.filter_reverse]

/-- What is taken out shows only by what comes up from behind. -/
theorem take_erase (xs : List α) (a : α) (n : Nat) :
    (xs.erase a).take n = ((xs.take (n + 1)).erase a).take n := by
  induction xs generalizing n with
  | nil => rfl
  | cons x rest ih =>
    by_cases hx : x = a
    · subst hx
      rw [List.take_succ_cons, List.erase_cons_head, List.erase_cons_head, List.take_take,
        Nat.min_self]
    · have hne : ¬ (x == a) = true := by simpa using hx
      rw [List.take_succ_cons, List.erase_cons_tail hne, List.erase_cons_tail hne]
      cases n with
      | zero => rfl
      | succ n => rw [List.take_succ_cons, List.take_succ_cons, ← ih n]

/-- What is cut off stays cut off: no later use brings it back. -/
theorem take_recent_concat (history : List α) (a : α) (k : Nat) :
    (recent (history ++ [a])).take k = (a :: ((recent history).take k).erase a).take k := by
  rw [recent_concat]
  cases k with
  | zero => rfl
  | succ n => rw [List.take_succ_cons, List.take_succ_cons, ← take_erase]

end Recent

/-! ## The guards of a site -/

namespace Site

variable {s found : Site} {β γ : Binding} {args : List Value}

/-- The guards of the bindings, most recently used first. -/
def guards (s : Site) : List Guard := s.bindings.map (·.guard)

/-- A hit brings the guard to the front. -/
theorem guards_lookup? (hdistinct : s.bindings.Pairwise fun β γ => β.guard ≠ γ.guard)
    (hlookup : s.lookup? args = some (γ, found)) :
    found.guards = γ.guard :: s.guards.erase γ.guard := by
  simp only [lookup?, Option.bind_eq_bind, Option.bind_eq_some_iff] at hlookup
  obtain ⟨i, -, δ, hδ, hlookup⟩ := hlookup
  cases hlookup
  obtain ⟨hi, hget⟩ := List.getElem?_eq_some_iff.1 hδ
  have hnodup : s.guards.Nodup := List.pairwise_map.2 hdistinct
  have hlt : i < s.guards.length := by simpa [guards] using hi
  have hguard : s.guards[i] = γ.guard := by simp [guards, hget]
  have herase : s.guards.erase γ.guard = (s.bindings.eraseIdx i).map (·.guard) := by
    rw [← hguard, hnodup.erase_getElem i hlt, guards, List.eraseIdx_map]
  rw [herase, guards, toFront, hδ]
  rfl

/-- An installation brings the guard to the front, and cuts off what is too much. -/
theorem guards_install (s : Site) (β : Binding) :
    (s.install β).guards = (β.guard :: s.guards.erase β.guard).take s.capacity := by
  rw [install_eq]
  show ((β :: s.bindings.eraseP (·.guard == β.guard)).take s.capacity).map (·.guard) = _
  rw [List.map_take, List.map_cons, map_guard_eraseP]
  rfl

/-- An installation under a guard that is kept changes no more than the order of the guards, as
there is room for all of them. -/
theorem perm_guards_install (hkept : β.guard ∈ s.guards) (hfits : s.bindings.length ≤ s.capacity) :
    (s.install β).guards.Perm s.guards := by
  have hperm : s.guards.Perm (β.guard :: s.guards.erase β.guard) := List.perm_cons_erase hkept
  have hlength : (β.guard :: s.guards.erase β.guard).length ≤ s.capacity := by
    rw [← hperm.length_eq, guards, List.length_map]
    exact hfits
  rw [guards_install, List.take_of_length_le hlength]
  exact hperm.symm

/-- Whether there is a binding for the arguments is up to the guards, in whatever order. -/
theorem isSome_lookup?_congr {t : Site} (h : s.guards.Perm t.guards) (args : List Value) :
    (s.lookup? args).isSome = (t.lookup? args).isSome := by
  have hany : ∀ s : Site, (s.lookup? args).isSome = s.guards.any (·.passes args) := by
    intro s
    rw [← Option.isSome_map, map_fst_lookup?, List.isSome_find?, guards, List.any_map]
    rfl
  rw [hany, hany, Bool.eq_iff_iff, List.any_eq_true, List.any_eq_true]
  exact exists_congr fun g => and_congr_left fun _ => h.mem_iff

/-- A call is a hit if its guard is kept. -/
theorem Sound.isSome_lookup?_iff (h : s.Sound) (hβ : β.ResolvedFor s.binder args) :
    (s.lookup? args).isSome = true ↔ β.guard ∈ s.guards := by
  constructor
  · intro hsome
    obtain ⟨⟨γ, found⟩, hlookup⟩ := Option.isSome_iff_exists.1 hsome
    obtain ⟨hγ, happlies, -⟩ := lookup?_eq_some hlookup
    rw [← (h.applies_iff hβ hγ).1 happlies]
    exact List.mem_map_of_mem hγ
  · intro hmem
    obtain ⟨γ, hγ, hguard⟩ := List.mem_map.1 hmem
    by_contra hnone
    rw [Option.not_isSome_iff_eq_none] at hnone
    exact h.guard_ne_of_lookup? hβ hnone γ hγ hguard

/-- A hit and a miss do the same to the guards. -/
theorem Settled.guards_serve (h : s.Settled) (hβ : β.ResolvedFor s.binder args) :
    (s.serve (args, β)).guards = (β.guard :: s.guards.erase β.guard).take s.capacity := by
  cases hlookup : s.lookup? args with
  | some hit =>
    obtain ⟨γ, found⟩ := hit
    obtain ⟨hγ, happlies, -, hperm⟩ := lookup?_eq_some hlookup
    have hguard := (h.sound.applies_iff hβ hγ).1 happlies
    have hfront := guards_lookup? h.sound.distinct hlookup
    have hlength : found.guards.length ≤ s.capacity := by
      rw [guards, List.length_map, hperm.length_eq]
      exact h.bounded
    have hserve : s.serve (args, β) = found.countHit := by simp only [Site.serve, hlookup]
    rw [hguard] at hfront
    rw [hserve, ← hfront, List.take_of_length_le hlength]
    rfl
  | none =>
    have hserve : s.serve (args, β) = s.countMiss.install β := by simp only [Site.serve, hlookup]
    rw [hserve]
    exact guards_install s.countMiss β

/-- **What is kept is what was used last**, as long as calls come one after the other. -/
theorem Settled.guards_foldl_serve {calls : List (List Value × Binding)} {history : List Guard}
    (h : s.Settled) (hcalls : ∀ call ∈ calls, call.2.ResolvedFor s.binder call.1)
    (hguards : s.guards = (recent history).take s.capacity) :
    (calls.foldl Site.serve s).guards =
      (recent (history ++ calls.map (·.2.guard))).take s.capacity := by
  induction calls generalizing s history with
  | nil =>
    rw [List.map_nil, List.append_nil]
    exact hguards
  | cons call rest ih =>
    rw [List.forall_mem_cons] at hcalls
    obtain ⟨hbinder, hcapacity⟩ := serve_frame s call
    have hserved := h.guards_serve hcalls.1
    rw [hguards, ← take_recent_concat, ← hcapacity] at hserved
    have hrest : ∀ call' ∈ rest, call'.2.ResolvedFor (s.serve call).binder call'.1 := by
      rw [hbinder]
      exact hcalls.2
    have hlast := ih (h.serve hcalls.1) hrest hserved
    rw [hcapacity, List.append_assoc] at hlast
    exact hlast

/-! ## Two sites of one binder -/

theorem map_siteless_eq {xs ys : List Binding}
    (hguards : xs.map (·.guard) = ys.map (·.guard))
    (hsame : ∀ β ∈ xs, ∀ γ ∈ ys, β.guard = γ.guard → β.siteless = γ.siteless) :
    xs.map Binding.siteless = ys.map Binding.siteless := by
  induction xs generalizing ys with
  | nil =>
    rw [List.map_nil, eq_comm, List.map_eq_nil_iff] at hguards
    rw [hguards]
  | cons β rest ih =>
    obtain ⟨γ, others, rfl, hguard, hothers⟩ := List.map_eq_cons_iff.1 hguards.symm
    have hhead := hsame β List.mem_cons_self γ List.mem_cons_self hguard.symm
    have htail := ih hothers.symm fun β hβ γ hγ =>
      hsame β (List.mem_cons_of_mem _ hβ) γ (List.mem_cons_of_mem _ hγ)
    rw [List.map_cons, List.map_cons, hhead, htail]

/-- The guard of a binding says what the binding is, up to the site of its plan. -/
theorem Sound.siteless_eq {t : Site} (h : s.Sound) (h' : t.Sound) (hbinder : s.binder = t.binder)
    (hβ : β ∈ s.bindings) (hγ : γ ∈ t.bindings) (hguard : β.guard = γ.guard) :
    β.siteless = γ.siteless := by
  obtain ⟨a, hresolved⟩ := h.resolved β hβ
  have happlies : γ.applies a = true := by
    show γ.guard.passes a = true
    rw [← hguard]
    exact hresolved.applies
  rw [hresolved.siteless_eq, h'.siteless_of_applies hresolved.recordFree hγ happlies, hbinder]

/-- If the guards of one site are the first guards of the other, so are the bindings. -/
theorem Sound.siteless_begins {t : Site} (h : s.Sound) (h' : t.Sound)
    (hbinder : s.binder = t.binder) (hguards : s.guards <+: t.guards) :
    s.bindings.map Binding.siteless <+: t.bindings.map Binding.siteless := by
  have htake := List.prefix_iff_eq_take.1 hguards
  rw [guards, guards, ← List.map_take] at htake
  have hsame := map_siteless_eq htake fun β hβ γ hγ hguard =>
    h.siteless_eq h' hbinder hβ (List.mem_of_mem_take hγ) hguard
  rw [hsame, List.map_take]
  exact List.take_prefix _ _

end Site

end DynamicBinding
