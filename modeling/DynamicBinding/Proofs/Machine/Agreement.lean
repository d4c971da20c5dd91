import DynamicBinding.Machine.Evaluation
import DynamicBinding.Proofs.Machine.Sites
import DynamicBinding.Proofs.Script.Keeps
/-!
# Two machines that agree

A machine whose sites keep bindings next to one whose sites keep none.  They have the same store,
the same variables and, under the same names, sites of the same binders; the positions of sites
differ, because only the first machine makes sites for nested operations.

* `Machine.Tracks` relates the two machines, and includes what is invariant of the first one.
* `Exec.Agree` says of two computations that they give the same from here on, and that the machines
  still agree afterwards.  There is a rule for each way of putting computations together, and a
  rule for each step that only one of the two takes.
-/

namespace DynamicBinding

/-! ## Machines -/

namespace Machine

/-- Both machines have a site of one binder under the name, or neither has a site. -/
def SameSite (m₁ m₂ : Machine) (name : String) : Prop :=
  (m₁.siteNames.lookup name = none ∧ m₂.siteNames.lookup name = none) ∨
    ∃ id₁ id₂ binder, m₁.siteNames.lookup name = some id₁ ∧ m₁.Hosts id₁ binder ∧
      m₂.siteNames.lookup name = some id₂ ∧ m₂.Hosts id₂ binder

/-- The second machine goes along with the first, whose sites are sound and whose store and
variables have no record. -/
structure Tracks (m₁ m₂ : Machine) : Prop where
  sites : m₁.SitesSound
  store : m₁.store.RecordFree
  globals : ∀ {name v}, m₁.globals.lookup name = some v → v.RecordFree
  store_eq : m₂.store = m₁.store
  globals_eq : m₂.globals = m₁.globals
  main_eq : m₂.main = m₁.main
  named : ∀ name, m₁.SameSite m₂ name

variable {m₁ m₂ n₁ n₂ : Machine}

/-- Sites that are there stay, and so does what names say of them. -/
theorem SameSite.grows {name : String} (h : m₁.SameSite m₂ name)
    (hnames₁ : n₁.siteNames = m₁.siteNames) (hnames₂ : n₂.siteNames = m₂.siteNames)
    (hgrows₁ : m₁.Grows n₁) (hgrows₂ : m₂.Grows n₂) : n₁.SameSite n₂ name := by
  unfold SameSite
  rw [hnames₁, hnames₂]
  rcases h with h | ⟨id₁, id₂, binder, h₁, hosts₁, h₂, hosts₂⟩
  · exact .inl h
  · exact .inr ⟨id₁, id₂, binder, h₁, hgrows₁ hosts₁, h₂, hgrows₂ hosts₂⟩

namespace Tracks

/-- The two stores change alike. -/
theorem withStore (h : m₁.Tracks m₂) {s : Store} (hs : s.RecordFree) :
    Tracks { m₁ with store := s } { m₂ with store := s } where
  sites := ⟨h.sites.reached, h.sites.places, h.sites.shared⟩
  store := hs
  globals := h.globals
  store_eq := rfl
  globals_eq := h.globals_eq
  main_eq := h.main_eq
  named := h.named

/-- Only the sites of the first machine change. -/
theorem withSites (h : m₁.Tracks m₂) {sites : Array Site}
    (hsites : SitesSound { m₁ with sites := sites })
    (hgrows : m₁.Grows { m₁ with sites := sites }) : Tracks { m₁ with sites := sites } m₂ where
  sites := hsites
  store := h.store
  globals := h.globals
  store_eq := h.store_eq
  globals_eq := h.globals_eq
  main_eq := h.main_eq
  named name := (h.named name).grows rfl rfl hgrows (Grows.refl m₂)

/-- A binding of the first machine gets a site for its plan. -/
theorem anchor (h : m₁.Tracks m₂) {β : Binding} (hβ : β.plan.IsResolved) :
    (m₁.anchor β).2.Tracks m₂ := by
  obtain ⟨hsites, hgrows, -, -⟩ := h.sites.anchor hβ
  obtain ⟨guard, plan, source⟩ := β
  cases plan with
  | through inner site use =>
    obtain rfl : site = none := hβ
    exact h.withSites hsites hgrows
  | _ => exact h

/-- Both machines share a site, each its own. -/
theorem sharedSite (h : m₁.Tracks m₂) (binder : Binder) :
    (m₁.sharedSite binder).2.Tracks (m₂.sharedSite binder).2 := by
  have hsites := (h.sites.sharedSite binder).1
  have hgrows₁ := grows_sharedSite m₁ binder
  have hgrows₂ := grows_sharedSite m₂ binder
  obtain ⟨sites₁, shared₁, heq₁⟩ := m₁.frame_sharedSite binder
  obtain ⟨sites₂, shared₂, heq₂⟩ := m₂.frame_sharedSite binder
  rw [heq₁] at hsites hgrows₁ ⊢
  rw [heq₂] at hgrows₂ ⊢
  exact ⟨hsites, h.store, h.globals, h.store_eq, h.globals_eq, h.main_eq,
    fun name => (h.named name).grows rfl rfl hgrows₁ hgrows₂⟩

/-- Stubs are no part of what is related. -/
theorem stub (h : m₁.Tracks m₂) (signature : Signature) :
    (m₁.stub signature).2.Tracks (m₂.stub signature).2 := by
  obtain ⟨stubs₁, heq₁⟩ := m₁.frame_stub signature
  obtain ⟨stubs₂, heq₂⟩ := m₂.frame_stub signature
  rw [heq₁, heq₂]
  exact ⟨⟨h.sites.reached, h.sites.places, h.sites.shared⟩, h.store, h.globals, h.store_eq,
    h.globals_eq, h.main_eq, h.named⟩

end Tracks

end Machine

/-! ## Computations -/

namespace Exec

variable {α β : Type} {good : α → Prop} {fine : β → Prop} {m₁ m₂ n₁ n₂ : Machine}

/-- From two machines on, the computations give the same, which has the property if it is a value,
and leave machines that go together. -/
structure Agree (good : α → Prop) (m₁ m₂ : Machine) (x₁ x₂ : Exec α) : Prop where
  same : (x₁.run.run m₁).1 = (x₂.run.run m₂).1
  good : ∀ {a}, (x₁.run.run m₁).1 = .ok a → good a
  tracks : (x₁.run.run m₁).2.Tracks (x₂.run.run m₂).2
  grows : m₁.Grows (x₁.run.run m₁).2

namespace Agree

/-! ### What both do -/

/-- Both give the value. -/
theorem pure {a : α} (htracks : m₁.Tracks m₂) (h : good a) :
    Agree good m₁ m₂ (pure a) (pure a) where
  same := rfl
  good hb := by
    cases hb
    exact h
  tracks := htracks
  grows := Machine.Grows.refl m₁

/-- Both stop. -/
theorem stop (htracks : m₁.Tracks m₂) (stop : Stop) :
    Agree good m₁ m₂ (throw stop) (throw stop) where
  same := rfl
  good hb := nomatch hb
  tracks := htracks
  grows := Machine.Grows.refl m₁

/-- Both fail. -/
theorem fail (htracks : m₁.Tracks m₂) (e : RuntimeError) :
    Agree good m₁ m₂ (fail e) (fail e) :=
  stop htracks (.error e)

/-- Both go on with the result, or fail with its error. -/
theorem lift (htracks : m₁.Tracks m₂) {r : Except RuntimeError α} (h : ∀ a, r = .ok a → good a) :
    Agree good m₁ m₂ (lift r) (lift r) := by
  cases r with
  | ok a => exact pure htracks (h a rfl)
  | error e => exact fail htracks e

/-- A result changes nothing on either machine, so what comes after it starts from the same
machines. -/
theorem lift_bind (htracks : m₁.Tracks m₂) {r : Except RuntimeError α} {f₁ f₂ : α → Exec β}
    (h : ∀ a, r = .ok a → Agree fine m₁ m₂ (f₁ a) (f₂ a)) :
    Agree fine m₁ m₂ (Exec.lift r >>= f₁) (Exec.lift r >>= f₂) := by
  cases r with
  | ok a => exact ⟨(h a rfl).same, (h a rfl).good, (h a rfl).tracks, (h a rfl).grows⟩
  | error e => exact ⟨rfl, fun hb => (nomatch hb), htracks, Machine.Grows.refl m₁⟩

/-- Both go on with the answer, or stop for want of it. -/
theorem require (htracks : m₁.Tracks m₂) {o : Option α} (h : ∀ a, o = some a → good a) :
    Agree good m₁ m₂ (require o) (require o) := by
  cases o with
  | some a => exact pure htracks (h a rfl)
  | none => exact stop htracks .diverged

/-- What comes second agrees if it does on any two machines that go together. -/
theorem bind {x₁ x₂ : Exec α} {f₁ f₂ : α → Exec β} (hx : Agree good m₁ m₂ x₁ x₂)
    (hf : ∀ a n₁ n₂, good a → n₁.Tracks n₂ → Agree fine n₁ n₂ (f₁ a) (f₂ a)) :
    Agree fine m₁ m₂ (x₁ >>= f₁) (x₂ >>= f₂) := by
  obtain ⟨hsame, hgood, htracks, hgrows⟩ := hx
  rcases h₁ : x₁.run.run m₁ with ⟨r₁, n₁⟩
  rcases h₂ : x₂.run.run m₂ with ⟨r₂, n₂⟩
  rw [h₁, h₂] at hsame htracks
  rw [h₁] at hgood hgrows
  obtain rfl : r₁ = r₂ := hsame
  have hrun₁ := run_bind x₁ f₁ m₁
  have hrun₂ := run_bind x₂ f₂ m₂
  rw [h₁] at hrun₁
  rw [h₂] at hrun₂
  cases r₁ with
  | ok a =>
    obtain ⟨hsame', hgood', htracks', hgrows'⟩ := hf a n₁ n₂ (hgood rfl) htracks
    refine ⟨?_, ?_, ?_, ?_⟩
    · rw [hrun₁, hrun₂]
      exact hsame'
    · rw [hrun₁]
      exact hgood'
    · rw [hrun₁, hrun₂]
      exact htracks'
    · rw [hrun₁]
      exact hgrows.trans hgrows'
  | error e =>
    refine ⟨?_, fun {b} hb => ?_, ?_, ?_⟩
    · rw [hrun₁, hrun₂]
    · rw [hrun₁] at hb
      cases hb
    · rw [hrun₁, hrun₂]
      exact htracks
    · rw [hrun₁]
      exact hgrows

/-- A computation on the store does the same to equal stores. -/
theorem onStore (htracks : m₁.Tracks m₂) {x : Effect α} (h : x.Keeps good) :
    Agree good m₁ m₂ (onStore x) (onStore x) := by
  obtain ⟨hgood, hstore⟩ := h m₁.store htracks.store
  refine ⟨?_, fun {a} => hgood a, ?_, fun _ _ hosts => hosts⟩
  · show (x.run.run m₁.store).1 = (x.run.run m₂.store).1
    rw [htracks.store_eq]
  · show Machine.Tracks { m₁ with store := (x.run.run m₁.store).2 }
      { m₂ with store := (x.run.run m₂.store).2 }
    rw [htracks.store_eq]
    exact htracks.withStore hstore

/-- Both read their own machine; what they make of it has to agree. -/
theorem get {f₁ f₂ : Machine → Exec β} (h : Agree fine m₁ m₂ (f₁ m₁) (f₂ m₂)) :
    Agree fine m₁ m₂ (get >>= f₁) (get >>= f₂) :=
  ⟨h.same, h.good, h.tracks, h.grows⟩

/-- What agrees for each item agrees for the list. -/
theorem mapM {xs : List α} {f : α → Exec β}
    (h : ∀ a ∈ xs, ∀ n₁ n₂ : Machine, n₁.Tracks n₂ → Agree fine n₁ n₂ (f a) (f a))
    (htracks : m₁.Tracks m₂) :
    Agree (fun bs => ∀ b ∈ bs, fine b) m₁ m₂ (xs.mapM f) (xs.mapM f) := by
  induction xs generalizing m₁ m₂ with
  | nil => exact pure htracks fun b hb => (nomatch hb)
  | cons a rest ih =>
    rw [List.mapM_cons]
    apply bind (h a List.mem_cons_self m₁ m₂ htracks)
    intro b n₁ n₂ hb hn
    apply bind (ih (fun c hc => h c (List.mem_cons_of_mem a hc)) hn)
    intro bs o₁ o₂ hbs ho
    exact pure ho (List.forall_mem_cons.2 ⟨hb, hbs⟩)

/-! ### What only one of them does -/

variable {x₁ x₂ : Exec α}

/-- The first machine is read, the second is not. -/
theorem get_left {f : Machine → Exec α} (h : Agree good m₁ m₂ (f m₁) x₂) :
    Agree good m₁ m₂ (MonadState.get >>= f) x₂ :=
  ⟨h.same, h.good, h.tracks, h.grows⟩

/-- The first machine changes, the second does not. -/
theorem modifyGet_left {f : Machine → β × Machine} {k : β → Exec α}
    (hgrows : m₁.Grows (f m₁).2) (h : Agree good (f m₁).2 m₂ (k (f m₁).1) x₂) :
    Agree good m₁ m₂ (modifyGet f >>= k) x₂ :=
  ⟨h.same, h.good, h.tracks, hgrows.trans h.grows⟩

/-- The second machine changes, the first does not. -/
theorem modifyGet_right {f : Machine → β × Machine} {k : β → Exec α}
    (h : Agree good m₁ (f m₂).2 x₁ (k (f m₂).1)) :
    Agree good m₁ m₂ x₁ (modifyGet f >>= k) :=
  ⟨h.same, h.good, h.tracks, h.grows⟩

/-- The first machine changes without an answer, the second does not. -/
theorem modify_left {f : Machine → Machine} {k : PUnit → Exec α} (hgrows : m₁.Grows (f m₁))
    (h : Agree good (f m₁) m₂ (k ⟨⟩) x₂) : Agree good m₁ m₂ (modify f >>= k) x₂ :=
  ⟨h.same, h.good, h.tracks, hgrows.trans h.grows⟩

/-- The first machine changes once more at the end, however the computation ended. -/
theorem afterwards_left {change : Machine → Machine} (h : Agree good m₁ m₂ x₁ x₂)
    (hchange : ∀ n₁ n₂ : Machine, n₁.Tracks n₂ → m₁.Grows n₁ →
      (change n₁).Tracks n₂ ∧ n₁.Grows (change n₁)) :
    Agree good m₁ m₂ (afterwards x₁ change) x₂ := by
  obtain ⟨hsame, hgood, htracks, hgrows⟩ := h
  obtain ⟨htracks', hgrows'⟩ := hchange _ _ htracks hgrows
  exact ⟨hsame, hgood, htracks', hgrows.trans hgrows'⟩

end Agree

end Exec

end DynamicBinding
