import DynamicBinding.Proofs.Machine.Transparency
/-!
# What a user of sites can see

A user opens sites, makes values, sets variables and calls sites, and decides what to do next by
the answers.  What is seen are the answers, and all that the store holds after each of them.

* `Client` is such a user, and `Client.transcript` is what it sees from a new machine on.
* `Client.transcript_kept`: nothing that is seen depends on whether sites keep bindings, nor on how
  many they keep.
* `Client.reached_of_left`: every site that is left can be reached by the steps of
  `Site.Reached`, so what is known of those sites is known of the sites of every program.
-/

namespace DynamicBinding

/-! ## Users -/

/-- The answer to a request. -/
abbrev Answer := Except Stop Value

/-- What a user can ask of a machine. -/
inductive Request where
  /-- Opens a site under a name. -/
  | openSite (name : String) (binder : Binder) (capacity : Nat)
  /-- Makes the value of a literal. -/
  | make (literal : Literal)
  /-- Sets a variable. -/
  | define (name : String) (v : Value)
  /-- Calls the site of a name. -/
  | call (name : String) (args : List Value)

/-- A user, who knows the answer to each request before making the next one. -/
inductive Client where
  | done
  | ask (request : Request) (next : Answer → Client)

/-- Opens a site under a name. -/
def Machine.openSite (m : Machine) (name : String) (binder : Binder) (capacity : Nat) : Machine :=
  let (id, m) := m.addSite (.withCapacity binder capacity)
  m.nameSite name id

namespace Request

/-- Fulfils a request. -/
def perform (caching : Caching) (depth : Nat) : Request → Exec Value
  | .openSite name binder capacity => do
    modify (·.openSite name binder capacity)
    pure .nothing
  | .make literal => literal.make
  | .define name v => do
    modify (·.setVariable name v)
    pure v
  | .call name args => do
    let m ← get
    match m.siteNames.lookup name with
    | some id => run caching depth (.invoke (m.site id).binder (some id) args)
    | none => Exec.fail (.raised ("unknown site '" ++ name ++ "'"))

/-- The same request with another capacity for the site that is opened. -/
def resize (capacityOf : String → Nat → Nat) : Request → Request
  | .openSite name binder capacity => .openSite name binder (capacityOf name capacity)
  | request => request

/-- A request with its own capacity. -/
theorem resize_self (request : Request) : request.resize (fun _ capacity => capacity) = request := by
  cases request <;> rfl

/-- No record is part of the request. -/
def RecordFree : Request → Prop
  | .openSite .. => True
  | .make literal => literal.recordFree = true
  | .define _ v => v.RecordFree
  | .call _ args => RecordFreeArgs args

end Request

namespace Client

/-- The answers with the store after each, and the machine that is left. -/
def run (caching : Caching) (depth : Nat) : Client → Machine → List (Answer × Store) × Machine
  | .done, m => ([], m)
  | .ask request next, m =>
    let answered := (request.perform caching depth).run.run m
    let rest := (next answered.1).run caching depth answered.2
    ((answered.1, answered.2.store) :: rest.1, rest.2)

/-- What the user sees on a new machine. -/
def transcript (caching : Caching) (depth : Nat) (main : Language) (client : Client) :
    List (Answer × Store) :=
  (client.run caching depth { main := main }).1

/-- The machine that the user leaves. -/
def left (depth : Nat) (main : Language) (client : Client) : Machine :=
  (client.run .kept depth { main := main }).2

/-- The same user with other capacities for all sites. -/
def resize (capacityOf : String → Nat → Nat) : Client → Client
  | .done => .done
  | .ask request next =>
    .ask (request.resize capacityOf) fun answer => (next answer).resize capacityOf

/-- The user never brings in a record, as long as none comes back. -/
def RecordFree : Client → Prop
  | .done => True
  | .ask request next =>
    request.RecordFree ∧
      ∀ answer : Answer, (∀ v, answer = .ok v → v.RecordFree) → (next answer).RecordFree

end Client

/-- The machine goes along with one that keeps nothing.  So do all machines that users leave, and
those that their tasks leave. -/
def Machine.Sound (m : Machine) : Prop := ∃ n, m.Tracks n

/-- The site, if there is one, is one of the binder. -/
def Machine.Admits (m : Machine) (site : Option Nat) (binder : Binder) : Prop :=
  ∀ id, site = some id → m.Hosts id binder

/-- A call without a site is one of any binder. -/
theorem Machine.admits_none (m : Machine) (binder : Binder) : m.Admits none binder :=
  fun _ h => (nomatch h)

/-! ## Requests on machines that agree -/

/-- A name that is given something else has that, and all other names have what they had. -/
theorem lookup_replaced {α : Type} (xs : List (String × α)) (name k : String) (a : α) :
    ((name, a) :: xs.filter (·.1 != name)).lookup k = if k = name then some a else xs.lookup k := by
  by_cases hk : k = name
  · simp [hk]
  · have hfilter : (xs.filter (·.1 != name)).lookup k = xs.lookup k := by
      induction xs with
      | nil => rfl
      | cons x rest ih =>
        obtain ⟨key, b⟩ := x
        by_cases hkey : key = name
        · have hne : (k == key) = false := beq_false_of_ne (hkey ▸ hk)
          rw [List.filter_cons_of_neg (by simp [hkey]), List.lookup_cons, hne, ih]
        · rw [List.filter_cons_of_pos (by simp [hkey]), List.lookup_cons, List.lookup_cons, ih]
    rw [List.lookup_cons, beq_false_of_ne hk, if_neg hk, hfilter]

namespace Machine.Tracks

variable {m₁ m₂ : Machine}

/-- A new machine goes along with itself. -/
theorem new (main : Language) : Tracks { main := main } { main := main } where
  sites :=
    { reached := fun h => by simp at h
      places := fun h => by simp at h
      shared := fun h => by simp [Publisher.get?] at h }
  store := Store.RecordFree.empty
  globals h := by simp at h
  store_eq := rfl
  globals_eq := rfl
  main_eq := rfl
  named _ := .inl ⟨rfl, rfl⟩

/-- Machines that go along do so with a variable more. -/
theorem setVariable (h : m₁.Tracks m₂) (name : String) {v : Value} (hv : v.RecordFree) :
    (m₁.setVariable name v).Tracks (m₂.setVariable name v) where
  sites := ⟨h.sites.reached, h.sites.places, h.sites.shared⟩
  store := h.store
  globals {k w} hw := by
    simp only [Machine.setVariable, lookup_replaced] at hw
    split at hw
    · exact Option.some.inj hw ▸ hv
    · exact h.globals hw
  store_eq := h.store_eq
  globals_eq := by simp only [Machine.setVariable, h.globals_eq]
  main_eq := h.main_eq
  named := h.named

/-- No site goes away when one is opened. -/
theorem grows_openSite (m : Machine) (name : String) (binder : Binder) (capacity : Nat) :
    m.Grows (m.openSite name binder capacity) :=
  fun _ _ hosts => grows_addSite m (.withCapacity binder capacity) hosts

/-- The sites under one name may differ in their capacity. -/
theorem openSite (h : m₁.Tracks m₂) (name : String) (binder : Binder) (capacity₁ capacity₂ : Nat) :
    (m₁.openSite name binder capacity₁).Tracks (m₂.openSite name binder capacity₂) where
  sites := by
    have hadd := h.sites.addSite (Site.Reached.new binder capacity₁) rfl
    exact ⟨hadd.reached, hadd.places, hadd.shared⟩
  store := h.store
  globals := h.globals
  store_eq := h.store_eq
  globals_eq := h.globals_eq
  main_eq := h.main_eq
  named k := by
    have hgrows₁ := grows_openSite m₁ name binder capacity₁
    have hgrows₂ := grows_openSite m₂ name binder capacity₂
    unfold SameSite
    simp only [Machine.openSite, nameSite, lookup_replaced]
    split
    · exact .inr ⟨_, _, binder, rfl, hosts_addSite m₁ (.withCapacity binder capacity₁), rfl,
        hosts_addSite m₂ (.withCapacity binder capacity₂)⟩
    · rcases h.named k with hnone | ⟨id₁, id₂, binder', h₁, hosts₁, h₂, hosts₂⟩
      · exact .inl hnone
      · exact .inr ⟨id₁, id₂, binder', h₁, hgrows₁ hosts₁, h₂, hgrows₂ hosts₂⟩

end Machine.Tracks

/-- A request is fulfilled alike, whatever the capacity of a site that is opened. -/
theorem Request.perform_agree (capacityOf : String → Nat → Nat) (depth : Nat) {request : Request}
    (h : request.RecordFree) {m₁ m₂ : Machine} (htracks : m₁.Tracks m₂) :
    Exec.Agree Value.RecordFree m₁ m₂ ((request.resize capacityOf).perform .kept depth)
      (request.perform .fresh depth) := by
  cases request with
  | openSite name binder capacity =>
    have hopen := htracks.openSite name binder (capacityOf name capacity) capacity
    exact .modify_left (Machine.Tracks.grows_openSite m₁ name binder _)
      (.modifyGet_right (.pure hopen rfl))
  | make literal => exact Literal.make_agree htracks literal h
  | define name v =>
    have hset := htracks.setVariable name h
    exact .modify_left (fun _ _ hosts => hosts) (.modifyGet_right (.pure hset h))
  | call name args =>
    apply Exec.Agree.get
    rcases htracks.named name with ⟨hnone₁, hnone₂⟩ | ⟨id₁, id₂, binder, hid₁, hosts₁, hid₂, hosts₂⟩
    · rw [hnone₁, hnone₂]
      exact .fail htracks _
    · rw [hid₁, hid₂]
      simp only [hosts₁.site_eq.2, hosts₂.site_eq.2]
      have hsite : ∀ id, some id₁ = some id → m₁.Hosts id binder := by
        rintro id ⟨⟩
        exact hosts₁
      exact DynamicBinding.run_agree depth htracks (.invoke (some id₂) hsite h)

/-! ## Users on machines that agree -/

namespace Client

variable {client : Client} {main : Language}

/-- A user sees the same on machines that agree, and leaves machines that agree. -/
theorem run_agree (capacityOf : String → Nat → Nat) (depth : Nat) (h : client.RecordFree)
    {m₁ m₂ : Machine} (htracks : m₁.Tracks m₂) :
    ((client.resize capacityOf).run .kept depth m₁).1 = (client.run .fresh depth m₂).1 ∧
      ((client.resize capacityOf).run .kept depth m₁).2.Tracks (client.run .fresh depth m₂).2 := by
  induction client generalizing m₁ m₂ with
  | done => exact ⟨rfl, htracks⟩
  | ask request next ih =>
    obtain ⟨hsame, hgood, hafter, -⟩ := request.perform_agree capacityOf depth h.1 htracks
    have hnext := h.2 _ fun v hv => hgood hv
    obtain ⟨hrest, hleft⟩ := ih _ hnext hafter
    simp only [resize, run]
    rw [← hsame, ← hafter.store_eq]
    exact ⟨by rw [hrest], hleft⟩

/-- A user with its own capacities. -/
theorem resize_self (client : Client) : client.resize (fun _ capacity => capacity) = client := by
  induction client with
  | done => rfl
  | ask request next ih => simp only [resize, ih, request.resize_self]

/-- **What is kept is not seen**: a user sees the same answers and the same store after each as on
a machine that resolves every call afresh, and other capacities change nothing. -/
theorem transcript_kept (client : Client) (h : client.RecordFree) (main : Language) (depth : Nat) :
    client.transcript .kept depth main = client.transcript .fresh depth main ∧
      ∀ capacityOf, (client.resize capacityOf).transcript .kept depth main =
        client.transcript .kept depth main := by
  have hresize : ∀ capacityOf, (client.resize capacityOf).transcript .kept depth main =
      client.transcript .fresh depth main :=
    fun capacityOf => (run_agree capacityOf depth h (Machine.Tracks.new main)).1
  have hkept := hresize fun _ capacity => capacity
  rw [resize_self] at hkept
  exact ⟨hkept, fun capacityOf => (hresize capacityOf).trans hkept.symm⟩

/-- A user who calls a function through a site of one binding.  The function comes back to that
site, and afterwards the site is asked to call something else. -/
def reentrant (main : Language) : Client :=
  let again : Expr := .atSite "call" [.variable "f", .const (.bool false)]
  .ask (.openSite "call" ⟨.invoke 1, main⟩ 1) fun _ =>
    .ask (.make (.function "f" (some 1) none (.choose (.arg 0) again (.arg 0)))) fun made =>
      match made with
      | .ok f =>
        .ask (.define "f" f) fun _ =>
          .ask (.call "call" [f, .bool true]) fun _ =>
            .ask (.call "call" [.int 1, f]) fun _ => .done
      | .error _ => .done

/-- The user brings in no record. -/
theorem recordFree_reentrant (main : Language) : (reentrant main).RecordFree := by
  refine ⟨trivial, fun _ _ => ⟨rfl, fun made hmade => ?_⟩⟩
  cases made with
  | error stop => trivial
  | ok f =>
    have hf := hmade f rfl
    refine ⟨hf, fun _ _ => ⟨?_, fun _ _ => ⟨?_, fun _ _ => trivial⟩⟩⟩
    · exact RecordFreeArgs.cons hf (RecordFreeArgs.cons rfl RecordFreeArgs.nil)
    · exact RecordFreeArgs.cons rfl (RecordFreeArgs.cons hf RecordFreeArgs.nil)

/-- The function that comes back to its own site makes no difference to what is seen. -/
theorem transcript_reentrant :
    (reentrant default).transcript .kept 20 default =
        (reentrant default).transcript .fresh 20 default ∧
      ∀ capacityOf, ((reentrant default).resize capacityOf).transcript .kept 20 default =
        (reentrant default).transcript .kept 20 default :=
  transcript_kept (reentrant default) (recordFree_reentrant default) default 20

example : (((reentrant default).left 20 default).site 0).misses = 3 := by cbv

/-- What users without records leave goes along with what they leave where nothing is kept. -/
theorem exists_tracks_left (h : client.RecordFree) (main : Language) (depth : Nat) :
    ∃ n, (client.left depth main).Tracks n := by
  have hagree := run_agree (fun _ capacity => capacity) depth h (Machine.Tracks.new main)
  rw [resize_self] at hagree
  exact ⟨_, hagree.2⟩

/-- What users without records leave is sound. -/
theorem sound_left (h : client.RecordFree) (main : Language) (depth : Nat) :
    (client.left depth main).Sound :=
  exists_tracks_left h main depth

/-- The sites that a user leaves can be reached. -/
theorem reached_of_left (h : client.RecordFree) (depth : Nat) {id : Nat} {s : Site}
    (hs : (client.left depth main).sites[id]? = some s) : s.Reached := by
  obtain ⟨n, htracks⟩ := exists_tracks_left h main depth
  exact htracks.sites.reached hs

end Client

end DynamicBinding
