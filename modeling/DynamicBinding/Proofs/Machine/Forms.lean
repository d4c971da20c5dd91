import DynamicBinding.Proofs.Machine.Depth
import DynamicBinding.Proofs.Machine.Stages
/-!
# Operations addressed by a name

A site of a named operation takes any number of arguments, and one and the same site may meet them
all.  With every call it does what a site of a typed operation does, which depends on the name and
the number of arguments: reading or writing an index under the two names that stand for it, and a
method call under every other name.

* `NamedOperation.typed` is the typed form, and `NamedOperation.run_typed` compares single calls
  where nothing is kept.  A method call is two steps further in, since it is an operation inside the
  plan.
* `NamedSite.sees_typed` compares whole runs where bindings are kept: a user who calls a named site
  sees what the same user sees who calls sites of the typed forms instead.
-/

namespace DynamicBinding

open Exec

/-! ## Single calls -/

namespace NamedOperation

variable {operation : NamedOperation} {l : Language} {args : List Value}

/-- The typed operation that a call with `count` arguments stands for, the receiver included. -/
def typed (operation : NamedOperation) (l : Language) (count : Nat) : Operation :=
  match operation with
  | .getItem => .getIndex (count - 1)
  | .setItem => .setIndex (count - 2)
  | .other name => .invokeMember name l.config.ignoreCaseMembers (count - 1)

/-- How many arguments the operation needs: the receiver, and the value to store if there is one. -/
def least : NamedOperation → Nat
  | .setItem => 2
  | .getItem | .other _ => 1

/-- How many steps it takes to come from the named operation to its typed form. -/
def steps : NamedOperation → Nat
  | .getItem | .setItem => 0
  | .other _ => 2

/-- With enough arguments, the typed form is well formed. -/
theorem accepts_typed (h : operation.least ≤ args.length) :
    (operation.typed l args.length).Accepts args := by
  intro n hn
  cases operation with
  | getItem =>
    simp only [least] at h
    simp only [typed, Operation.siteArity?, Option.some.injEq] at hn
    omega
  | setItem =>
    simp only [least] at h
    simp only [typed, Operation.siteArity?, Option.some.injEq] at hn
    omega
  | other name =>
    simp only [least] at h
    simp only [typed, Operation.siteArity?, Option.some.injEq] at hn
    omega

/-- The two names for an index are resolved in their typed form. -/
theorem resolve_typed (hother : ∀ name, operation ≠ .other name)
    (h : operation.least ≤ args.length) :
    Binder.resolve ⟨.named operation, l⟩ args =
      Binder.resolve ⟨operation.typed l args.length, l⟩ args := by
  have hredirect : operation.redirect? args.length = some (operation.typed l args.length) := by
    cases operation with
    | getItem => exact if_pos h
    | setItem => exact if_pos h
    | other name => exact (hother name rfl).elim
  have htyped : (operation.typed l args.length).redirected args =
      operation.typed l args.length := by
    cases operation <;> rfl
  have hmismatch : (operation.typed l args.length).arityMismatch? = none := by
    cases operation <;> rfl
  have hnamed : (Operation.named operation).redirected args = operation.typed l args.length := by
    simp only [Operation.redirected, hredirect, Option.getD_some]
  simp only [Binder.resolve, LanguageStep.resolve, hmismatch, htyped, hnamed]
  rfl

/-- No object takes a named operation on, unless it is a record. -/
theorem bind_named {o : Object} (ho : (Value.object o).RecordFree) (operation : NamedOperation)
    (args : List Value) : o.bind (.named operation) args = none := by
  cases o with
  | classObject c => cases args <;> rfl
  | classInstance id c => rfl
  | record r => cases ho
  | inert id typeName => rfl

/-- Every other name is resolved to a method call inside the plan. -/
theorem plan_resolve_other (hl : l.kind = .script) (hargs : RecordFreeArgs args) {name : String}
    (h : 1 ≤ args.length) :
    (Binder.resolve ⟨.named (.other name), l⟩ args).plan =
      .through ⟨typed (.other name) l args.length, l⟩ none .answer := by
  obtain ⟨receiver, rest, rfl⟩ := List.exists_cons_of_length_pos h
  have hdecline : ∀ o rest', receiver :: rest = .object o :: rest' →
      o.bind (.named (.other name)) (receiver :: rest) = none := by
    rintro o rest' heq
    obtain ⟨rfl, rfl⟩ := List.cons.inj heq
    exact bind_named hargs.head _ _
  exact (LanguageStep.plan_resolveTyped_of_decline hdecline).trans
    (Script.plan_bindPastProtocol_named hl name receiver rest)

/-- **A call of a named operation is the call of its typed form**, where nothing is kept. -/
theorem run_typed (hl : l.kind = .script) (hargs : RecordFreeArgs args)
    (h : operation.least ≤ args.length) (depth : Nat) :
    run .fresh (depth + operation.steps) (.invoke ⟨.named operation, l⟩ none args) =
      run .fresh depth (.invoke ⟨operation.typed l args.length, l⟩ none args) := by
  have hnamed : (Binder.mk (.named operation) l).operation.Accepts args := fun n hn => by cases hn
  have htyped : (Binder.mk (operation.typed l args.length) l).operation.Accepts args :=
    accepts_typed h
  by_cases hother : ∃ name, operation = .other name
  · obtain ⟨name, rfl⟩ := hother
    show run .fresh (depth + 1 + 1) (.invoke ⟨.named (.other name), l⟩ none args) = _
    rw [run_invoke_none hnamed, plan_resolve_other hl hargs h]
    rfl
  · have hsteps : operation.steps = 0 := by
      cases operation with
      | other name => exact (hother ⟨name, rfl⟩).elim
      | _ => rfl
    rw [hsteps, Nat.add_zero]
    cases depth with
    | zero => rfl
    | succ depth =>
      rw [run_invoke_none hnamed, run_invoke_none htyped,
        resolve_typed (fun name heq => hother ⟨name, heq⟩) h]

end NamedOperation

/-! ## Users with other requests -/

/-- A request comes to the same within a larger limit. -/
theorem Request.perform_below (caching : Caching) {depth more : Nat} (h : depth ≤ more)
    (request : Request) : (request.perform caching depth).Below (request.perform caching more) := by
  cases request with
  | call name args =>
    apply Below.get_at
    intro m
    cases m.siteNames.lookup name with
    | some id => exact run_below_of_le caching h _ m
    | none => exact fun _ => rfl
  | _ => exact .refl _

namespace Client

/-- The same user with other requests. -/
def map (f : Request → Request) : Client → Client
  | .done => .done
  | .ask request next => .ask (f request) fun answer => (next answer).map f

/-- Every request that the user may come to has the property. -/
def Asks (p : Request → Prop) : Client → Prop
  | .done => True
  | .ask request next => p request ∧ ∀ answer, (next answer).Asks p

variable {f g : Request → Request} {client : Client}

/-- The same requests make the same user. -/
theorem map_id (client : Client) : client.map id = client := by
  induction client with
  | done => rfl
  | ask request next ih => simp only [map, ih, id]

/-- Other requests without records make a user without records. -/
theorem RecordFree.map (hf : ∀ {request : Request}, request.RecordFree → (f request).RecordFree)
    (h : client.RecordFree) : (client.map f).RecordFree := by
  induction client with
  | done => trivial
  | ask request next ih => exact ⟨hf h.1, fun answer hanswer => ih answer (h.2 answer hanswer)⟩

/-- Two users see the same if each request of the second does what the request of the first does, on
all machines with an invariant that the first keeps up, and where the first is given enough. -/
theorem run_map_eq (f g : Request → Request) (depth depth' : Nat) {p : Request → Prop}
    {inv : Machine → Prop}
    (hf : ∀ {request : Request}, request.RecordFree → (f request).RecordFree)
    (hinv : ∀ {request n}, p request → inv n → inv (((f request).perform .fresh depth).run.run n).2)
    (hstep : ∀ {request : Request} {n}, request.RecordFree → p request → inv n →
      (((f request).perform .fresh depth).run.run n).1 ≠ .error .diverged →
        ((g request).perform .fresh depth').run.run n =
          ((f request).perform .fresh depth).run.run n)
    (hfree : client.RecordFree) (hasks : client.Asks p) {m n : Machine} (htracks : m.Tracks n)
    (hn : inv n)
    (hshown : ∀ entry ∈ ((client.map f).run .fresh depth n).1, entry.1 ≠ .error .diverged) :
    ((client.map g).run .fresh depth' n).1 = ((client.map f).run .fresh depth n).1 := by
  induction client generalizing m n with
  | done => rfl
  | ask request next ih =>
    simp only [map, run, List.forall_mem_cons] at hshown ⊢
    have hagree := (f request).perform_agree (fun _ capacity => capacity) depth (hf hfree.1) htracks
    rw [Request.resize_self] at hagree
    have hanswer : ∀ v, (((f request).perform .fresh depth).run.run n).1 = .ok v → v.RecordFree :=
      fun v hv => hagree.good (hagree.same.trans hv)
    have hrest := ih _ (hfree.2 _ hanswer) (hasks.2 _) hagree.tracks (hinv hasks.1 hn) hshown.2
    rw [hstep hfree.1 hasks.1 hn hshown.1, hrest]

end Client

/-! ## Sites by their names -/

/-- A site of the binder goes by the name. -/
def Machine.Names (m : Machine) (name : String) (binder : Binder) : Prop :=
  ∃ id, m.siteNames.lookup name = some id ∧ m.Hosts id binder

namespace Machine.Names

variable {m n : Machine} {name : String} {binder : Binder}

/-- A run leaves the site under its name. -/
theorem evolves (h : m.Names name binder) (hevolves : m.Evolves n) : n.Names name binder := by
  obtain ⟨id, hid, hosts⟩ := h
  exact ⟨id, by rwa [hevolves.siteNames_eq], hevolves.grows hosts⟩

/-- A site that is opened under another name makes no difference. -/
theorem openSite (h : m.Names name binder) {opened : String} (hne : opened ≠ name)
    (other : Binder) (capacity : Nat) : (m.openSite opened other capacity).Names name binder := by
  obtain ⟨id, hid, hosts⟩ := h
  refine ⟨id, ?_, Tracks.grows_openSite m opened other capacity hosts⟩
  simp only [Machine.openSite, nameSite, lookup_replaced, if_neg hne.symm]
  exact hid

/-- On a machine that goes along, a site of the binder has the name as well. -/
theorem tracks (h : m.Names name binder) (htracks : m.Tracks n) : n.Names name binder := by
  obtain ⟨id, hid, s, hs, rfl⟩ := h
  rcases htracks.named name with ⟨hnone, -⟩ | ⟨id₁, id₂, binder, hid₁, ⟨s₁, hs₁, rfl⟩, hid₂, hosts₂⟩
  · rw [hid] at hnone
    cases hnone
  · obtain rfl : id = id₁ := Option.some.inj (hid.symm.trans hid₁)
    obtain rfl : s = s₁ := Option.some.inj (hs.symm.trans hs₁)
    exact ⟨id₂, hid₂, hosts₂⟩

/-- Where nothing is kept, a call by the name is a call of the operation. -/
theorem perform_call (h : n.Names name binder) (args : List Value) (depth : Nat) :
    ((Request.call name args).perform .fresh depth).run.run n =
      (run .fresh depth (.invoke binder none args)).run.run n := by
  obtain ⟨id, hid, hosts⟩ := h
  rw [Request.perform_call .fresh hid, hosts.site_eq.2]
  cases depth <;> rfl

end Machine.Names

/-! ## Named sites -/

/-- A named site, with the names of sites for its typed forms by the number of arguments. -/
structure NamedSite where
  name : String
  operation : NamedOperation
  language : Language
  form : Nat → String

namespace NamedSite

variable {site : NamedSite} {counts : Nat → Prop} {m n : Machine} {request : Request}

/-- The sites go by those names, the typed ones for all numbers of arguments in question. -/
structure Served (site : NamedSite) (counts : Nat → Prop) (m : Machine) : Prop where
  named : m.Names site.name ⟨.named site.operation, site.language⟩
  forms : ∀ count, counts count →
    m.Names (site.form count) ⟨site.operation.typed site.language count, site.language⟩

/-- The request calls the named site with one of the numbers of arguments in question, if it calls
it, and opens no site under one of the names. -/
def Respects (site : NamedSite) (counts : Nat → Prop) : Request → Prop
  | .openSite name _ _ => name ≠ site.name ∧ ∀ count, counts count → name ≠ site.form count
  | .call name args => name = site.name → counts args.length
  | _ => True

/-- A call of the named site as a call of its typed form. -/
def typed (site : NamedSite) : Request → Request
  | .call name args => .call (if name = site.name then site.form args.length else name) args
  | request => request

/-- The typed form of a request has the same arguments. -/
theorem recordFree_typed (h : request.RecordFree) : (site.typed request).RecordFree := by
  cases request <;> exact h

/-- The typed form of a request takes none of the names away. -/
theorem Respects.typed (h : site.Respects counts request) :
    site.Respects counts (site.typed request) := by
  cases request with
  | call name args =>
    intro heq
    by_cases hname : name = site.name
    · exact h hname
    · rw [if_neg hname] at heq
      exact (hname heq).elim
  | _ => exact h

/-- A run leaves all the sites under their names. -/
theorem Served.evolves (h : site.Served counts m) (hevolves : m.Evolves n) :
    site.Served counts n :=
  ⟨h.named.evolves hevolves, fun count hcount => (h.forms count hcount).evolves hevolves⟩

/-- No request takes the names away. -/
theorem Served.perform (h : site.Served counts m) (hrequest : site.Respects counts request)
    (caching : Caching) (depth : Nat) :
    site.Served counts ((request.perform caching depth).run.run m).2 := by
  have hleaves := request.leaves caching depth m
  generalize ((request.perform caching depth).run.run m).2 = n at hleaves ⊢
  cases hleaves with
  | openSite name binder capacity =>
    exact ⟨h.named.openSite hrequest.1 binder capacity,
      fun count hcount => (h.forms count hcount).openSite (hrequest.2 count hcount) binder capacity⟩
  | define name v => exact ⟨h.named, h.forms⟩
  | evolves hevolves => exact h.evolves hevolves

/-- A request does what its typed form does, which is not as far in. -/
theorem Served.perform_typed (h : site.Served counts n) (hl : site.language.kind = .script)
    (hleast : ∀ count, counts count → site.operation.least ≤ count) (hfree : request.RecordFree)
    (hrequest : site.Respects counts request) (depth : Nat) :
    site.typed request = request ∨
      ((site.typed request).perform .fresh depth).run.run n =
        (request.perform .fresh (depth + site.operation.steps)).run.run n := by
  cases request with
  | call name args =>
    by_cases hname : name = site.name
    · right
      subst hname
      have hcount := hrequest rfl
      simp only [typed, if_true]
      rw [(h.forms _ hcount).perform_call, h.named.perform_call,
        NamedOperation.run_typed hl hfree (hleast _ hcount)]
    · exact .inl (by simp only [typed, if_neg hname])
  | _ => exact .inl rfl

/-- **A named site does with every call what a site of its typed form does**, over whole runs: where
a user calls the named site, with any numbers of arguments in any order, another user calls sites of
the typed forms with the same arguments, and both see the same answers and the same store after
each.  All of the sites may have any history, and the users may do anything else in between. -/
theorem sees_typed (hm : m.Sound) (hl : site.language.kind = .script)
    (hleast : ∀ count, counts count → site.operation.least ≤ count) (hserved : site.Served counts m)
    {client : Client} (hclient : client.RecordFree) (hasks : client.Asks (site.Respects counts))
    (shown : List (Answer × Store)) :
    (client.map site.typed).Sees .kept m shown ↔ client.Sees .kept m shown := by
  obtain ⟨n, htracks⟩ := hm
  have hserved' : site.Served counts n :=
    ⟨hserved.named.tracks htracks, fun count hcount => (hserved.forms count hcount).tracks htracks⟩
  rw [Client.sees_kept_iff (hclient.map recordFree_typed) htracks,
    Client.sees_kept_iff hclient htracks]
  constructor
  · rintro ⟨hshown, depth, rfl⟩
    refine ⟨hshown, depth + site.operation.steps, ?_⟩
    have hsame := Client.run_map_eq site.typed id depth (depth + site.operation.steps)
      recordFree_typed (fun hrequest hn => hn.perform hrequest.typed .fresh depth) ?_ hclient hasks
      htracks hserved' hshown
    · rwa [Client.map_id] at hsame
    · intro request n hfree hrequest hn hended
      rcases hn.perform_typed hl hleast hfree hrequest depth with htyped | htyped
      · rw [htyped] at hended ⊢
        exact request.perform_below .fresh (Nat.le_add_right depth _) n hended
      · exact htyped.symm
  · rintro ⟨hshown, depth, rfl⟩
    refine ⟨hshown, depth, ?_⟩
    have hsame := Client.run_map_eq id site.typed depth depth id
      (fun hrequest hn => hn.perform hrequest .fresh depth) ?_ hclient hasks htracks hserved'
      (by rwa [Client.map_id])
    · rwa [Client.map_id] at hsame
    · intro request n hfree hrequest hn hended
      rcases hn.perform_typed hl hleast hfree hrequest depth with htyped | htyped
      · rw [htyped]
        rfl
      · rw [htyped]
        exact request.perform_below .fresh (Nat.le_add_right depth _) n hended

/-- A site of one binding for the name `append`, and the sites of its forms. -/
def append : NamedSite where
  name := "append"
  operation := .other "append"
  language := default
  form count := if count = 1 then "append nothing" else "append one"

/-- A user who opens the sites and makes a list. -/
def opening : Client :=
  Client.inOrder
    [.openSite "append" ⟨.named (.other "append"), default⟩ 1,
      .openSite "append nothing" ⟨.invokeMember "append" false 0, default⟩ 4,
      .openSite "append one" ⟨.invokeMember "append" false 1, default⟩ 4,
      .make (.list [])]

/-- A user who calls the named site with two arguments, one argument, and two arguments again. -/
def appending : Client :=
  Client.inOrder
    [.call "append" [.list 0, .int 5], .call "append" [.list 0], .call "append" [.list 0, .int 6]]

/-- The site of typed forms sees the method called with one argument, with none, and with one
again. -/
theorem sees_typed_appending :
    ∃ shown, shown.map Prod.fst =
        [.ok .nothing, .error (.error (.argumentCount 1 0)), .ok .nothing] ∧
      (appending.map append.typed).Sees .kept (opening.left 9 default) shown := by
  have hopening : opening.RecordFree := Client.recordFree_inOrder (by
    simp [Request.RecordFree, Literal.recordFree, Literal.allRecordFree])
  have happending : appending.RecordFree := Client.recordFree_inOrder (by
    simp [Request.RecordFree, RecordFreeArgs, Value.RecordFree, Value.isRecord])
  have hserved : append.Served (fun count => count = 1 ∨ count = 2) (opening.left 9 default) := by
    refine ⟨⟨0, rfl, _, rfl, rfl⟩, ?_⟩
    rintro count (rfl | rfl)
    · exact ⟨1, rfl, _, rfl, rfl⟩
    · exact ⟨2, rfl, _, rfl, rfl⟩
  have hleast : ∀ count : Nat, count = 1 ∨ count = 2 → append.operation.least ≤ count := by
    rintro count (rfl | rfl) <;> decide
  have hasks : appending.Asks (append.Respects fun count => count = 1 ∨ count = 2) := by
    simp [appending, Client.inOrder, Client.Asks, Respects]
  have hsees := sees_typed (Client.sound_left hopening default 9) rfl hleast hserved happending
    hasks (appending.run .kept 9 (opening.left 9 default)).1
  refine ⟨_, rfl, hsees.2 ⟨?_, 9, rfl⟩⟩
  intro entry hentry
  have hanswer : entry.1 ∈ [.ok .nothing, .error (.error (.argumentCount 1 0)), .ok .nothing] :=
    List.mem_map_of_mem hentry
  simp only [List.mem_cons, List.not_mem_nil, or_false] at hanswer
  rcases hanswer with hanswer | hanswer | hanswer <;> simp [hanswer]

end NamedSite

end DynamicBinding
