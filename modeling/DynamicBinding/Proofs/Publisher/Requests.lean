import DynamicBinding.Proofs.Publisher.Cells
import Mathlib.Data.Finset.Card
/-!
# What a publisher promises

A publisher is asked for values one call after the other.  The factory of a key may itself ask the
publisher for other keys, and so a call can begin and end inside another one, at a time when the
cell of the outer key is open.

* `Publisher.Program` is any use of a publisher: what is asked next, and what factories do, may
  depend on all answers so far.  `Program.perform` uses the publisher, and `Program.log` says what
  happens meanwhile, event by event.
* `Publisher.Follows` is what can happen next, and `Publisher.Leads` any number of such events; a
  program in which no call waits for itself leads from one publisher to another (`Program.leads`).
* `Publisher.Told` is what the past says about a publisher.  Every event keeps that
  (`Told.follows`) and is as `Publisher.Lawful` says (`Told.lawful`).
* `Program.all_lawful`: so is every event of a program on a new publisher.
-/

namespace DynamicBinding.Publisher

/-- What happens to a publisher and its users. -/
inductive Event (κ α : Type) where
  /-- A call asks for the value of the key, and a factory comes with it. -/
  | asked (key : κ)
  /-- The factory of the key starts. -/
  | started (key : κ)
  /-- A call that asked for the value of the key is given it. -/
  | gave (key : κ) (value : α)
  /-- The answer to whether the key has a value, and which. -/
  | got (key : κ) (answer : Option α)
  /-- The answer to whether the key has a value. -/
  | checked (key : κ) (answer : Bool)

/-- An event and what it leaves behind. -/
structure Entry (κ α : Type) where
  event : Event κ α
  /-- The keys of the calls in progress, the innermost first. -/
  calls : List κ
  publisher : Publisher κ α

/-- A use of a publisher that comes to a result.  Factories are such uses. -/
inductive Program (κ α : Type) : Type → Type 1 where
  | done {β : Type} (b : β) : Program κ α β
  | create {β : Type} (key : κ) (factory : Program κ α α) (next : α → Program κ α β) :
    Program κ α β
  | get {β : Type} (key : κ) (next : Option α → Program κ α β) : Program κ α β
  | contains {β : Type} (key : κ) (next : Bool → Program κ α β) : Program κ α β

variable {κ α β : Type} [DecidableEq κ]

namespace Program

/-- Uses the publisher. -/
def perform {β : Type} : Program κ α β → StateM (Publisher κ α) β
  | .done b => pure b
  | .create key factory next => do
    let value ← getOrCreate key factory.perform
    (next value).perform
  | .get key next => do
    let p ← MonadState.get
    (next (p.get? key)).perform
  | .contains key next => do
    let p ← MonadState.get
    (next (p.contains key)).perform

/-- What happens while the publisher is used, inside of calls that are in progress. -/
def log {β : Type} : Program κ α β → List κ → Publisher κ α → List (Entry κ α)
  | .done _, _, _ => []
  | .create key factory next, calls, p =>
    ⟨.asked key, key :: calls, p⟩ ::
      match p.get? key with
      | some value => ⟨.gave key value, calls, p⟩ :: (next value).log calls p
      | none =>
        let made := factory.perform.run (p.start key)
        let left := made.2.finish key made.1
        ⟨.started key, key :: calls, p.start key⟩ ::
          (factory.log (key :: calls) (p.start key) ++
            ⟨.gave key made.1, calls, left⟩ :: (next made.1).log calls left)
  | .get key next, calls, p =>
    ⟨.got key (p.get? key), calls, p⟩ :: (next (p.get? key)).log calls p
  | .contains key next, calls, p =>
    ⟨.checked key (p.contains key), calls, p⟩ :: (next (p.contains key)).log calls p

/-- Calls that are in progress at one time are for different keys: no factory asks for its own key,
nor has others ask for it. -/
def Clear (program : Program κ α β) : Prop := ∀ entry ∈ program.log [] {}, entry.calls.Nodup

end Program

/-! ## What can happen -/

/-- What can happen next, with the keys of the calls in progress. -/
inductive Follows (calls : List κ) (p : Publisher κ α) : Entry κ α → Prop
  | asked (key : κ) : Follows calls p ⟨.asked key, key :: calls, p⟩
  | started {key : κ} (hcall : key ∈ calls) (h : key ∉ p.keys) :
    Follows calls p ⟨.started key, calls, p.start key⟩
  | found {key : κ} {value : α} {rest : List κ} (hcall : calls = key :: rest)
    (h : p.get? key = some value) : Follows calls p ⟨.gave key value, rest, p⟩
  | made {key : κ} {rest : List κ} (hcall : calls = key :: rest) (h : p.IsOpen key) (value : α) :
    Follows calls p ⟨.gave key value, rest, p.finish key value⟩
  | got (key : κ) : Follows calls p ⟨.got key (p.get? key), calls, p⟩
  | checked (key : κ) : Follows calls p ⟨.checked key (p.contains key), calls, p⟩

/-- The entries follow one on the other, from one publisher to another. -/
inductive Leads : List κ → Publisher κ α → List (Entry κ α) → List κ → Publisher κ α → Prop
  | nil {calls : List κ} {p : Publisher κ α} : Leads calls p [] calls p
  | cons {calls calls' : List κ} {p q : Publisher κ α} {entry : Entry κ α}
    {rest : List (Entry κ α)} (h : Follows calls p entry)
    (hrest : Leads entry.calls entry.publisher rest calls' q) :
    Leads calls p (entry :: rest) calls' q

/-- What follows goes on from where the first entries led. -/
theorem Leads.append {calls calls' calls'' : List κ} {p q r : Publisher κ α}
    {entries more : List (Entry κ α)} (h : Leads calls p entries calls' q)
    (h' : Leads calls' q more calls'' r) : Leads calls p (entries ++ more) calls'' r := by
  induction h with
  | nil => exact h'
  | cons h _ ih => exact .cons h (ih h')

/-- **A program in which no call waits for itself** leads from one publisher to another, and the
cells that are open are the same before and after. -/
theorem Program.leads (program : Program κ α β) {calls : List κ} {p : Publisher κ α}
    (hcalls : ∀ key, p.IsOpen key → key ∈ calls)
    (hclear : ∀ entry ∈ program.log calls p, entry.calls.Nodup) :
    Leads calls p (program.log calls p) calls (program.perform.run p).2 ∧
      ∀ k, (program.perform.run p).2.IsOpen k ↔ p.IsOpen k := by
  induction program generalizing calls p with
  | done b => exact ⟨.nil, fun k => Iff.rfl⟩
  | create key factory next ihFactory ihNext =>
    have hrun : (create key factory next).perform.run p =
        (next ((getOrCreate key factory.perform).run p).1).perform.run
          ((getOrCreate key factory.perform).run p).2 := rfl
    rw [hrun, run_getOrCreate]
    cases hkey : p.get? key with
    | some value =>
      simp only [log, hkey, List.forall_mem_cons] at hclear ⊢
      obtain ⟨hleads, hopen⟩ := ihNext value hcalls hclear.2.2
      exact ⟨.cons (.asked key) (.cons (.found rfl hkey) hleads), hopen⟩
    | none =>
      simp only [log, hkey, List.forall_mem_cons, List.forall_mem_append] at hclear ⊢
      obtain ⟨hasked, -, hfactory, -, hnext⟩ := hclear
      -- no call for the key is in progress, so its cell cannot be open
      have hnew : key ∉ p.keys := by
        rcases get?_eq_none_iff.1 hkey with hnew | hopen
        · exact hnew
        · exact absurd (hcalls key hopen) (List.nodup_cons.1 hasked).1
      have hinside : ∀ k, (p.start key).IsOpen k → k ∈ key :: calls := by
        intro k hk
        rw [isOpen_start hnew] at hk
        exact List.mem_cons.2 (hk.imp_right (hcalls k))
      obtain ⟨hmaking, hstill⟩ := ihFactory hinside hfactory
      generalize factory.perform.run (p.start key) = made at *
      obtain ⟨value, q⟩ := made
      have hsame := isOpen_finish_of_start hnew hstill value
      have hopen : q.IsOpen key := (hstill key).2 ((isOpen_start hnew).2 (.inl rfl))
      obtain ⟨hleads, hafter⟩ := ihNext value (fun k hk => hcalls k ((hsame k).1 hk)) hnext
      refine ⟨?_, fun k => (hafter k).trans (hsame k)⟩
      exact .cons (.asked key) (.cons (.started List.mem_cons_self hnew)
        (hmaking.append (.cons (.made rfl hopen value) hleads)))
  | get key next ih =>
    obtain ⟨hleads, hopen⟩ := ih (p.get? key) hcalls fun entry h => hclear entry (.tail _ h)
    exact ⟨.cons (.got key) hleads, hopen⟩
  | contains key next ih =>
    obtain ⟨hleads, hopen⟩ := ih (p.contains key) hcalls fun entry h => hclear entry (.tail _ h)
    exact ⟨.cons (.checked key) hleads, hopen⟩

/-! ## What the past says -/

/-- The key of a call that begins. -/
def Event.askedKey? : Event κ α → Option κ
  | .asked key => some key
  | _ => none

/-- The keys that were asked for with a factory. -/
def askedKeys (past : List (Event κ α)) : Finset κ := (past.filterMap Event.askedKey?).toFinset

/-- A key was asked for just if a call for it began. -/
theorem mem_askedKeys {past : List (Event κ α)} {key : κ} :
    key ∈ askedKeys past ↔ .asked key ∈ past := by
  simp only [askedKeys, List.mem_toFinset, List.mem_filterMap]
  constructor
  · rintro ⟨event, hevent, hkey⟩
    cases event with
    | asked k =>
      cases hkey
      exact hevent
    | _ => cases hkey
  · intro h
    exact ⟨_, h, rfl⟩

/-- What is promised of an event, given the events before it. -/
structure Lawful (past : List (Event κ α)) (entry : Entry κ α) : Prop where
  /-- The factory of a key runs once, and not after the key has a value. -/
  started : ∀ {key}, entry.event = .started key →
    .started key ∉ past ∧ ∀ value, .gave key value ∉ past
  /-- All calls for a key are given one value. -/
  gave : ∀ {key value}, entry.event = .gave key value →
    ∀ first, .gave key first ∈ past → value = first
  /-- A key has a value from the moment on that a call for it has returned it. -/
  got : ∀ {key answer}, entry.event = .got key answer →
    ∀ value, answer = some value ↔ .gave key value ∈ past
  checked : ∀ {key answer}, entry.event = .checked key answer →
    (answer = true ↔ ∃ value, .gave key value ∈ past)
  /-- When no call is in progress, as many factories have run as there are cells, and as there are
  keys that were asked for. -/
  counts : entry.calls = [] →
    entry.publisher.created = entry.publisher.size ∧
      entry.publisher.size = (askedKeys (past ++ [entry.event])).card

/-- The past tells which keys have a cell and which values are found. -/
structure Told (past : List (Event κ α)) (calls : List κ) (p : Publisher κ α) : Prop where
  nodup : p.keys.Nodup
  created : p.created = p.size
  started : ∀ {key}, .started key ∈ past ↔ key ∈ p.keys
  gave : ∀ {key value}, .gave key value ∈ past ↔ p.get? key = some value
  /-- A call that began is in progress, or its key has a value. -/
  asked : ∀ {key}, .asked key ∈ past → key ∈ calls ∨ ∃ value, p.get? key = some value
  begun : ∀ {key}, key ∈ calls ∨ key ∈ p.keys → .asked key ∈ past

namespace Told

variable {past : List (Event κ α)} {calls : List κ} {p : Publisher κ α} {entry : Entry κ α}

/-- A new publisher has nothing in its past. -/
theorem new : Told ([] : List (Event κ α)) [] {} where
  nodup := List.nodup_nil
  created := rfl
  started := by simp [keys]
  gave := by simp [get?]
  asked h := by simp at h
  begun h := by simp [keys] at h

/-- When no call is in progress, there are as many cells as keys that were asked for. -/
theorem size_eq (h : Told past [] p) : p.size = (askedKeys past).card := by
  have hkeys : askedKeys past = p.keys.toFinset := by
    ext key
    rw [mem_askedKeys, List.mem_toFinset]
    constructor
    · intro hasked
      obtain ⟨-, -, -⟩ | ⟨value, hvalue⟩ := h.asked hasked
      exact mem_keys_of_get? hvalue
    · intro hkey
      exact h.begun (.inr hkey)
  rw [hkeys, List.toFinset_card_of_nodup h.nodup, length_keys]

/-! ### Events one by one -/

section Events

variable {key : κ} {rest : List κ} {value : α}

/-- A call that begins is in progress. -/
theorem ask (h : Told past calls p) (key : κ) : Told (past ++ [.asked key]) (key :: calls) p where
  nodup := h.nodup
  created := h.created
  started := by simp [h.started]
  gave := by simp [h.gave]
  asked {k} hk := by
    simp only [List.mem_append, List.mem_singleton, Event.asked.injEq] at hk
    rcases hk with hk | rfl
    · exact (h.asked hk).imp_left (.tail key)
    · exact .inl List.mem_cons_self
  begun {k} hk := by
    suffices k = key ∨ .asked k ∈ past by simpa [or_comm] using this
    rcases hk with hk | hk
    · exact (List.mem_cons.1 hk).imp_right fun hk => h.begun (.inl hk)
    · exact .inr (h.begun (.inr hk))

/-- A factory that starts opens the cell of its key. -/
theorem start (h : Told past calls p) (hcall : key ∈ calls) (hnew : key ∉ p.keys) :
    Told (past ++ [.started key]) calls (p.start key) where
  nodup := by
    rw [keys_start hnew, ← List.concat_eq_append]
    exact h.nodup.concat hnew
  created := by
    rw [created_start, h.created, ← length_keys, ← length_keys, keys_start hnew]
    simp
  started := by simp [h.started, keys_start hnew]
  gave := by simp [h.gave, get?_start hnew]
  asked hk := by
    simp only [get?_start hnew]
    exact h.asked (by simpa using hk)
  begun {k} hk := by
    simp only [keys_start hnew, List.mem_append, List.mem_singleton] at hk
    suffices .asked k ∈ past by simp [this]
    rcases hk with hk | hk | rfl
    · exact h.begun (.inl hk)
    · exact h.begun (.inr hk)
    · exact h.begun (.inl hcall)

/-- A value that is there is given. -/
theorem give (h : Told past (key :: rest) p) (hvalue : p.get? key = some value) :
    Told (past ++ [.gave key value]) rest p where
  nodup := h.nodup
  created := h.created
  started := by simp [h.started]
  gave {k v} := by
    simp only [List.mem_append, List.mem_singleton, Event.gave.injEq, h.gave]
    constructor
    · rintro (hk | ⟨rfl, rfl⟩)
      · exact hk
      · exact hvalue
    · exact .inl
  asked {k} hk := by
    rcases h.asked (by simpa using hk) with hk | hk
    · rcases List.mem_cons.1 hk with rfl | hk
      · exact .inr ⟨value, hvalue⟩
      · exact .inl hk
    · exact .inr hk
  begun hk := by simpa using h.begun (hk.imp_left (.tail key))

/-- The factory of an open cell is done.  Its key had no value until now, so its value is the only
one, and those of other keys stay. -/
theorem make (h : Told past (key :: rest) p) (hopen : p.IsOpen key) (value : α) :
    Told (past ++ [.gave key value]) rest (p.finish key value) where
  nodup := by
    rw [keys_finish]
    exact h.nodup
  created := by rw [created_finish, size_finish, h.created]
  started := by simp [h.started, keys_finish]
  gave {k v} := by
    have hnone : p.get? key = none := get?_eq_none_iff.2 (.inr hopen)
    simp only [List.mem_append, List.mem_singleton, Event.gave.injEq, h.gave, get?_finish hopen]
    by_cases hk : k = key
    · subst hk
      simp [hnone, eq_comm]
    · simp [hk]
  asked {k} hk := by
    rw [get?_finish hopen]
    by_cases heq : k = key
    · exact .inr ⟨value, if_pos heq⟩
    · rw [if_neg heq]
      exact (h.asked (by simpa using hk)).imp_left (List.mem_of_ne_of_mem heq)
  begun hk := by
    rw [keys_finish] at hk
    simpa using h.begun (hk.imp_left (.tail key))

/-- A question changes nothing. -/
theorem query (h : Told past calls p) {event : Event κ α} (hgot : ∀ key, event ≠ .asked key)
    (hstarted : ∀ key, event ≠ .started key) (hgave : ∀ key value, event ≠ .gave key value) :
    Told (past ++ [event]) calls p where
  nodup := h.nodup
  created := h.created
  started {k} := by simp [h.started, (hstarted k).symm]
  gave {k v} := by simp [h.gave, (hgave k v).symm]
  asked {k} hk := h.asked (by simpa [(hgot k).symm] using hk)
  begun hk := by simp [h.begun hk]

end Events

/-- **Every event keeps up what the past says.** -/
theorem follows (h : Told past calls p) (hnext : Follows calls p entry) :
    Told (past ++ [entry.event]) entry.calls entry.publisher := by
  cases hnext with
  | asked key => exact h.ask key
  | started hcall hnew => exact h.start hcall hnew
  | found hcall hvalue =>
    subst hcall
    exact h.give hvalue
  | made hcall hopen value =>
    subst hcall
    exact h.make hopen value
  | got key => exact h.query nofun nofun nofun
  | checked key => exact h.query nofun nofun nofun

/-- **Every event is as promised.** -/
theorem lawful (h : Told past calls p) (hnext : Follows calls p entry) : Lawful past entry where
  started {key} hevent := by
    cases hnext with
    | started hcall hnew =>
      cases hevent
      have hvalue : ∀ value, .gave key value ∉ past :=
        fun value hvalue => hnew (mem_keys_of_get? (h.gave.1 hvalue))
      exact ⟨mt h.started.1 hnew, hvalue⟩
    | _ => cases hevent
  gave {key value} hevent first hfirst := by
    have hkept := h.gave.1 hfirst
    cases hnext with
    | found hcall hvalue =>
      cases hevent
      exact Option.some.inj (hvalue.symm.trans hkept)
    | made hcall hopen made =>
      cases hevent
      rw [get?_eq_none_iff.2 (.inr hopen)] at hkept
      cases hkept
    | _ => cases hevent
  got {key answer} hevent value := by
    cases hnext with
    | got k =>
      cases hevent
      exact h.gave.symm
    | _ => cases hevent
  checked {key answer} hevent := by
    cases hnext with
    | checked k =>
      cases hevent
      simp only [contains, Option.isSome_iff_exists, h.gave]
    | _ => cases hevent
  counts hcalls := by
    have hafter := h.follows hnext
    rw [hcalls] at hafter
    exact ⟨hafter.created, hafter.size_eq⟩

end Told

/-! ## Whole programs -/

/-- The last entry has the publisher that is left. -/
theorem Leads.getLast {calls calls' : List κ} {p q : Publisher κ α} {entries : List (Entry κ α)}
    (h : Leads calls p entries calls' q) :
    (entries.getLast?.map Entry.publisher).getD p = q := by
  induction h with
  | nil => rfl
  | @cons calls calls' p q entry rest _ _ ih =>
    rw [List.getLast?_cons]
    cases hlast : rest.getLast? with
    | none =>
      rw [hlast] at ih
      exact ih
    | some last =>
      rw [hlast] at ih
      exact ih

/-- From a publisher on that is as the past says, all events are as promised. -/
theorem Leads.lawful {calls calls' : List κ} {p q : Publisher κ α} {entries : List (Entry κ α)}
    (h : Leads calls p entries calls' q) {past : List (Event κ α)} (hpast : Told past calls p)
    {earlier later : List (Entry κ α)} {entry : Entry κ α}
    (hsplit : entries = earlier ++ entry :: later) :
    Lawful (past ++ earlier.map Entry.event) entry := by
  induction h generalizing past earlier with
  | nil => simp at hsplit
  | cons hnext _ ih =>
    cases earlier with
    | nil =>
      cases hsplit
      simpa using hpast.lawful hnext
    | cons first earlier =>
      obtain ⟨rfl, hrest⟩ := List.cons.inj hsplit
      simpa using ih (hpast.follows hnext) hrest

/-- **Every event of a program on a new publisher is as promised**, and the last of them leaves the
publisher that the program leaves. -/
theorem Program.all_lawful (program : Program κ α β) (hclear : program.Clear) :
    ((program.log [] {}).getLast?.map Entry.publisher).getD {} = (program.perform.run {}).2 ∧
      ∀ earlier later entry, program.log [] {} = earlier ++ entry :: later →
        Lawful (earlier.map Entry.event) entry := by
  have hnone : ∀ key, IsOpen ({} : Publisher κ α) key → key ∈ ([] : List κ) := fun key h => by
    cases h
  have hleads := (program.leads hnone hclear).1
  exact ⟨hleads.getLast, fun earlier later entry hsplit => hleads.lawful Told.new hsplit⟩

end DynamicBinding.Publisher
