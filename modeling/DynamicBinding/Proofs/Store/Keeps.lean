import DynamicBinding.Proofs.Store.RecordFree
/-!
# What computations on the store keep

A computation on the store keeps it free of records, and what it gives has a property, which is
mostly that of being no record.  `Effect.Keeps` says so, and comes with a rule for each way of
putting computations together.
-/

namespace DynamicBinding

variable {α β : Type} {good : α → Prop} {fine : β → Prop}

/-- What comes second starts from what the first left, unless the first stopped. -/
theorem run_bind {σ : Type} (x : ExceptT Stop (StateM σ) α) (f : α → ExceptT Stop (StateM σ) β)
    (s : σ) :
    (x >>= f).run.run s =
      match x.run.run s with
      | (.ok a, t) => (f a).run.run t
      | (.error e, t) => (.error e, t) := by
  simp only [ExceptT.run_bind, StateT.run_bind]
  rcases x.run.run s with ⟨r, t⟩
  cases r <;> rfl

/-- What comes after a reading starts from the state that was read. -/
theorem run_get_bind {σ : Type} (f : σ → ExceptT Stop (StateM σ) β) (s : σ) :
    (get >>= f).run.run s = (f s).run.run s := rfl

/-! ## Rules -/

/-- On a store without records the computation leaves such a store, and what it gives has the
property. -/
def Effect.Keeps (good : α → Prop) (x : Effect α) : Prop :=
  ∀ s : Store, s.RecordFree →
    (∀ a, (x.run.run s).1 = .ok a → good a) ∧ (x.run.run s).2.RecordFree

namespace Effect.Keeps

/-- A value that is given leaves the store as it is. -/
theorem pure {a : α} (h : good a) : Keeps good (pure a) := by
  intro s hs
  refine ⟨fun b hb => ?_, hs⟩
  cases hb
  exact h

/-- An error leaves the store as it is. -/
theorem fail (e : RuntimeError) : Keeps good (Effect.fail e) := by
  intro s hs
  exact ⟨fun b hb => (nomatch hb), hs⟩

/-- The second computation starts from what the first one gives, in a store free of records. -/
theorem bind {x : Effect α} {f : α → Effect β} (hx : x.Keeps good)
    (hf : ∀ a, good a → (f a).Keeps fine) : (x >>= f).Keeps fine := by
  intro s hs
  obtain ⟨hgood, hstore⟩ := hx s hs
  rw [run_bind]
  rcases h : x.run.run s with ⟨r, t⟩
  rw [h] at hgood hstore
  cases r with
  | ok a => exact hf a (hgood a rfl) t hstore
  | error e => exact ⟨fun b hb => (nomatch hb), hstore⟩

/-- What is read is the store, which is free of records. -/
theorem get : Keeps Store.RecordFree (get : Effect Store) := by
  intro s hs
  refine ⟨fun t ht => ?_, hs⟩
  cases ht
  exact hs

/-- A change of the store keeps the property if it does so from every store. -/
theorem modifyGet {f : Store → α × Store}
    (h : ∀ s, s.RecordFree → good (f s).1 ∧ (f s).2.RecordFree) :
    Keeps good (modifyGet f : Effect α) := by
  intro s hs
  refine ⟨fun a ha => ?_, (h s hs).2⟩
  cases ha
  exact (h s hs).1

/-- A change that gives nothing has only the store to keep. -/
theorem modify {f : Store → Store} (h : ∀ s, s.RecordFree → (f s).RecordFree) :
    Keeps (fun _ => True) (modify f : Effect PUnit) :=
  modifyGet fun s hs => ⟨trivial, h s hs⟩

/-- A stop for want of an answer leaves the store as it is. -/
theorem require {o : Option α} (h : ∀ a, o = some a → good a) : Keeps good (Effect.require o) := by
  cases o with
  | some a => exact pure (h a rfl)
  | none => exact fun s hs => ⟨fun b hb => (nomatch hb), hs⟩

/-- A new text is no record. -/
theorem str (chars : String) : Keeps Value.RecordFree (Effect.str chars) :=
  modifyGet fun _ hs => ⟨rfl, hs.makeStr chars⟩

/-- A new list holds what it is made of. -/
theorem list {items : List Value} (h : RecordFreeArgs items) :
    Keeps Value.RecordFree (Effect.list items) :=
  modifyGet fun _ hs => ⟨rfl, hs.push_cells h⟩

/-- A new tuple holds what it is made of. -/
theorem tuple {items : List Value} (h : RecordFreeArgs items) :
    Keeps Value.RecordFree (Effect.tuple items) :=
  modifyGet fun _ hs => ⟨rfl, hs.push_cells h⟩

end Effect.Keeps

/-- No arguments, no record among them. -/
theorem RecordFreeArgs.nil : RecordFreeArgs [] := by
  simp [RecordFreeArgs]

/-- Arguments are free of records one by one. -/
theorem RecordFreeArgs.cons {v : Value} {rest : List Value} (hv : v.RecordFree)
    (hrest : RecordFreeArgs rest) : RecordFreeArgs (v :: rest) := by
  intro w hw
  rcases List.mem_cons.1 hw with rfl | hw
  · exact hv
  · exact hrest w hw

/-- Two argument lists without records make one without records. -/
theorem RecordFreeArgs.append {xs ys : List Value} (hxs : RecordFreeArgs xs)
    (hys : RecordFreeArgs ys) : RecordFreeArgs (xs ++ ys) := by
  intro v hv
  rcases List.mem_append.1 hv with hv | hv
  · exact hxs v hv
  · exact hys v hv

/-- Whatever is picked from a list without records, or stands in for what is not there, is no
record. -/
theorem RecordFreeArgs.getD {o : Option Value} (h : ∀ v, o = some v → v.RecordFree) :
    (o.getD .nothing).RecordFree := by
  cases o with
  | none => rfl
  | some v => exact h v rfl

end DynamicBinding
