import DynamicBinding.Proofs.Machine.Stages
/-!
# The fields of an instance

Member operations on instances read, write and remove fields, and nothing else of the class or the
language takes part in writing and removing.

* `FieldAction.Acts` says what an operation does to the fields and answers, in terms of the entry
  that the name addresses.  Every stage of a user who only performs member operations obeys it
  (`Stage.acts`).
* `Client.fields_lawful` collects what holds of the fields of every instance.
-/

namespace DynamicBinding

/-! ## What is done to fields -/

/-- An operation on the fields of an instance. -/
inductive FieldAction where
  | get (name : String) (ignoreCase : Bool)
  | set (name : String) (ignoreCase : Bool) (v : Value)
  | delete (name : String) (ignoreCase : Bool)
deriving DecidableEq

namespace FieldAction

/-- The instance among the arguments of a member operation, and what is done to its fields. -/
def of? (operation : Operation) (args : List Value) : Option (Nat × FieldAction) :=
  match operation, args with
  | .getMember name ignoreCase, [.object (.classInstance id _)] => some (id, .get name ignoreCase)
  | .setMember name ignoreCase, [.object (.classInstance id _), v] =>
    some (id, .set name ignoreCase v)
  | .deleteMember name ignoreCase, [.object (.classInstance id _)] =>
    some (id, .delete name ignoreCase)
  | _, _ => none

/-- What an operation makes of the fields of its instance, and its answer.  Where a name addresses
an entry, the entry is read, gets a new value in its place, or goes.  Where it addresses none, the
answer to reading is up to the class, writing adds an entry at the end, and removing fails. -/
inductive Acts : FieldAction → MemberTable → Answer → MemberTable → Prop
  | read {name : String} {ignoreCase : Bool} {t : MemberTable} {front back : List (String × Value)}
    {key : String} {v : Value} (h : t.Addresses name ignoreCase front key v back) :
    Acts (.get name ignoreCase) t (.ok v) t
  | unread {name : String} {ignoreCase : Bool} {t : MemberTable} (h : t.Lacks name ignoreCase)
    (answer : Answer) : Acts (.get name ignoreCase) t answer t
  | replaced {name : String} {ignoreCase : Bool} {t : MemberTable}
    {front back : List (String × Value)} {key : String} {old : Value}
    (h : t.Addresses name ignoreCase front key old back) (v : Value) :
    Acts (.set name ignoreCase v) t (.ok v) ⟨front ++ (key, v) :: back⟩
  | added {name : String} {ignoreCase : Bool} {t : MemberTable} (h : t.Lacks name ignoreCase)
    (v : Value) : Acts (.set name ignoreCase v) t (.ok v) ⟨t.entries ++ [(name, v)]⟩
  | removed {name : String} {ignoreCase : Bool} {t : MemberTable}
    {front back : List (String × Value)} {key : String} {old : Value}
    (h : t.Addresses name ignoreCase front key old back) :
    Acts (.delete name ignoreCase) t (.ok .nothing) ⟨front ++ back⟩
  | refused {name : String} {ignoreCase : Bool} {t : MemberTable} (h : t.Lacks name ignoreCase)
    (e : RuntimeError) : Acts (.delete name ignoreCase) t (.error (.error e)) t

variable {action : FieldAction} {t u w : MemberTable} {answer : Answer} {name : String}
  {ignoreCase : Bool} {v : Value}

/-- What was written is what is read next. -/
theorem Acts.read_written {answer' : Answer} (h : Acts (.set name ignoreCase v) t answer u)
    (h' : Acts (.get name ignoreCase) u answer' w) : answer' = .ok v := by
  have hwritten : u.get? name ignoreCase = some v := by
    cases h with
    | replaced h =>
      have hset := t.get?_set name ignoreCase v
      rwa [h.set v] at hset
    | added h =>
      have hset := t.get?_set name ignoreCase v
      rwa [h.set v] at hset
  cases h' with
  | read h' =>
    rw [h'.get?] at hwritten
    rw [Option.some.inj hwritten]
  | unread h' =>
    rw [h'.get?] at hwritten
    cases hwritten

/-- Names go, or one name comes at the end. -/
theorem Acts.shifts (h : Acts action t answer u) : u.Shifts t := by
  cases h with
  | read h => exact .inl (.refl _)
  | unread h => exact .inl (.refl _)
  | @replaced name ignoreCase _ front back key old h v =>
    have hset := t.shifts_set name ignoreCase v
    rwa [h.set v] at hset
  | @added name ignoreCase _ h v =>
    have hset := t.shifts_set name ignoreCase v
    rwa [h.set v] at hset
  | removed h => exact .inl (MemberTable.names_remove? h.remove?)
  | refused h => exact .inl (.refl _)

/-- Names that are told apart stay apart, if everything is written with the same regard of case. -/
theorem Acts.apart {strict : Bool} (h : Acts action t answer u)
    (hset : ∀ name ignoreCase v, action = .set name ignoreCase v → strict = true →
      ignoreCase = true) (ht : t.Apart strict) : u.Apart strict := by
  cases h with
  | read h => exact ht
  | unread h => exact ht
  | @replaced name ignoreCase _ front back key old h v =>
    have hapart := ht.set (hset name ignoreCase v rfl) name v
    rwa [h.set v] at hapart
  | @added name ignoreCase _ h v =>
    have hapart := ht.set (hset name ignoreCase v rfl) name v
    rwa [h.set v] at hapart
  | removed h => exact ht.remove? h.remove?
  | refused h => exact ht

/-! ## What operations do -/

/-- The member operation that does it. -/
def operation : FieldAction → Operation
  | .get name ignoreCase => .getMember name ignoreCase
  | .set name ignoreCase _ => .setMember name ignoreCase
  | .delete name ignoreCase => .deleteMember name ignoreCase

/-- The arguments after the instance. -/
def operands : FieldAction → List Value
  | .set _ _ v => [v]
  | .get _ _ | .delete _ _ => []

/-- The computation that the operation comes to. -/
def effect (action : FieldAction) (args : List Value) : Effect Value :=
  match action with
  | .get name ignoreCase => readAttribute action.operation name ignoreCase args
  | .set name ignoreCase _ => assignField name ignoreCase args
  | .delete name ignoreCase => deleteField name ignoreCase args

variable {id : Nat} {c : ClassRef} {s : Store}

/-- What is asked for is told by the operation, the instance and the operands. -/
theorem of?_eq_some {op : Operation} {args : List Value} (h : of? op args = some (id, action)) :
    ∃ c, op = action.operation ∧ args = .object (.classInstance id c) :: action.operands := by
  unfold of? at h
  split at h <;> cases h <;> exact ⟨_, rfl, rfl⟩

/-- The instance itself binds member operations, whatever the language. -/
theorem run_fresh (language : Language) (depth : Nat) :
    run .fresh (depth + 2) (.invoke ⟨action.operation, language⟩ none
        (.object (.classInstance id c) :: action.operands)) =
      Exec.onStore (action.effect (.object (.classInstance id c) :: action.operands)) := by
  cases action <;> rfl

/-- A field that is there is read, and nothing changes. -/
theorem run_readAttribute (op : Operation) (h : (s.fields id).get? name ignoreCase = some v) :
    (readAttribute op name ignoreCase [.object (.classInstance id c)]).run.run s = (.ok v, s) := by
  have hattribute : (attribute? (.object (.classInstance id c)) id c name ignoreCase).run.run s =
      (.ok (some v), s) := by
    simp only [attribute?, run_get_bind, h]
    rfl
  show ((attribute? (.object (.classInstance id c)) id c name ignoreCase >>= _).run.run s) = _
  rw [run_bind, hattribute]
  rfl

/-- Reading an attribute changes no field. -/
theorem fields_readAttribute (op : Operation) (name : String) (ignoreCase : Bool)
    (args : List Value) (id : Nat) :
    ((readAttribute op name ignoreCase args).run.run s).2.fields id = s.fields id := by
  have hmakes : Effect.OnlyMakes (fun _ => True) s (readAttribute op name ignoreCase args) :=
    readAttribute_makes s op name ignoreCase args
  obtain ⟨hextends, -⟩ := hmakes fun _ _ _ => .inl trivial
  exact hextends.fields id

/-- A field is removed if it is there, and it is an error if not. -/
theorem run_deleteField (name : String) (ignoreCase : Bool) :
    (deleteField name ignoreCase [.object (.classInstance id c)]).run.run s =
      match (s.fields id).remove? name ignoreCase with
      | some fields => (.ok .nothing, s.setFields id fields)
      | none => (.error (.error (.unsupportedOn (.deleteMember name ignoreCase)
          (.object (.classInstance id c)))), s) := by
  simp only [deleteField, receiverInstance, pure_bind, run_get_bind]
  cases (s.fields id).remove? name ignoreCase <;> rfl

/-- The fields of other instances stay as they are. -/
theorem fields_effect_of_ne {other : Nat} (h : id ≠ other) :
    ((action.effect (.object (.classInstance id c) :: action.operands)).run.run s).2.fields other =
      s.fields other := by
  cases action with
  | get name ignoreCase => exact fields_readAttribute _ name ignoreCase _ other
  | set name ignoreCase v => exact s.fields_setFields_of_ne h _
  | delete name ignoreCase =>
    simp only [effect, operands, run_deleteField]
    split
    · exact s.fields_setFields_of_ne h _
    · rfl

/-- **A member operation acts on the fields of its instance.** -/
theorem acts_effect (h : id < s.instances.size) :
    action.Acts (s.fields id)
      ((action.effect (.object (.classInstance id c) :: action.operands)).run.run s).1
      (((action.effect (.object (.classInstance id c) :: action.operands)).run.run s).2.fields
        id) := by
  cases action with
  | get name ignoreCase =>
    rcases (s.fields id).addresses_or_lacks name ignoreCase with
      ⟨front, key, v, back, haddr⟩ | hlacks
    · simp only [effect, operands, run_readAttribute _ haddr.get?]
      exact .read haddr
    · simp only [effect, operands, fields_readAttribute]
      exact .unread hlacks _
  | set name ignoreCase v =>
    show Acts _ _ (.ok v) ((s.setFields id ((s.fields id).set name ignoreCase v)).fields id)
    rw [s.fields_setFields h]
    rcases (s.fields id).addresses_or_lacks name ignoreCase with
      ⟨front, key, old, back, haddr⟩ | hlacks
    · rw [haddr.set v]
      exact .replaced haddr v
    · rw [hlacks.set v]
      exact .added hlacks v
  | delete name ignoreCase =>
    simp only [effect, operands, run_deleteField]
    rcases (s.fields id).addresses_or_lacks name ignoreCase with
      ⟨front, key, old, back, haddr⟩ | hlacks
    · simp only [haddr.remove?, s.fields_setFields h]
      exact .removed haddr
    · simp only [hlacks.remove?]
      exact .refused hlacks _

end FieldAction

/-! ## Stages -/

namespace Stage

/-- What the stage is asked to do to the fields of an instance. -/
def fieldAction? (stage : Stage) (id : Nat) : Option FieldAction :=
  match stage.asked? with
  | some (binder, args) =>
    match FieldAction.of? binder.operation args with
    | some (other, action) => if other = id then some action else none
    | none => none
  | none => none

/-- Where something is called, it is a member operation on an instance. -/
def OnFields (stage : Stage) : Prop :=
  stage.asked?.all (fun asked => (FieldAction.of? asked.1.operation asked.2).isSome) = true

instance (stage : Stage) : Decidable stage.OnFields := inferInstanceAs (Decidable (_ = _))

/-- The stage does to the fields of an instance what it is asked to do, and nothing if it is asked
for nothing. -/
def Acts (stage : Stage) (id : Nat) : Prop :=
  match stage.fieldAction? id with
  | some action =>
    action.Acts (stage.before.store.fields id) stage.answer (stage.after.store.fields id)
  | none => stage.after.store.fields id = stage.before.store.fields id

variable {stage : Stage} {id depth : Nat}

/-- A call does to the fields what it is asked to do.  A stage without a call does nothing to
them. -/
theorem Sound.acts (h : stage.Sound (depth + 2)) (hon : stage.OnFields)
    (hid : id < stage.before.store.instances.size) : stage.Acts id := by
  unfold Acts fieldAction?
  cases hasked : stage.asked? with
  | none => exact (h.unasked hasked stage.before.closed_true).fields id
  | some asked =>
    obtain ⟨binder, args⟩ := asked
    have hsome : (FieldAction.of? binder.operation args).isSome = true := by
      simpa [OnFields, hasked] using hon
    obtain ⟨⟨other, action⟩, hof⟩ := Option.isSome_iff_exists.1 hsome
    obtain ⟨c, hop, rfl⟩ := FieldAction.of?_eq_some hof
    obtain ⟨-, n, hstore, -, hanswer, hafter, -⟩ := h.asked hasked
    obtain ⟨operation, language⟩ := binder
    obtain rfl : operation = action.operation := hop
    rw [FieldAction.run_fresh] at hanswer hafter
    simp only [hof, hanswer, hafter]
    rw [← hstore] at hid ⊢
    by_cases hother : other = id
    · subst hother
      rw [if_pos rfl]
      exact FieldAction.acts_effect hid
    · rw [if_neg hother]
      exact FieldAction.fields_effect_of_ne hother

/-- Names only go, or one comes at the end. -/
theorem Acts.shifts (h : stage.Acts id) :
    (stage.after.store.fields id).Shifts (stage.before.store.fields id) := by
  unfold Acts at h
  split at h
  · exact FieldAction.Acts.shifts h
  · rw [h]
    exact .inl (.refl _)

/-- The stage writes fields of the instance without regard to case only. -/
def IgnoresCase (stage : Stage) (id : Nat) : Prop :=
  ∀ name ignoreCase v, stage.fieldAction? id = some (.set name ignoreCase v) → ignoreCase = true

/-- Names that differ in more than case go on doing so, if all writes disregard case. -/
theorem Acts.apart (h : stage.Acts id) (hset : stage.IgnoresCase id)
    (hbefore : (stage.before.store.fields id).Apart true) :
    (stage.after.store.fields id).Apart true := by
  unfold Acts at h
  split at h
  · next action haction =>
    refine FieldAction.Acts.apart h (fun name ignoreCase v hv _ => ?_) hbefore
    exact hset name ignoreCase v (hv ▸ haction)
  · rwa [h]

end Stage

/-- A read that follows a write of the same name and regard of case gives what was written. -/
def Stage.ReadsBack (id : Nat) (first second : Stage) : Prop :=
  ∀ name ignoreCase v, first.fieldAction? id = some (.set name ignoreCase v) →
    second.fieldAction? id = some (.get name ignoreCase) → second.answer = .ok v

/-- What one stage writes, the next one reads. -/
theorem Stage.readsBack {first second : Stage} {id : Nat} (h : first.Acts id)
    (h' : second.Acts id) (hnext : second.before = first.after) : first.ReadsBack id second := by
  intro name ignoreCase v hset hget
  unfold Acts at h h'
  rw [hset] at h
  rw [hget, hnext] at h'
  exact h.read_written h'

namespace Client

variable {client : Client} {m n : Machine} {id depth : Nat}

/-- Where only member operations on instances are called, every stage acts on the fields as it is
asked to, and their names stay different. -/
theorem stages_act (h : client.RecordFree) (htracks : m.Tracks n)
    (hon : ∀ stage ∈ client.stages (depth + 2) m, stage.OnFields)
    (hid : id < m.store.instances.size) (hapart : m.store.FieldsApart) :
    ∀ stage ∈ client.stages (depth + 2) m,
      stage.Acts id ∧ (stage.after.store.fields id).names.Nodup := by
  have hinvariant := (client.forall_stages h htracks hon
    (p := fun m => id < m.store.instances.size ∧ m.store.FieldsApart)
    (fun stage hsound _ hbefore =>
      ⟨Nat.lt_of_lt_of_le hbefore.1 hsound.leads.size_instances_le,
        hsound.leads.fieldsApart hbefore.2⟩)
    ⟨hid, hapart⟩).1
  intro stage hstage
  obtain ⟨hsound, hbefore, hafter⟩ := hinvariant stage hstage
  exact ⟨hsound.acts (hon stage hstage) hbefore.1, MemberTable.apart_false_iff.1 (hafter.2 id)⟩

/-- The fields of an instance after each stage and at the beginning, the last ones first. -/
def pastFields (client : Client) (depth : Nat) (m : Machine) (id : Nat) : List MemberTable :=
  ((client.stages depth m).map fun stage => stage.after.store.fields id).reverse ++
    [m.store.fields id]

/-- The members that an instance shows at the end stand from the oldest to the youngest. -/
theorem pairwise_older_members (hacts : ∀ stage ∈ client.stages depth m, stage.Acts id)
    (c : ClassRef) :
    ((client.run .kept depth m).2.store.memberNames (.object (.classInstance id c))).Pairwise
      (MemberTable.Older (m.store.fields id) (client.pastFields depth m id)) := by
  obtain ⟨older, htold, hchain⟩ := client.exists_past (fun s => s.fields id)
    (fun stage hstage => (hacts stage hstage).shifts) (.singleton (m.store.fields id))
  have hnames : (client.run .kept depth m).2.store.memberNames (.object (.classInstance id c)) =
      ((client.run .kept depth m).2.store.fields id).names := by
    simp [Store.memberNames, Store.memberEntries, MemberTable.names, MemberKey.name?,
      List.filterMap_map]
  rw [hnames, pastFields, htold]
  refine MemberTable.pairwise_older hchain ?_
  simp only [← htold, List.getLast_concat]

/-- Writing without regard to case keeps names apart that do not match without regard to case. -/
theorem stages_apart (h : client.RecordFree) (htracks : m.Tracks n)
    (hacts : ∀ stage ∈ client.stages depth m, stage.Acts id)
    (hset : ∀ stage ∈ client.stages depth m, stage.IgnoresCase id)
    (hapart : (m.store.fields id).Apart true) :
    ∀ stage ∈ client.stages depth m, (stage.after.store.fields id).Apart true := by
  have hinvariant := (client.forall_stages h htracks
    (q := fun stage => stage.Acts id ∧ stage.IgnoresCase id)
    (p := fun m => (m.store.fields id).Apart true)
    (fun stage hstage => ⟨hacts stage hstage, hset stage hstage⟩)
    (fun stage _ hq hbefore => hq.1.apart hq.2 hbefore) hapart).1
  exact fun stage hstage => (hinvariant stage hstage).2.2

/-- A user who makes an instance of a class without members. -/
def makingInstance : Client :=
  .ask (.openSite "new" ⟨.createInstance 0, default⟩ 4) fun _ =>
    .ask (.make (.newClass "C" [] [])) fun made =>
      match made with
      | .ok c => .ask (.call "new" [c]) fun _ => .done
      | .error _ => .done

/-- The user brings in no record. -/
theorem recordFree_makingInstance : makingInstance.RecordFree := by
  refine ⟨trivial, fun _ _ => ⟨rfl, fun made hmade => ?_⟩⟩
  cases made with
  | error stop => trivial
  | ok c => exact ⟨RecordFreeArgs.cons (hmade c rfl) RecordFreeArgs.nil, fun _ _ => trivial⟩

/-- The instance that is made. -/
def anInstance : Value := .object (.classInstance 0 ⟨0, "C", []⟩)

/-- A user who writes two fields, removes the first one by another spelling, and writes it again. -/
def renewing : Client :=
  inOrder
    [.openSite "write x" ⟨.setMember "x" false, default⟩ 4,
      .openSite "write Y" ⟨.setMember "Y" true, default⟩ 4,
      .openSite "remove X" ⟨.deleteMember "X" true, default⟩ 4,
      .openSite "read x" ⟨.getMember "x" false, default⟩ 4,
      .call "write x" [anInstance, .int 1], .call "write Y" [anInstance, .int 2],
      .call "remove X" [anInstance], .call "write x" [anInstance, .int 3],
      .call "read x" [anInstance]]

end Client

end DynamicBinding
