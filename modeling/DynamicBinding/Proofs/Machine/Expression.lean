import DynamicBinding.Proofs.Machine.Agreement
/-!
# Literals and expressions on machines that agree

Making the value of a literal touches the store only, and the evaluation of an expression leaves
everything else to the given way of performing operations.  So both agree if that way does.
-/

namespace DynamicBinding

open Exec

theorem Exec.variable_agree {m₁ m₂ : Machine} (htracks : m₁.Tracks m₂) (name : String) :
    Agree Value.RecordFree m₁ m₂ (Exec.variable name) (Exec.variable name) := by
  apply Agree.get
  rw [htracks.globals_eq]
  split
  · next v hv => exact .pure htracks (htracks.globals hv)
  · exact .fail htracks _

/-! ## Literals -/

theorem Literal.of_methodsRecordFree {methods : List (String × Option Nat × Expr)}
    (h : methodsRecordFree methods = true) : ∀ m ∈ methods, m.2.2.recordFree = true := by
  induction methods with
  | nil => exact fun m hm => (nomatch hm)
  | cons m rest ih =>
    simp only [methodsRecordFree, Bool.and_eq_true] at h
    exact List.forall_mem_cons.2 ⟨h.1, ih h.2⟩

/-- Wrapping a value in sequences any number of times. -/
theorem keeps_nest {v : Value} (hv : v.RecordFree) (inLists : Bool) (depth : Nat) :
    Effect.Keeps Value.RecordFree
      (depth.fold (fun _ _ made =>
        made >>= fun w => if inLists then Effect.list [w] else Effect.tuple [w]) (pure v)) := by
  have hwrap : ∀ w : Value, w.RecordFree →
      Effect.Keeps Value.RecordFree (if inLists then Effect.list [w] else Effect.tuple [w]) := by
    intro w hw
    have hsingle := RecordFreeArgs.cons hw RecordFreeArgs.nil
    split
    · exact .list hsingle
    · exact .tuple hsingle
  induction depth with
  | zero => exact .pure hv
  | succ depth ih =>
    rw [Nat.fold_succ]
    exact .bind ih hwrap

/-- A new function. -/
theorem keeps_function {e : Expr} (he : e.recordFree = true) (name : String)
    (arity : Option Nat) (signature : Option Signature) :
    Effect.Keeps (fun _ => True)
      (modifyGet (·.makeFunction name arity signature (.expression e))) :=
  .modifyGet fun _ hs => ⟨trivial, hs.makeFunction name arity signature he⟩

/-- A new class. -/
theorem keeps_class {members : MemberTable} (hmembers : members.RecordFree) (name : String) :
    Effect.Keeps (fun _ => True) (modifyGet (·.makeClass name members)) :=
  .modifyGet fun _ hs => ⟨trivial, hs.makeClass name hmembers⟩

mutual

/-- The value of a literal is made alike. -/
theorem Literal.make_agree {m₁ m₂ : Machine} (htracks : m₁.Tracks m₂) (l : Literal)
    (h : l.recordFree = true) : Agree Value.RecordFree m₁ m₂ l.make l.make := by
  match l with
  | .nothing => exact .pure htracks rfl
  | .bool _ => exact .pure htracks rfl
  | .int _ => exact .pure htracks rfl
  | .float _ => exact .pure htracks rfl
  | .str _ => exact .onStore htracks (.str _)
  | .tuple items =>
    apply Agree.bind (Literal.makeAll_agree htracks items h)
    intro vs n₁ n₂ hvs hn
    exact .onStore hn (.tuple hvs)
  | .list items =>
    apply Agree.bind (Literal.makeAll_agree htracks items h)
    intro vs n₁ n₂ hvs hn
    exact .onStore hn (.list hvs)
  | .variable name => exact variable_agree htracks name
  | .nest inLists depth inner =>
    apply Agree.bind (Literal.make_agree htracks inner h)
    intro v n₁ n₂ hv hn
    exact .onStore hn (keeps_nest hv inLists depth)
  | .times _ _ => exact .onStore htracks (.str _)
  | .function name arity signature body =>
    exact .onStore htracks (.bind (keeps_function h name arity signature) fun f _ => .pure rfl)
  | .newClass name methods attributes =>
    simp only [Literal.recordFree, Bool.and_eq_true] at h
    have hmethods : Agree (fun fs => ∀ f ∈ fs, f.2.RecordFree) m₁ m₂
        (methods.mapM fun (method, arity, body) => do
          let f ← Exec.onStore (modifyGet (·.makeFunction method arity none (.expression body)))
          pure (method, Value.function f))
        (methods.mapM fun (method, arity, body) => do
          let f ← Exec.onStore (modifyGet (·.makeFunction method arity none (.expression body)))
          pure (method, Value.function f)) := by
      apply Agree.mapM _ htracks
      intro m hm n₁ n₂ hn
      have hbody := Literal.of_methodsRecordFree h.1 m hm
      apply Agree.bind (.onStore hn (keeps_function hbody m.1 m.2.1 none))
      intro f o₁ o₂ _ ho
      exact .pure ho rfl
    apply Agree.bind hmethods
    intro functions n₁ n₂ hfunctions hn
    apply Agree.bind (Literal.makeNamed_agree hn attributes h.2)
    intro values o₁ o₂ hvalues ho
    have htable : (MemberTable.ofEntries (functions ++ values)).RecordFree := by
      apply MemberTable.RecordFree.ofEntries
      intro entry hentry
      rcases List.mem_append.1 hentry with hentry | hentry
      · exact hfunctions entry hentry
      · exact hvalues entry hentry
    exact .bind (.onStore ho (keeps_class htable name)) fun c p₁ p₂ _ hp => .pure hp rfl
  | .record .. => simp [Literal.recordFree] at h
  | .inert typeName =>
    exact .onStore htracks (.modifyGet fun s hs => ⟨rfl, hs.makeInert typeName⟩)

/-- The values of literals are made alike. -/
theorem Literal.makeAll_agree {m₁ m₂ : Machine} (htracks : m₁.Tracks m₂) (ls : List Literal)
    (h : Literal.allRecordFree ls = true) :
    Agree RecordFreeArgs m₁ m₂ (Literal.makeAll ls) (Literal.makeAll ls) := by
  match ls with
  | [] => exact .pure htracks RecordFreeArgs.nil
  | l :: rest =>
    simp only [Literal.allRecordFree, Bool.and_eq_true] at h
    apply Agree.bind (Literal.make_agree htracks l h.1)
    intro v n₁ n₂ hv hn
    apply Agree.bind (Literal.makeAll_agree hn rest h.2)
    intro vs o₁ o₂ hvs ho
    exact .pure ho (RecordFreeArgs.cons hv hvs)

/-- The named values of literals are made alike. -/
theorem Literal.makeNamed_agree {m₁ m₂ : Machine} (htracks : m₁.Tracks m₂)
    (ls : List (String × Literal)) (h : Literal.namedRecordFree ls = true) :
    Agree (fun vs => ∀ v ∈ vs, v.2.RecordFree) m₁ m₂ (Literal.makeNamed ls)
      (Literal.makeNamed ls) := by
  match ls with
  | [] => exact .pure htracks fun v hv => (nomatch hv)
  | (name, l) :: rest =>
    simp only [Literal.namedRecordFree, Bool.and_eq_true] at h
    apply Agree.bind (Literal.make_agree htracks l h.1)
    intro v n₁ n₂ hv hn
    apply Agree.bind (Literal.makeNamed_agree hn rest h.2)
    intro vs o₁ o₂ hvs ho
    exact .pure ho (List.forall_mem_cons.2 ⟨hv, hvs⟩)

end

/-! ## Expressions -/

/-- The two ways of performing operations agree, if the site that the first one is given is one of
the binder.  The second one may be given any site. -/
def Invoke.Agree (i₁ i₂ : Invoke) : Prop :=
  ∀ {m₁ m₂ : Machine} {binder : Binder} {site₁ : Option Nat} (site₂ : Option Nat)
    {args : List Value}, m₁.Tracks m₂ → (∀ id, site₁ = some id → m₁.Hosts id binder) →
      RecordFreeArgs args →
        Exec.Agree Value.RecordFree m₁ m₂ (i₁ binder site₁ args) (i₂ binder site₂ args)

variable {i₁ i₂ : Invoke} {args : List Value}

mutual

/-- An expression is evaluated alike. -/
theorem Expr.eval_agree (hinvoke : i₁.Agree i₂) (hargs : RecordFreeArgs args) {m₁ m₂ : Machine}
    (htracks : m₁.Tracks m₂) (e : Expr) (h : e.recordFree = true) :
    Exec.Agree Value.RecordFree m₁ m₂ (e.eval i₁ args) (e.eval i₂ args) := by
  match e with
  | .arg i =>
    unfold Expr.eval
    split
    · next v hv => exact .pure htracks (hargs v (List.mem_of_getElem? hv))
    · exact .fail htracks _
  | .args => exact .onStore htracks (.tuple hargs)
  | .const literal => exact Literal.make_agree htracks literal h
  | .variable name => exact variable_agree htracks name
  | .operate operation operands =>
    apply Agree.bind (Expr.evalAll_agree hinvoke hargs htracks operands h)
    intro vs n₁ n₂ hvs hn
    apply Agree.get
    rw [hn.main_eq]
    exact hinvoke none hn nofun hvs
  | .atSite name operands =>
    apply Agree.bind (Expr.evalAll_agree hinvoke hargs htracks operands h)
    intro vs n₁ n₂ hvs hn
    apply Agree.get
    rcases hn.named name with ⟨hnone₁, hnone₂⟩ | ⟨id₁, id₂, binder, hid₁, hosts₁, hid₂, hosts₂⟩
    · rw [hnone₁, hnone₂]
      exact .fail hn _
    · rw [hid₁, hid₂]
      simp only [hosts₁.site_eq.2, hosts₂.site_eq.2]
      exact hinvoke (some id₂) hn (fun id hid => Option.some.inj hid ▸ hosts₁) hvs
  | .sequence parts =>
    apply Agree.bind (Expr.evalAll_agree hinvoke hargs htracks parts h)
    intro vs n₁ n₂ hvs hn
    exact .pure hn (RecordFreeArgs.getD fun v hv => hvs v (List.mem_of_getLast? hv))
  | .choose condition yes no =>
    simp only [Expr.recordFree, Bool.and_eq_true] at h
    apply Agree.bind (Expr.eval_agree hinvoke hargs htracks condition h.1.1)
    intro v n₁ n₂ _ hn
    apply Agree.get
    rw [hn.store_eq]
    split
    · exact Expr.eval_agree hinvoke hargs hn yes h.1.2
    · exact Expr.eval_agree hinvoke hargs hn no h.2
  | .raise _ => exact .fail htracks _
  | .invalid _ => exact .fail htracks _

/-- Expressions are evaluated alike. -/
theorem Expr.evalAll_agree (hinvoke : i₁.Agree i₂) (hargs : RecordFreeArgs args)
    {m₁ m₂ : Machine} (htracks : m₁.Tracks m₂) (es : List Expr)
    (h : Expr.allRecordFree es = true) :
    Exec.Agree RecordFreeArgs m₁ m₂ (Expr.evalAll i₁ args es) (Expr.evalAll i₂ args es) := by
  match es with
  | [] => exact .pure htracks RecordFreeArgs.nil
  | e :: rest =>
    simp only [Expr.allRecordFree, Bool.and_eq_true] at h
    apply Agree.bind (Expr.eval_agree hinvoke hargs htracks e h.1)
    intro v n₁ n₂ hv hn
    apply Agree.bind (Expr.evalAll_agree hinvoke hargs hn rest h.2)
    intro vs o₁ o₂ hvs ho
    exact .pure ho (RecordFreeArgs.cons hv hvs)

end

end DynamicBinding
