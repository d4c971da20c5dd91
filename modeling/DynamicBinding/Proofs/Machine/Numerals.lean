import DynamicBinding.Proofs.Machine.Implicit
import DynamicBinding.Proofs.Script.Numerals
/-!
# Reading whole numbers

A text is converted to an int if it is a numeral, and an int is converted to the text that is a
numeral of it, through any site with any history.

* `Machine.Sound.comesTo_format`: what the explicit conversion to a text gives.
* `Machine.Sound.numerals_read`: what is read, what is refused, and that reading inverts writing.
-/

namespace DynamicBinding

open Exec Script

variable {m : Machine} {l : Language} {site : Option Nat} {text : Text} {i : Int64}

namespace Machine.Sound

/-- A text is read by the reader of numerals. -/
theorem computes_read (hm : m.Sound) (text : Text) {result : Except RuntimeError Value}
    (hrun : (Conversion.parseInt.run (.str text)).run.run m.store =
      (result.mapError .error, m.store)) :
    m.Computes (.convert .int true) [.str text] result :=
  hm.answers (decides_convert rfl nofun rfl rfl) (.cons rfl .nil) (fun _ => rfl) hrun

/-- What a text writes is read, if it is in range. -/
theorem computes_read_of_writes (hm : m.Sound) (h : Text.Writes text.chars i.toInt) :
    m.Computes (.convert .int true) [.str text] (.ok (.int i)) := by
  apply hm.computes_read
  simp only [Conversion.run, parseWord?_trim_eq_some_iff.2 h]
  rfl

theorem computes_read_of_not_writes (hm : m.Sound)
    (h : ¬ ∃ n, Text.Writes text.chars n ∧ InRange n) :
    m.Computes (.convert .int true) [.str text]
      (.error (.invalidValue ("invalid literal for int: '" ++ text.chars ++ "'"))) := by
  apply hm.computes_read
  simp only [Conversion.run, parseWord?_trim_eq_none_iff.2 h]
  rfl

/-- The explicit conversion of an int to a text makes a new text, the decimal numeral of the int. -/
theorem comesTo_format (hm : m.Sound) (hl : l.kind = .script)
    (hsite : m.Admits site ⟨.convert .str true, l⟩) (i : Int64) :
    (Task.invoke ⟨.convert .str true, l⟩ site [.int i]).ComesTo .kept m
      (.ok (.str ⟨m.store.texts, toString i.toInt⟩)) (m.store.makeStr (toString i.toInt)).2 := by
  have hplan : (Binder.resolve ⟨.convert .str true, l⟩ [.int i]).plan = .format l :=
    plan_resolve (.inl hl) rfl (Value.declines_of_isObject rfl _ _)
  have hformat : ∀ s : Store, l.format s (.int i) = some (toString i.toInt) := by
    intro s
    simp only [Language.format, hl, Store.display, Store.displayWithin]
  refine hm.comesTo_of_execute (.ok (.str ⟨m.store.texts, toString i.toInt⟩))
    (Operation.accepts_convert .str true (.int i)) hsite (.cons rfl .nil) fun p n hn => ?_
  rw [hplan, ← hn]
  show (Exec.require (l.format n.store (.int i)) >>= fun text =>
    Exec.onStore (Effect.str text)).run.run n = _
  rw [hformat]
  rfl

/-- **Whole numbers are read from their numerals.**

* The explicit conversion of a text to an int gives a number just if the text is a numeral of the
  number, with blanks around it or none, and the number is in range.  It refuses every other text.
* The explicit conversion of an int to a text gives its decimal numeral.  On the machine that it
  leaves, the conversion back gives the int. -/
theorem numerals_read (hm : m.Sound) :
    (∀ text : Text,
      (∀ n : Int, (∃ i : Int64, i.toInt = n ∧
          m.Computes (.convert .int true) [.str text] (.ok (.int i))) ↔
        Text.Writes text.chars n ∧ InRange n) ∧
      ((¬ ∃ n, Text.Writes text.chars n ∧ InRange n) →
        m.Computes (.convert .int true) [.str text]
          (.error (.invalidValue ("invalid literal for int: '" ++ text.chars ++ "'"))))) ∧
    ∀ (i : Int64) (l : Language) (site : Option Nat), l.kind = .script →
      m.Admits site ⟨.convert .str true, l⟩ →
        (∃ v s, (Task.invoke ⟨.convert .str true, l⟩ site [.int i]).ComesTo .kept m (.ok v) s ∧
          v.asStr? = some (toString i.toInt)) ∧
        ∀ depth v n, (run .kept depth (.invoke ⟨.convert .str true, l⟩ site [.int i])).run.run m =
          (.ok v, n) → n.Computes (.convert .int true) [v] (.ok (.int i)) := by
  refine ⟨fun text => ⟨fun n => ⟨?_, ?_⟩, hm.computes_read_of_not_writes⟩,
    fun i l site hl hsite => ⟨?_, fun depth v n hrun => ?_⟩⟩
  · rintro ⟨i, rfl, hcomputes⟩
    -- a text that writes no number in range is refused, so this one writes some number
    by_cases hwrites : ∃ n, Text.Writes text.chars n ∧ InRange n
    · obtain ⟨n, hwrites, hrange⟩ := hwrites
      obtain ⟨j, rfl⟩ := hrange.exists_word
      cases hcomputes.unique (hm.computes_read_of_writes hwrites)
      exact ⟨hwrites, hrange⟩
    · cases hcomputes.unique (hm.computes_read_of_not_writes hwrites)
  · rintro ⟨hwrites, hrange⟩
    obtain ⟨i, rfl⟩ := hrange.exists_word
    exact ⟨i, rfl, hm.computes_read_of_writes hwrites⟩
  · exact ⟨_, _, hm.comesTo_format hl hsite i, rfl⟩
  · have hcomes : (Task.invoke ⟨.convert .str true, l⟩ site [.int i]).ComesTo .kept m (.ok v)
        n.store := ⟨nofun, depth, congrArg Prod.fst hrun, by rw [hrun]⟩
    cases (hcomes.unique (hm.comesTo_format hl hsite i)).1
    have hn := hm.run_invoke hsite (.cons rfl .nil : RecordFreeArgs [.int i]) depth
    rw [hrun] at hn
    exact hn.computes_read_of_writes (Text.writes_toString i.toInt)

/-- The lowest int is read from between two blanks, only one of which is in ASCII, and it is read
back from its own text.  Its opposite is out of range. -/
theorem numerals_read_lowest :
    let m : Machine := { main := default }
    let lowest := Int64.minValue
    m.Computes (.convert .int true) [.str ⟨0, "\u00a0-9223372036854775808\n"⟩] (.ok (.int lowest)) ∧
      m.Computes (.convert .int true) [.str ⟨0, "9223372036854775808"⟩]
        (.error (.invalidValue "invalid literal for int: '9223372036854775808'")) ∧
      ∃ n, (run .kept 2 (.invoke ⟨.convert .str true, default⟩ none [.int lowest])).run.run m =
          (.ok (.str ⟨0, "-9223372036854775808"⟩), n) ∧
        n.Computes (.convert .int true) [.str ⟨0, "-9223372036854775808"⟩] (.ok (.int lowest)) := by
  intro m lowest
  obtain ⟨htexts, hints⟩ := numerals_read (.new default : m.Sound)
  have hdigits : AreDigits "9223372036854775808".toList := areDigits_iff.2 (by decide)
  have hlowest : -(decimal "9223372036854775808".toList : Int) = lowest.toInt := by decide
  have hwrites : Text.Writes "\u00a0-9223372036854775808\n" lowest.toInt :=
    ⟨['\u00a0'], '-' :: "9223372036854775808".toList, ['\n'], by decide,
      List.forall_mem_singleton.2 (by decide), List.forall_mem_singleton.2 (by decide),
      hlowest ▸ .minus hdigits⟩
  refine ⟨?_, (htexts ⟨0, _⟩).2 ?_, ?_⟩
  · obtain ⟨i, hi, hcomputes⟩ := ((htexts ⟨0, _⟩).1 _).2 ⟨hwrites, inRange_toInt lowest⟩
    exact Int64.toInt_inj.1 hi ▸ hcomputes
  · exact parseWord?_trim_eq_none_iff.1 (by decide)
  · exact ⟨_, rfl, (hints lowest default none rfl (m.admits_none _)).2 2 _ _ rfl⟩

end Machine.Sound

end DynamicBinding
