import SupplyGate.Ids
import SupplyGate.Proofs.Policy.Identity

/-!
# Ids that tell what they are

The text of a value that is no text begins with a digit, a sign, a bracket, a capital or one of the
letters of `nan` and `inf`. So a text that begins with another small letter is the text of no other
value: ids that the service gives out are of this kind, and tell what they are.
-/

namespace SupplyGate

/-- The characters begin with a digit or a minus sign. -/
def StartsNumber (cs : List Char) : Prop := ∃ c rest, cs = c :: rest ∧ (c.isDigit = true ∨ c = '-')

theorem StartsNumber.append {cs : List Char} (h : StartsNumber cs) (ds : List Char) :
    StartsNumber (cs ++ ds) := by
  obtain ⟨c, rest, rfl, hc⟩ := h
  exact ⟨c, rest ++ ds, rfl, hc⟩

theorem StartsNumber.minus (cs : List Char) : StartsNumber ('-' :: cs) := ⟨'-', cs, rfl, .inr rfl⟩

theorem StartsNumber.zero (cs : List Char) : StartsNumber ('0' :: cs) := ⟨'0', cs, rfl, .inl rfl⟩

theorem StartsNumber.take_succ {cs : List Char} (h : StartsNumber cs) (n : Nat) :
    StartsNumber (cs.take (n + 1)) := by
  obtain ⟨c, rest, rfl, hc⟩ := h
  exact ⟨c, rest.take n, rfl, hc⟩

theorem startsNumber_toDigits (n : Nat) : StartsNumber (Nat.toDigits 10 n) := by
  cases h : Nat.toDigits 10 n with
  | nil => exact absurd h Nat.toDigits_ne_nil
  | cons c rest =>
    have hc : c ∈ Nat.toDigits 10 n := by simp [h]
    exact ⟨c, rest, rfl, .inl (Nat.isDigit_of_mem_toDigits (by decide) (by decide) hc)⟩

theorem startsNumber_padded (width n : Nat) : StartsNumber (Timestamp.padded width n) := by
  unfold Timestamp.padded
  dsimp only
  cases width - (Nat.toDigits 10 n).length with
  | zero => exact startsNumber_toDigits n
  | succ k => exact .zero _

theorem startsNumber_formatDate (d : Date) : StartsNumber (Timestamp.formatDate d) := by
  unfold Timestamp.formatDate
  simp only [List.append_assoc]
  exact (startsNumber_padded 4 d.year).append _

theorem startsNumber_positional {digits : List Char} (h : StartsNumber digits) (pointAlways : Bool)
    (exponent : Int) : StartsNumber (Number.positional pointAlways digits exponent) := by
  unfold Number.positional
  dsimp only
  split
  · exact .zero _
  · next hpoint =>
    split
    · rw [List.append_assoc]
      exact h.append _
    · obtain ⟨k, hk⟩ : ∃ k, ((digits.length : Int) + exponent).toNat = k + 1 :=
        ⟨((digits.length : Int) + exponent).toNat - 1, by omega⟩
      rw [hk]
      exact (h.take_succ k).append _

theorem startsNumber_scientific {digits : List Char} (h : StartsNumber digits) (exponent : Int) :
    StartsNumber (Number.scientific digits exponent) := by
  obtain ⟨c, rest, rfl, hc⟩ := h
  unfold Number.scientific
  cases rest with
  | nil => exact ⟨c, _, rfl, hc⟩
  | cons d rest => exact ⟨c, _, rfl, hc⟩

theorem startsNumber_write (layout : Number.Layout) (d : Number.Decimal) :
    StartsNumber (d.write layout).toList := by
  unfold Number.Decimal.write
  dsimp only
  rw [String.toList_ofList]
  split
  · exact .minus _
  · split
    · exact startsNumber_positional (.zero []) _ _
    · split
      · exact startsNumber_positional (startsNumber_toDigits _) _ _
      · exact startsNumber_scientific (startsNumber_toDigits _) _

/-- The text begins with a small letter, neither of `inf` nor of `nan`. -/
def PlainText (s : String) : Prop :=
  ∃ c rest, s.toList = c :: rest ∧ c.isLower = true ∧ c ≠ 'i' ∧ c ≠ 'n'

theorem StartsNumber.not_plainText {s : String} (h : StartsNumber s.toList) : ¬ PlainText s := by
  rintro ⟨c, rest, hs, hlower, -, -⟩
  obtain ⟨c', rest', hs', hc⟩ := h
  obtain ⟨rfl, -⟩ : c = c' ∧ rest = rest' := by simpa [hs] using hs'
  rcases hc with hdigit | rfl
  · have h₉ : c.val ≤ '9'.val := of_decide_eq_true (Bool.and_eq_true_iff.mp hdigit).2
    have ha : 'a'.val ≤ c.val := of_decide_eq_true (Bool.and_eq_true_iff.mp hlower).1
    exact absurd (UInt32.le_trans ha h₉) (by decide)
  · cases hlower

theorem not_plainText_of_head {s : String} (c : Char) (h : s.toList.head? = some c)
    (hc : c.isLower = false ∨ c = 'i' ∨ c = 'n') : ¬ PlainText s := by
  rintro ⟨c', rest', hs, hlower, hi, hn⟩
  obtain rfl : c' = c := by simpa [hs] using h
  rcases hc with hc | rfl | rfl
  · rw [hc] at hlower
    cases hlower
  · exact hi rfl
  · exact hn rfl

/-! ## Texts of values -/

theorem not_plainText_float (x : Float) : ¬ PlainText (Number.floatText x) := by
  unfold Number.floatText
  split
  · exact not_plainText_of_head 'n' rfl (.inr (.inr rfl))
  · split
    · exact not_plainText_of_head '-' rfl (.inl rfl)
    · exact not_plainText_of_head 'i' rfl (.inr (.inl rfl))
  · exact (startsNumber_write _ _).not_plainText

theorem startsNumber_int (n : Int) : StartsNumber (toString n).toList := by
  cases n with
  | ofNat n =>
    change StartsNumber (Nat.repr n).toList
    rw [Nat.toList_repr]
    exact startsNumber_toDigits n
  | negSucc n =>
    change StartsNumber ("-" ++ Nat.repr (n + 1)).toList
    rw [String.toList_append]
    exact .minus _

theorem not_plainText_int (n : Int) : ¬ PlainText (toString n) := (startsNumber_int n).not_plainText

/-- Only a text has a plain text. -/
theorem eq_str_of_plainText {v : Value} (h : PlainText v.rendered) : v = .str v.rendered := by
  cases v with
  | list items =>
    exact absurd h (not_plainText_of_head '[' (by simp [Value.rendered, Value.quoted]) (.inl rfl))
  | map entries =>
    exact absurd h (not_plainText_of_head '\x7b' (by simp [Value.rendered, Value.quoted]) (.inl rfl))
  | scalar s =>
    cases s with
    | str s => rfl
    | null => exact absurd h (not_plainText_of_head 'N' rfl (.inl rfl))
    | bool b =>
      cases b with
      | false => exact absurd h (not_plainText_of_head 'F' rfl (.inl rfl))
      | true => exact absurd h (not_plainText_of_head 'T' rfl (.inl rfl))
    | int n => exact absurd h (not_plainText_int n)
    | float x => exact absurd h (not_plainText_float x)
    | time t =>
      refine absurd h (StartsNumber.not_plainText ?_)
      simp only [Value.rendered, String.toList_ofList, Timestamp.formatWith, List.append_assoc]
      exact (startsNumber_formatDate t.date).append _
    | date d =>
      refine absurd h (StartsNumber.not_plainText ?_)
      simp only [Value.rendered, Date.format, String.toList_ofList]
      exact startsNumber_formatDate d

namespace Identity

/-- A plain text without a bar tells what it is. -/
theorem tells_of_plainText {s : String} (hbar : '|' ∉ s.toList) (h : PlainText s) : Tells (.str s) := by
  refine ⟨hbar, fun w _ hw => ?_⟩
  rw [Value.rendered_str] at hw
  have hwv := eq_str_of_plainText (hw ▸ h)
  rwa [hw] at hwv

theorem bar_not_mem_toDigits (n : Nat) : '|' ∉ Nat.toDigits 16 n := by
  have hdigit : ∀ d < 16, '|' ≠ d.digitChar := by decide
  induction n using Nat.strongRecOn with
  | ind n ih =>
    rw [Nat.toDigits_eq_if (by decide)]
    split
    · next h => exact fun hmem => hdigit n h (List.mem_singleton.mp hmem)
    · next h =>
      intro hmem
      rcases List.mem_append.mp hmem with hmem | hmem
      · exact ih (n / 16) (by omega) hmem
      · exact hdigit (n % 16) (by omega) (List.mem_singleton.mp hmem)

/-- An id that was given out tells what it is. -/
theorem tells_textOf (kind : IdKind) (n : Nat) : Tells (.str (Ids.textOf kind n)) := by
  have htext : (Ids.textOf kind n).toList = kind.label.toList ++ '_' :: Ids.digits n := by
    simp [Ids.textOf]
  refine tells_of_plainText ?_ ?_
  · have hlabel : '|' ∉ kind.label.toList := by cases kind <;> decide
    have hdigits : '|' ∉ Ids.digits n := by simp [Ids.digits, bar_not_mem_toDigits]
    simp [htext, hlabel, hdigits]
  · unfold PlainText
    rw [htext]
    cases kind <;> exact ⟨_, _, rfl, by decide, by decide, by decide⟩

/-- Findings of a tenant with a plain id, for policies and rules with ids that were given out, on a
dependency without bars, are clear. -/
theorem clear_of_given {tenantId : String} (hbar : '|' ∉ tenantId.toList) (h : PlainText tenantId)
    (i j : Nat) {dependency : String} (hd : '|' ∉ dependency.toList) :
    Clear ⟨.str tenantId, .str (Ids.textOf .policy i), .str (Ids.textOf .rule j), dependency⟩ where
  tenantId := tells_of_plainText hbar h
  policyId := tells_textOf .policy i
  ruleId := tells_textOf .rule j
  dependency a b hab := by
    rw [hab] at hd
    simp at hd

end Identity
end SupplyGate
