import SupplyGate.Policy.Finding
import SupplyGate.Proofs.Value.Reading

/-!
# Identities of findings

A finding is of a tenant, a policy, a rule and a dependency. A store finds it again by one text, in
which the four stand with bars between them. Where none of the first three has a bar of its own, and
the dependency has none before its version, the text tells the four texts apart; where one has, the
bars can be read in another way, as of another finding (`unshared_iff`).
-/

namespace SupplyGate

/-- What a finding is of. -/
@[ext] structure Identity where
  tenantId : Value
  policyId : Value
  ruleId : Value
  dependency : String

/-- What a rule of a policy finds about a dependency. -/
def Identity.of (pr : Policy × Rule) (d : Dependency) : Identity :=
  ⟨pr.1.tenantId, pr.1.id, pr.2.id, d.ident⟩

/-- The text by which a finding is found again. -/
def Identity.key (q : Identity) : String :=
  Violation.keyOf q.tenantId q.policyId q.ruleId q.dependency

/-- What the text of a finding of a rule is made of. -/
def Finding.parts (p : Policy) (r : Rule) (d : Dependency) : List Value := [p.tenantId, p.id, r.id, d.name]

/-- All that conditions can ask about a dependency is known just when the days since its last update can be counted
and its name can be written. -/
theorem EvaluationData.of_ok_iff {d : Dependency} {c : EvaluationContext} {now : Timestamp} :
    (∃ data, of d c now = .ok data) ↔ (∃ days, d.daysSinceUpdate now = .ok days) ∧ d.name.isWritable = true := by
  have hidentify : discard d.identify = .ok () ↔ d.name.isWritable = true := by
    rw [Reading.discard_eq_ok]
    simp only [Dependency.identify, Reading.bind_eq_ok, Value.checkWritable_eq_ok, Reading.pure_eq_ok, exists_const,
      exists_and_left, exists_eq', and_true]
  simp only [of, Reading.bind_eq_ok, hidentify, Reading.pure_eq_ok, exists_const]
  constructor
  · rintro ⟨_, days, hdays, hname, -⟩
    exact ⟨⟨days, hdays⟩, hname⟩
  · rintro ⟨⟨days, hdays⟩, hname⟩
    exact ⟨_, days, hdays, hname, rfl⟩

/-- What a violation is of. -/
def Violation.identity (v : Violation) : Identity :=
  ⟨v.tenantId, v.policyId, v.ruleId, v.dependency.ident⟩

theorem Violation.key_eq (v : Violation) : v.key = v.identity.key := rfl

theorem Finding.identity_seenAgain (now : Timestamp) (found stored : Violation) :
    (seenAgain now found stored).identity = stored.identity := by
  unfold seenAgain
  split <;> rfl

theorem Finding.id_seenAgain (now : Timestamp) (found stored : Violation) :
    (seenAgain now found stored).id = stored.id := by
  unfold seenAgain
  split <;> rfl

theorem Finding.key_seenAgain (now : Timestamp) (found stored : Violation) :
    (seenAgain now found stored).key = stored.key := by
  rw [Violation.key_eq, identity_seenAgain, ← Violation.key_eq]

namespace Identity

theorem toList_key (q : Identity) :
    q.key.toList = q.tenantId.rendered.toList ++ '|' ::
      (q.policyId.rendered.toList ++ '|' :: (q.ruleId.rendered.toList ++ '|' :: q.dependency.toList)) := by
  simp [key, Violation.keyOf, String.intercalate_cons_cons]

/-- The ids of the finding can be written. -/
def Written (q : Identity) : Prop := ∀ id ∈ [q.tenantId, q.policyId, q.ruleId], id.isWritable = true

theorem Written.of_parts {v : Violation} (h : ∀ part ∈ v.keyParts, part.isWritable = true) : v.identity.Written :=
  fun id hid => h id (List.mem_append_left [v.dependency.name] hid)

/-- No other finding on any dependency that can be written is found by the same text. -/
def Unshared (q : Identity) : Prop :=
  ∀ tenantId policyId ruleId (d : Dependency),
    (Identity.mk tenantId policyId ruleId d.ident).Written →
    (Identity.mk tenantId policyId ruleId d.ident).key = q.key →
    Identity.mk tenantId policyId ruleId d.ident = q

theorem Unshared.eq_of {q : Identity} (h : q.Unshared) {pr : Policy × Rule} {d : Dependency}
    (hw : (Identity.of pr d).Written) (hk : (Identity.of pr d).key = q.key) : Identity.of pr d = q :=
  h _ _ _ d hw hk

theorem Unshared.eq_identity {q : Identity} (h : q.Unshared) {v : Violation} (hw : v.identity.Written)
    (hk : v.key = q.key) : v.identity = q :=
  h _ _ _ v.dependency hw hk

/-! ## Bars -/

/-- How many of the bars in a text come before an `@`. -/
def barsBeforeVersion : List Char → Nat
  | [] => 0
  | c :: rest => (if c = '|' ∧ '@' ∈ rest then 1 else 0) + barsBeforeVersion rest

theorem barsBeforeVersion_append {a b : List Char} (h : '@' ∈ b) :
    barsBeforeVersion (a ++ b) = a.count '|' + barsBeforeVersion b := by
  induction a with
  | nil => simp
  | cons c a ih =>
    have hmem : '@' ∈ a ++ b := List.mem_append_right a h
    by_cases hc : c = '|'
    · simp [barsBeforeVersion, ih, hmem, hc]
      omega
    · simp [barsBeforeVersion, ih, hc]

theorem barsBeforeVersion_bar {a b : List Char} (h : '@' ∈ b) :
    barsBeforeVersion (a ++ '|' :: b) = a.count '|' + 1 + barsBeforeVersion b := by
  rw [barsBeforeVersion_append (List.mem_cons_of_mem _ h)]
  simp [barsBeforeVersion, h]
  omega

theorem barsBeforeVersion_eq_zero {l : List Char} (h : ∀ a b, l = a ++ '|' :: b → '@' ∉ b) :
    barsBeforeVersion l = 0 := by
  induction l with
  | nil => rfl
  | cons c l ih =>
    have hc : ¬ (c = '|' ∧ '@' ∈ l) := by
      rintro ⟨rfl, hat⟩
      exact h [] l rfl hat
    rw [barsBeforeVersion, if_neg hc, ih fun a b hab => h (c :: a) b (by rw [hab, List.cons_append])]

theorem mem_ident (d : Dependency) : '@' ∈ d.ident.toList := by simp [Dependency.ident]

/-- A text with an `@` is that of some dependency. -/
theorem exists_ident {l : List Char} (h : '@' ∈ l) (d : Dependency) :
    ∃ d' : Dependency, d'.ident = String.ofList l := by
  obtain ⟨name, version, rfl⟩ := List.append_of_mem h
  refine ⟨{ d with name := .str (.ofList name), version := .ofList version }, ?_⟩
  apply String.toList_injective
  simp [Dependency.ident]

/-- The first of two texts with a bar between them is the same if it has no bar of its own. -/
theorem append_bar_inj {a a' b b' : List Char} (ha : '|' ∉ a) (ha' : '|' ∉ a')
    (h : a ++ '|' :: b = a' ++ '|' :: b') : a = a' ∧ b = b' := by
  rcases List.append_eq_append_iff.mp h with ⟨_ | ⟨c, cs⟩, rfl, hcs⟩ | ⟨_ | ⟨c, cs⟩, rfl, hcs⟩
  · simpa using hcs
  · obtain ⟨rfl, -⟩ : '|' = c ∧ b = cs ++ '|' :: b' := by simpa using hcs
    simp at ha'
  · simpa [eq_comm] using hcs
  · obtain ⟨rfl, -⟩ : '|' = c ∧ b' = cs ++ '|' :: b := by simpa using hcs
    simp at ha

/-! ## Texts that tell findings apart -/

/-- The text of a value has no bar, and no other value that can be written has it. -/
def Tells (v : Value) : Prop :=
  '|' ∉ v.rendered.toList ∧ ∀ w : Value, w.isWritable = true → w.rendered = v.rendered → w = v

/-- Each id tells what it is by its text, and no bar of the dependency comes before its version. -/
structure Clear (q : Identity) : Prop where
  tenantId : Tells q.tenantId
  policyId : Tells q.policyId
  ruleId : Tells q.ruleId
  dependency : ∀ a b, q.dependency.toList = a ++ '|' :: b → '@' ∉ b

theorem barsBeforeVersion_key {q : Identity} (h : '@' ∈ q.dependency.toList) :
    barsBeforeVersion q.key.toList =
      q.tenantId.rendered.toList.count '|' + q.policyId.rendered.toList.count '|' +
        q.ruleId.rendered.toList.count '|' + barsBeforeVersion q.dependency.toList + 3 := by
  have h₃ : '@' ∈ q.ruleId.rendered.toList ++ '|' :: q.dependency.toList :=
    List.mem_append_right _ (List.mem_cons_of_mem _ h)
  have h₂ := List.mem_append_right q.policyId.rendered.toList (List.mem_cons_of_mem '|' h₃)
  rw [toList_key, barsBeforeVersion_bar h₂, barsBeforeVersion_bar h₃, barsBeforeVersion_bar h]
  omega

/-- Two findings with the same text are the same if one of them is clear: it has three bars before its
version, so the other one has only the three between its parts. -/
theorem Clear.eq_of_key {q q' : Identity} (hq : q.Clear) (hat : '@' ∈ q.dependency.toList)
    (hat' : '@' ∈ q'.dependency.toList) (hw : q'.Written) (hk : q'.key = q.key) : q' = q := by
  have hbars := congrArg barsBeforeVersion (congrArg String.toList hk)
  rw [barsBeforeVersion_key hat, barsBeforeVersion_key hat', List.count_eq_zero.mpr hq.tenantId.1,
    List.count_eq_zero.mpr hq.policyId.1, List.count_eq_zero.mpr hq.ruleId.1,
    barsBeforeVersion_eq_zero hq.dependency] at hbars
  have ht : '|' ∉ q'.tenantId.rendered.toList := List.count_eq_zero.mp (by omega)
  have hp : '|' ∉ q'.policyId.rendered.toList := List.count_eq_zero.mp (by omega)
  have hr : '|' ∉ q'.ruleId.rendered.toList := List.count_eq_zero.mp (by omega)
  have hkey := congrArg String.toList hk
  rw [toList_key, toList_key] at hkey
  obtain ⟨htext, hkey⟩ := append_bar_inj ht hq.tenantId.1 hkey
  obtain ⟨hptext, hkey⟩ := append_bar_inj hp hq.policyId.1 hkey
  obtain ⟨hrtext, hkey⟩ := append_bar_inj hr hq.ruleId.1 hkey
  apply Identity.ext
  · exact hq.tenantId.2 _ (hw _ (by simp)) (String.toList_injective htext)
  · exact hq.policyId.2 _ (hw _ (by simp)) (String.toList_injective hptext)
  · exact hq.ruleId.2 _ (hw _ (by simp)) (String.toList_injective hrtext)
  · exact String.toList_injective hkey

section Bars

variable {tenantId policyId ruleId : Value} {d : Dependency} (hq : (mk tenantId policyId ruleId d.ident).Written)
include hq

theorem Unshared.tells_tenantId (h : (mk tenantId policyId ruleId d.ident).Unshared) : Tells tenantId := by
  simp only [Written, List.forall_mem_cons] at hq
  obtain ⟨-, hpolicy, hrule, -⟩ := hq
  refine ⟨fun hbar => ?_, fun w hwritten hw => ?_⟩
  · obtain ⟨a, b, hab⟩ := List.append_of_mem hbar
    have heq := h (.str (.ofList a)) (.str (.ofList (b ++ '|' :: policyId.rendered.toList))) ruleId d (by
      simp [Written, hrule]) (by
      apply String.toList_injective
      simp [toList_key, hab])
    have hid : Value.str (.ofList a) = tenantId := congrArg Identity.tenantId heq
    rw [← hid] at hab
    simpa using congrArg List.length hab
  · exact congrArg Identity.tenantId (h w policyId ruleId d (by simp [Written, hwritten, hpolicy, hrule]) (by
      apply String.toList_injective
      simp [toList_key, hw]))

theorem Unshared.tells_policyId (h : (mk tenantId policyId ruleId d.ident).Unshared) : Tells policyId := by
  simp only [Written, List.forall_mem_cons] at hq
  obtain ⟨htenant, -, hrule, -⟩ := hq
  refine ⟨fun hbar => ?_, fun w hwritten hw => ?_⟩
  · obtain ⟨a, b, hab⟩ := List.append_of_mem hbar
    have heq := h tenantId (.str (.ofList a)) (.str (.ofList (b ++ '|' :: ruleId.rendered.toList))) d (by
      simp [Written, htenant]) (by
      apply String.toList_injective
      simp [toList_key, hab])
    have hid : Value.str (.ofList a) = policyId := congrArg Identity.policyId heq
    rw [← hid] at hab
    simpa using congrArg List.length hab
  · exact congrArg Identity.policyId (h tenantId w ruleId d (by simp [Written, hwritten, htenant, hrule]) (by
      apply String.toList_injective
      simp [toList_key, hw]))

theorem Unshared.tells_ruleId (h : (mk tenantId policyId ruleId d.ident).Unshared) : Tells ruleId := by
  simp only [Written, List.forall_mem_cons] at hq
  obtain ⟨htenant, hpolicy, -⟩ := hq
  refine ⟨fun hbar => ?_, fun w hwritten hw => ?_⟩
  · obtain ⟨a, b, hab⟩ := List.append_of_mem hbar
    obtain ⟨d', hd'⟩ := exists_ident (l := b ++ '|' :: d.ident.toList)
      (List.mem_append_right b (List.mem_cons_of_mem _ (mem_ident d))) d
    have heq := h tenantId policyId (.str (.ofList a)) d' (by simp [Written, htenant, hpolicy]) (by
      apply String.toList_injective
      simp [toList_key, hab, hd'])
    have hid : Value.str (.ofList a) = ruleId := congrArg Identity.ruleId heq
    rw [← hid] at hab
    simpa using congrArg List.length hab
  · exact congrArg Identity.ruleId (h tenantId policyId w d (by simp [Written, hwritten, htenant, hpolicy]) (by
      apply String.toList_injective
      simp [toList_key, hw]))

theorem Unshared.no_bar (h : (mk tenantId policyId ruleId d.ident).Unshared) (a b : List Char)
    (hab : d.ident.toList = a ++ '|' :: b) : '@' ∉ b := by
  intro hat
  simp only [Written, List.forall_mem_cons] at hq
  obtain ⟨d', hd'⟩ := exists_ident hat d
  have heq := h tenantId policyId (.str (.ofList (ruleId.rendered.toList ++ '|' :: a))) d' (by
    simp [Written, hq.1, hq.2.1]) (by
    apply String.toList_injective
    simp [toList_key, hab, hd'])
  have hlen := congrArg List.length (congrArg (fun q => q.dependency.toList) heq)
  simp only [hd', hab, String.toList_ofList, List.length_append, List.length_cons] at hlen
  omega

/-- No other finding is found by the same text just when its parts tell what they are by theirs. -/
theorem unshared_iff :
    (mk tenantId policyId ruleId d.ident).Unshared ↔ (mk tenantId policyId ruleId d.ident).Clear := by
  constructor
  · intro h
    exact ⟨h.tells_tenantId hq, h.tells_policyId hq, h.tells_ruleId hq, h.no_bar hq⟩
  · intro h
    exact fun _ _ _ d' hw hk => h.eq_of_key (mem_ident d) (mem_ident d') hw hk

end Bars

end Identity
end SupplyGate
