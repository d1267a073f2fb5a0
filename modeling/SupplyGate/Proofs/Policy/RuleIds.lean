import Mathlib.Data.List.Nodup
import SupplyGate.Policy.Rule
import SupplyGate.Proofs.Ids
import SupplyGate.Proofs.Value.Reading

/-!
# Ids of rules

Rules are given their ids one after the other: each has its own, or takes that of the last current rule
with its name, or else the next one that was not given out yet. Say that the current rules have different
ids that were given out, and that the others come without ids. Then the ids that they get are different
just when no two of them take that of one current rule (`Assigned.nodup_iff`).
-/

namespace SupplyGate

/-! ## Numbers that are handed on -/

/-- Items are related one by one, and each hands the number that it ends with to the next one. -/
inductive Threaded {α β : Type} (T : Nat → α → β → Nat → Prop) : Nat → List α → List β → Nat → Prop where
  | nil {n : Nat} : Threaded T n [] [] n
  | cons {l m n : Nat} {a : α} {b : β} {as : List α} {bs : List β} (one : T l a b m) (rest : Threaded T m as bs n) :
      Threaded T l (a :: as) (b :: bs) n

section Threaded

variable {α β : Type} {T : Nat → α → β → Nat → Prop} {m n : Nat} {as : List α} {bs : List β}

theorem Threaded.forall₂ {F : α → β → Prop} (h : Threaded T m as bs n) (hT : ∀ m a b n, T m a b n → F a b) :
    List.Forall₂ F as bs := by
  induction h with
  | nil => exact .nil
  | cons one _ ih => exact .cons (hT _ _ _ _ one) ih

theorem Threaded.le (h : Threaded T m as bs n) (hT : ∀ m a b n, T m a b n → m ≤ n) : m ≤ n := by
  induction h with
  | nil => exact Nat.le_refl _
  | cons one _ ih => exact Nat.le_trans (hT _ _ _ _ one) ih

end Threaded

/-! ## Taking ids -/

/-- The id of a rule with a number. -/
def ruleId (n : Nat) : Value := .str (Ids.textOf .rule n)

theorem ruleId_inj {m n : Nat} (h : ruleId m = ruleId n) : m = n :=
  Ids.textOf_inj (Scalar.str.inj (Value.scalar.inj h))

/-- The last of some rules that has a name. -/
def lastNamed (rules : List Rule) (name : Value) : Option Rule := rules.reverse.find? fun c => c.name.same name

/-- Beside current rules, and after so many ids were given out, a rule takes its own id, or that of the last
current rule with its name, or else the next one. -/
inductive Rule.Takes (current : List Rule) (n : Nat) (r : Rule) : Value → Nat → Prop where
  | own (has : r.id.truthy = true) : Takes current n r r.id n
  | named {c : Rule} (lacks : r.id.truthy = false) (found : lastNamed current r.name = some c)
      (kept : c.id.truthy = true) : Takes current n r c.id n
  | next (lacks : r.id.truthy = false) (none : ∀ c, lastNamed current r.name = some c → c.id.truthy = false) :
      Takes current n r (ruleId (n + 1)) (n + 1)

/-- Beside current rules, some rules take their ids one after the other. -/
abbrev Assigned (current : List Rule) : Nat → List Rule → List Rule → Nat → Prop :=
  Threaded fun m r r' n => ∃ id, r.Takes current m id n ∧ r' = { r with id := id }

/-- The ids of the rules were given out. -/
def Labelled (n : Nat) (rules : List Rule) : Prop := ∀ r ∈ rules, ∃ i ≤ n, r.id = ruleId i

/-- The rules come without ids. -/
def Bare (rules : List Rule) : Prop := ∀ r ∈ rules, r.id.truthy = false

theorem truthy_ruleId (n : Nat) : (ruleId n).truthy = true := by
  have hne : (Ids.textOf .rule n != "") = true := bne_iff_ne.mpr (Ids.textOf_ne_empty .rule n)
  exact hne

theorem mem_of_lastNamed {current : List Rule} {name : Value} {c : Rule} (h : lastNamed current name = some c) :
    c ∈ current := List.mem_reverse.mp (List.mem_of_find?_eq_some h)

section Assigned

variable {current rules rs : List Rule} {k m n : Nat}

theorem Rule.Takes.le {r : Rule} {id : Value} (h : r.Takes current m id n) : m ≤ n := by
  cases h with
  | own => exact Nat.le_refl _
  | named => exact Nat.le_refl _
  | next => exact Nat.le_succ _

theorem Assigned.le (h : Assigned current m rules rs n) : m ≤ n :=
  Threaded.le h fun _ _ _ _ ⟨_, htakes, _⟩ => htakes.le

/-- A rule without an id takes that of the last labelled rule with its name, or the next one if there is none. -/
theorem Rule.Takes.of_lacks {r : Rule} {id : Value} (h : r.Takes current m id n) (hlabels : Labelled k current)
    (hr : r.id.truthy = false) :
    (∃ c, lastNamed current r.name = some c ∧ id = c.id ∧ n = m) ∨
      lastNamed current r.name = none ∧ id = ruleId (m + 1) ∧ n = m + 1 := by
  cases h with
  | own has =>
    rw [hr] at has
    cases has
  | @named c _ found => exact .inl ⟨c, found, rfl, rfl⟩
  | next _ none =>
    refine .inr ⟨?_, rfl, rfl⟩
    cases hc : lastNamed current r.name with
    | none => rfl
    | some c =>
      obtain ⟨i, -, hi⟩ := hlabels c (mem_of_lastNamed hc)
      have hlacks := none c hc
      rw [hi, truthy_ruleId] at hlacks
      cases hlacks

/-- Rules that have ids keep them. -/
theorem Assigned.of_truthy (h : Assigned current m rules rs n) (hrules : ∀ r ∈ rules, r.id.truthy = true) :
    rs = rules ∧ n = m := by
  induction h with
  | nil => exact ⟨rfl, rfl⟩
  | cons one _ ih =>
    obtain ⟨id, htakes, rfl⟩ := one
    obtain ⟨hr, hrest⟩ := List.forall_mem_cons.mp hrules
    obtain ⟨rfl, rfl⟩ := ih hrest
    cases htakes with
    | own => exact ⟨rfl, rfl⟩
    | named lacks => simp [lacks] at hr
    | next lacks => simp [lacks] at hr

/-- Rules with the next ids are rules that came without and were given them. -/
theorem assigned_of_next {α : Type} {as : List α}
    (h : Threaded (fun m _ r n => r.id = ruleId n ∧ n = m + 1) m as rs n) :
    ∃ bare, Bare bare ∧ Assigned [] m bare rs n := by
  induction h with
  | nil => exact ⟨[], by simp [Bare], .nil⟩
  | @cons l m n a r as rs one _ ih =>
    obtain ⟨bare, hbare, hassigned⟩ := ih
    obtain ⟨hid, rfl⟩ := one
    have htakes : { r with id := .null }.Takes [] l (ruleId (l + 1)) (l + 1) := .next rfl (by simp [lastNamed])
    refine ⟨{ r with id := .null } :: bare, List.forall_mem_cons.mpr ⟨rfl, hbare⟩, .cons ⟨_, htakes, ?_⟩ hassigned⟩
    rw [← hid]

/-- Where every item of an update is a rule, the rules take their ids. -/
theorem assigned_of_held {asked : List (Loose Rule)} (h : Threaded (fun m l r' n => ∃ r id, l = .held r ∧
    r.Takes current m id n ∧ r' = { r with id := id }) m asked rs n) :
    ∃ rules, asked = rules.map .held ∧ Assigned current m rules rs n := by
  induction h with
  | nil => exact ⟨[], rfl, .nil⟩
  | cons one _ ih =>
    obtain ⟨r, id, rfl, htakes, rfl⟩ := one
    obtain ⟨rules, rfl, hrules⟩ := ih
    exact ⟨r :: rules, rfl, .cons ⟨id, htakes, rfl⟩ hrules⟩

variable (hlabels : Labelled k current)
include hlabels

/-- Rules that come without ids get those of current rules with their names, and next ones. -/
theorem Assigned.ids (h : Assigned current m rules rs n) (hbare : Bare rules) :
    (∀ r' ∈ rs, (∃ r ∈ rules, ∃ c, lastNamed current r.name = some c ∧ r'.id = c.id) ∨
      ∃ i, m < i ∧ i ≤ n ∧ r'.id = ruleId i) ∧
    ∀ r ∈ rules, ∀ c, lastNamed current r.name = some c → ∃ r' ∈ rs, r'.id = c.id := by
  induction h with
  | nil => simp
  | @cons l m n r r' rules rs one rest ih =>
    obtain ⟨id, htakes, rfl⟩ := one
    obtain ⟨hr, hrules⟩ := List.forall_mem_cons.mp hbare
    obtain ⟨hin, hout⟩ := ih hrules
    have hlm : l ≤ m := htakes.le
    have hmn : m ≤ n := Assigned.le rest
    have hrest : ∀ r' ∈ rs, (∃ q ∈ r :: rules, ∃ c, lastNamed current q.name = some c ∧ r'.id = c.id) ∨
        ∃ i, l < i ∧ i ≤ n ∧ r'.id = ruleId i := by
      intro r' hr'
      rcases hin r' hr' with ⟨q, hq, c, hc⟩ | ⟨i, hi, hin, hid⟩
      · exact .inl ⟨q, List.mem_cons_of_mem _ hq, c, hc⟩
      · exact .inr ⟨i, by omega, hin, hid⟩
    have hlater : ∀ q ∈ rules, ∀ c, lastNamed current q.name = some c →
        ∃ r' ∈ { r with id := id } :: rs, r'.id = c.id := fun q hq c hc =>
      let ⟨r', hr', hid⟩ := hout q hq c hc
      ⟨r', List.mem_cons_of_mem _ hr', hid⟩
    rcases htakes.of_lacks hlabels hr with ⟨c, hc, rfl, rfl⟩ | ⟨hnone, rfl, rfl⟩
    · refine ⟨List.forall_mem_cons.mpr ⟨.inl ⟨r, List.mem_cons_self, c, hc, rfl⟩, hrest⟩, ?_⟩
      refine List.forall_mem_cons.mpr ⟨fun d hd => ⟨_, List.mem_cons_self, ?_⟩, hlater⟩
      obtain rfl : c = d := Option.some.inj (hc.symm.trans hd)
      rfl
    · refine ⟨List.forall_mem_cons.mpr ⟨.inr ⟨l + 1, by omega, hmn, rfl⟩, hrest⟩, ?_⟩
      refine List.forall_mem_cons.mpr ⟨fun d hd => ?_, hlater⟩
      rw [hnone] at hd
      cases hd

theorem Assigned.labelled (h : Assigned current m rules rs n) (hbare : Bare rules) (hkm : k ≤ m) : Labelled n rs := by
  intro r' hr'
  have hmn := Assigned.le h
  rcases (Assigned.ids hlabels h hbare).1 r' hr' with ⟨r, -, c, hc, hid⟩ | ⟨i, -, hin, hid⟩
  · obtain ⟨i, hi, hci⟩ := hlabels c (mem_of_lastNamed hc)
    exact ⟨i, by omega, hid.trans hci⟩
  · exact ⟨i, hin, hid⟩

/-- A number that comes after those of the current rules is that of none of them. -/
theorem id_ne_ruleId {c : Rule} (hc : c ∈ current) {i : Nat} (hi : k < i) : c.id ≠ ruleId i := by
  intro h
  obtain ⟨j, hj, hcj⟩ := hlabels c hc
  have hij := ruleId_inj (hcj.symm.trans h)
  omega

/-- **When rules get different ids.** Rules that come without ids get different ones beside current rules
with different ones just when no two of them have the name of the same one. -/
theorem Assigned.nodup_iff (hids : (current.map (·.id)).Nodup) (h : Assigned current m rules rs n) (hbare : Bare rules)
    (hkm : k ≤ m) :
    (rs.map (·.id)).Nodup ↔ (rules.filterMap fun r => lastNamed current r.name).Nodup := by
  induction h with
  | nil => simp
  | @cons l m n r r' rules rs one rest ih =>
    obtain ⟨id, htakes, rfl⟩ := one
    obtain ⟨hr, hrules⟩ := List.forall_mem_cons.mp hbare
    obtain ⟨hin, hout⟩ := Assigned.ids hlabels rest hrules
    have hlm : l ≤ m := htakes.le
    rw [List.map_cons, List.nodup_cons, ih hrules (by omega)]
    rcases htakes.of_lacks hlabels hr with ⟨c, hc, rfl, rfl⟩ | ⟨hnone, rfl, rfl⟩
    · simp only [List.filterMap_cons, hc, List.nodup_cons]
      refine and_congr_left fun _ => not_congr ?_
      rw [List.mem_map, List.mem_filterMap]
      constructor
      · rintro ⟨r', hr', hid⟩
        rcases hin r' hr' with ⟨q, hq, d, hd, hqd⟩ | ⟨i, hi, -, hri⟩
        · have hcd : c = d :=
            List.inj_on_of_nodup_map hids (mem_of_lastNamed hc) (mem_of_lastNamed hd) (hid.symm.trans hqd)
          exact ⟨q, hq, hcd ▸ hd⟩
        · exact absurd (hid.symm.trans hri) (id_ne_ruleId hlabels (mem_of_lastNamed hc) (by omega))
      · rintro ⟨q, hq, hqc⟩
        exact hout q hq c hqc
    · simp only [List.filterMap_cons, hnone]
      refine and_iff_right fun hmem => ?_
      obtain ⟨r', hr', hid⟩ := List.mem_map.mp hmem
      rcases hin r' hr' with ⟨q, hq, d, hd, hqd⟩ | ⟨i, hi, -, hri⟩
      · exact id_ne_ruleId hlabels (mem_of_lastNamed hd) (show k < l + 1 by omega) (hqd.symm.trans hid)
      · have hil := ruleId_inj (hri.symm.trans hid)
        omega

end Assigned

end SupplyGate
