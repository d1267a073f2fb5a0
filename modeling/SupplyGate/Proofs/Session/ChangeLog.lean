import SupplyGate.Proofs.Policy.ChangeLog
import SupplyGate.Proofs.Sample
import SupplyGate.Proofs.Session.Writing

/-!
# Versions of stored policies

An update that is answered puts a policy in the place of the one with its id. Its rules are those that were asked
for, with ids, if their documents differ from those of the current ones; then the version is raised and the
change log tells of it, and otherwise rules and change log stay as they are (`update_advances`).
-/

namespace SupplyGate

open Gate

/-- Rules, version and change log of a policy after an update by an author. Before the update `c` ids of rules were
given out, and `n` after it. -/
inductive Policy.Advances (p : Policy) (u : PolicyUpdate) (now : Timestamp) (author : Value) (c n : Nat) (q : Policy) :
    Prop where
  | raised {rules rs : List Rule} {version : String} (asked : u.rules = some (rules.map .held))
    (assigned : Assigned p.rules c rules rs n) (differ : Compared rs p.rules false)
    (bump : Version.bump p.version = .ok version) (newRules : q.rules = rs) (newVersion : q.version = .str version)
    (logs : p.Logs u now (p.metadata.changeLog ++ [.ofRules version now author]) q)
  | kept (alike : u.rules = none ∨ ∃ rules rs, u.rules = some (rules.map .held) ∧ Assigned p.rules c rules rs n ∧
      Compared rs p.rules true) (sameRules : q.rules = p.rules) (logs : p.Logs u now p.metadata.changeLog q)

namespace Gate

variable {s t : GateState} {p q : Policy}

/-- Looking a policy up changes nothing. -/
theorem unchanged_of_returns_getPolicy {id : Value} (h : Returns (getPolicy id) s p t) : t = s := by
  obtain ⟨o, u, hfind, h⟩ := returns_bind.mp h
  have hu : u = s := by
    rw [Returns, outcome_find] at hfind
    exact (Prod.mk.inj hfind).2.symm
  cases o with
  | none => exact absurd h returns_throw
  | some p' => exact (returns_pure.mp h).2.trans hu

theorem advances_of_weighed {u : PolicyUpdate} {now : Timestamp} {author : Value} {c n : Nat}
    {changed : Option (List Rule)} (hweighed : Weighed p.rules u.rules c n changed)
    (h : assembled p u changed now author = .ok q) : p.Advances u now author c n q := by
  have hrules := (assembled_ok h).2
  rcases assembled_logs h with ⟨rfl, hlogs⟩ | ⟨rs, version, rfl, hbump, hversion, hlogs⟩
  · refine .kept ?_ hrules hlogs
    generalize u.rules = asked at hweighed
    cases hweighed with
    | unasked => exact .inl rfl
    | same hassigned hsame => exact .inr ⟨_, _, rfl, hassigned, hsame⟩
  · generalize hasked : u.rules = asked at hweighed
    cases hweighed with
    | changed hassigned hdiffer => exact .raised hasked hassigned hdiffer hbump hrules hversion hlogs

/-- **Version and change log follow the rules.** Every update that is answered puts such a policy in the place of
the one with the id; where the update is a document, what it asks for is seen from the fields that it names. -/
theorem update_advances (s t : GateState) (policyId author : Value) (asked : Reading PolicyUpdate) (q : Policy)
    (h : Returns (updateWith policyId asked author) s q t) :
    ∃ p u, Returns (getPolicy policyId) s p s ∧ asked = .ok u ∧
      (Shelf.policies.read s).put q = .ok (Shelf.policies.read t) ∧
      p.Advances u s.now author (s.ids.count .rule) (t.ids.count .rule) q ∧
      ∀ entries, asked = PolicyUpdate.ofDoc (.map entries) →
        (u.rules.isSome ↔ PolicyUpdate.Names entries "rules") ∧
          ((∃ es, .exceptions es ∈ u.edits) ↔ PolicyUpdate.Names entries "exceptions") := by
  -- what is told does not touch the policies
  obtain ⟨next, s₀, hrenew, h₀⟩ := returns_bind.mp h
  obtain ⟨_, s₈, hlog, h₇⟩ := returns_bind.mp h₀
  obtain ⟨-, rfl⟩ := returns_logValues.mp hlog
  obtain ⟨_, s₉, hpublish, h₈⟩ := returns_bind.mp h₇
  obtain ⟨rfl, rfl⟩ := returns_pure.mp h₈
  obtain rfl := returns_publish hpublish
  simp only [renewPolicy, updated_eq, liftM_eq_ofReading] at hrenew
  obtain ⟨p, s₁, hget, h₁⟩ := returns_bind.mp hrenew
  obtain rfl := unchanged_of_returns_getPolicy hget
  obtain ⟨u, s₂, hread, h₂⟩ := returns_bind.mp h₁
  obtain ⟨hu, rfl⟩ := returns_ofReading.mp hread
  obtain ⟨now, s₃, hclock, h₃⟩ := returns_bind.mp h₂
  obtain ⟨rfl, rfl⟩ := returns_clock.mp hclock
  obtain ⟨renewed, s₄, hupdate, h₄⟩ := returns_bind.mp h₃
  obtain ⟨changed, s₅, hchange, hassemble⟩ := returns_bind.mp hupdate
  obtain ⟨hresult, rfl⟩ := returns_ofReading.mp hassemble
  obtain ⟨_, s₆, hcheck, h₅⟩ := returns_bind.mp h₄
  obtain ⟨-, rfl⟩ := returns_ofReading.mp hcheck
  obtain ⟨_, s₇, hkeep, h₆⟩ := returns_bind.mp h₅
  obtain ⟨rfl, rfl⟩ := returns_pure.mp h₆
  obtain ⟨n, htaken, hweighed⟩ :=
    (settles_changedRules_weighed p.rules u.rules _ _ ⟨.refl _, rfl⟩).1 changed _ hchange
  obtain ⟨store, hput, rfl⟩ := (returns_keep _).mp hkeep
  refine ⟨p, u, hget, hu, ?_, ?_, fun entries hdoc => PolicyUpdate.ofDoc_names (hdoc.symm.trans hu)⟩
  · rw [htaken.took.eq] at hput
    exact hput
  · obtain rfl := htaken.2
    exact advances_of_weighed hweighed hresult

end Gate

section Sample

open Sample

/-- A gate with a policy of one rule on record. -/
def enacted : GateState := (outcome (createPolicy "t" (.record (policy "t" "p" [rule "" (absent "x")] [])) "u") gate).2

/-- An update by another rule with the same name, which names a version. -/
def amendment : PolicyUpdate := ⟨[.version "9.9.9"], some [.held (rule "" (absent "y"))], none⟩

/-- What that update gives. -/
def amended : Reading Policy × GateState := outcome (updateWith "p" (.ok amendment) "v") enacted

/-- The version of the policy is raised from its own, whichever one the update names. -/
theorem update_advances_amended : ∃ q, Returns (updateWith "p" (.ok amendment) "v") enacted q amended.2 ∧
    q.version = "1.0.1" ∧ ∃ p, Returns (getPolicy "p") enacted p enacted ∧
      p.Advances amendment moment "v" (enacted.ids.count .rule) (amended.2.ids.count .rule) q := by
  have hgives : gives "1.0.1" amended.1 = true := by decide +kernel
  obtain ⟨q, hq, hversion⟩ := of_gives hgives
  have hr : Returns (updateWith "p" (.ok amendment) "v") enacted q amended.2 := returns_of_ok hq
  obtain ⟨p, u, hget, hu, -, hadvances, -⟩ := update_advances enacted amended.2 "p" "v" (.ok amendment) q hr
  obtain rfl := Except.ok.inj hu
  exact ⟨q, hr, hversion, p, hget, hadvances⟩

end Sample

end SupplyGate
