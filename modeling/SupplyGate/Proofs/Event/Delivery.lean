import Mathlib.Data.List.Induction
import SupplyGate.Event.Delivery

/-!
# Subscriptions and what they hear

A bus lists its live subscriptions in the order in which they were made. An event is delivered to the subscriptions to
its name and then to those to all events (`called`), and not in the order of the list (`due`). The two agree just
when no subscription to all events is older than one to the name, and the name is not that of all events
(`inTurn_iff`); otherwise delivery is out of order, or double.
-/

namespace SupplyGate

variable {η : Type} [DecidableEq η]

/-- A change of the subscriptions. -/
inductive SubscriptionChange (η : Type) where
  | subscribe (s : Subscription η)
  | unsubscribe (s : Subscription η)

namespace SubscriptionChange

/-- The subscription that a change makes. -/
def made? : SubscriptionChange η → Option (Subscription η)
  | .subscribe s => some s
  | .unsubscribe _ => none

/-- How many subscriptions of one kind there are after a change. Unsubscribing takes one away, if there is one. -/
def tally (s : Subscription η) (count : Nat) : SubscriptionChange η → Nat
  | .subscribe t => if t = s then count + 1 else count
  | .unsubscribe t => if t = s then count - 1 else count

end SubscriptionChange

/-- One subscription is taken away from a list, the first of its kind, if there is one. -/
inductive Subscription.TakenFrom (s : Subscription η) : List (Subscription η) → List (Subscription η) → Prop where
  | absent {subs : List (Subscription η)} (notHere : s ∉ subs) : TakenFrom s subs subs
  | first {before after : List (Subscription η)} (notBefore : s ∉ before) :
    TakenFrom s (before ++ s :: after) (before ++ after)

namespace EventBus

/-! ## Live subscriptions -/

/-- The bus after a change of its subscriptions. -/
def change (b : EventBus η) : SubscriptionChange η → EventBus η
  | .subscribe s => b.subscribe s.event s.handler
  | .unsubscribe s => b.unsubscribe s.event s.handler

/-- The bus after some changes of its subscriptions, of which it has none in the beginning. -/
def after (changes : List (SubscriptionChange η)) : EventBus η := changes.foldl change empty

theorem taken_unsubscribe (b : EventBus η) (s : Subscription η) :
    s.TakenFrom b.subscriptions (b.unsubscribe s.event s.handler).subscriptions := by
  change s.TakenFrom b.subscriptions (b.subscriptions.erase s)
  by_cases h : s ∈ b.subscriptions
  · obtain ⟨before, after, hbefore, hsubs, herase⟩ := List.exists_erase_eq h
    rw [herase, hsubs]
    exact .first hbefore
  · rw [List.erase_of_not_mem h]
    exact .absent h

theorem count_change (b : EventBus η) (c : SubscriptionChange η) (s : Subscription η) :
    (b.change c).subscriptions.count s = c.tally s (b.subscriptions.count s) := by
  cases c with
  | subscribe t =>
    change (b.subscriptions ++ [t]).count s = _
    rw [List.count_append, List.count_singleton, SubscriptionChange.tally]
    split <;> simp_all
  | unsubscribe t =>
    change (b.subscriptions.erase t).count s = _
    rw [List.count_erase, SubscriptionChange.tally]
    split <;> simp_all

/-- The live subscriptions of one kind are counted by the changes. -/
theorem count_after (changes : List (SubscriptionChange η)) (s : Subscription η) :
    (after changes).subscriptions.count s = changes.foldl (SubscriptionChange.tally s) 0 := by
  induction changes using List.reverseRecOn with
  | nil => rfl
  | append_singleton changes c ih =>
    rw [after, List.foldl_append, List.foldl_append, ← ih]
    exact count_change _ c s

/-- Live subscriptions stand in the order in which they were made. -/
theorem sublist_after (changes : List (SubscriptionChange η)) :
    (after changes).subscriptions.Sublist (changes.filterMap SubscriptionChange.made?) := by
  induction changes using List.reverseRecOn with
  | nil => exact .slnil
  | append_singleton changes c ih =>
    rw [after, List.foldl_append, List.filterMap_append]
    cases c with
    | subscribe t => exact ih.append (.refl _)
    | unsubscribe t =>
      rw [List.filterMap_cons_none (by rfl), List.filterMap_nil, List.append_nil]
      exact List.erase_sublist.trans ih

/-! ## Delivery -/

/-- The subscriptions that an event is for, in the order in which they were made. -/
def due (b : EventBus η) (event : String) : List (Subscription η) :=
  b.subscriptions.filter fun s => s.event = event || s.event = everyEvent

/-- The subscriptions by which an event is delivered, in turn. -/
def called (b : EventBus η) (event : String) : List (Subscription η) :=
  b.subscriptions.filter (·.event = event) ++ b.subscriptions.filter (·.event = everyEvent)

/-- No subscription to all events is older than one to the name, and the name is not theirs. -/
structure InTurn (b : EventBus η) (event : String) : Prop where
  ordered : b.subscriptions.Pairwise fun s t => s.event = everyEvent → t.event ≠ event
  single : event = everyEvent → ∀ s ∈ b.subscriptions, s.event ≠ everyEvent

/-- Taking the items with one property before those with another keeps the order of the list just when none with the
second property stands before one with the first. -/
theorem filter_append_filter_eq_iff {α : Type} {p q : α → Bool} (hpq : ∀ a, p a = true → q a = false) :
    ∀ l : List α, l.filter p ++ l.filter q = l.filter (fun a => p a || q a) ↔
      l.Pairwise fun a b => q a = true → p b = false
  | [] => by simp
  | a :: l => by
    have ih := filter_append_filter_eq_iff hpq l
    rw [List.pairwise_cons]
    cases hp : p a with
    | true =>
      have hq : q a = false := hpq a hp
      simp [hp, hq, ih]
    | false =>
      cases hq : q a with
      | false => simp [hp, hq, ih]
      | true =>
        rw [List.filter_cons_of_neg (by simp [hp]), List.filter_cons_of_pos hq, List.filter_cons_of_pos (by simp [hq])]
        have hnone : (∀ b ∈ l, true = true → p b = false) ↔ l.filter p = [] := by
          simp [List.filter_eq_nil_iff]
        constructor
        · intro heq
          have hnil : l.filter p = [] := by
            cases hl : l.filter p with
            | nil => rfl
            | cons b bs =>
              -- then `b` comes first, and the list begins with `a`, which does not have the first property
              rw [hl] at heq
              obtain rfl : b = a := (List.cons.inj heq).1
              have hb : p b = true := (List.mem_filter.mp (hl ▸ List.mem_cons_self)).2
              rw [hp] at hb
              cases hb
          rw [hnil] at heq ih
          exact ⟨hnone.mpr hnil, ih.mp (List.cons.inj heq).2⟩
        · rintro ⟨hl, hpairs⟩
          have hnil := hnone.mp hl
          rw [hnil] at ih ⊢
          exact congrArg (a :: ·) (ih.mpr hpairs)

/-- In whatever order, each item is taken once. -/
theorem filter_append_filter_perm {α : Type} {p q : α → Bool} (hpq : ∀ a, p a = true → q a = false) :
    ∀ l : List α, (l.filter p ++ l.filter q).Perm (l.filter fun a => p a || q a)
  | [] => .refl _
  | a :: l => by
    have ih := filter_append_filter_perm hpq l
    cases hp : p a with
    | true => simpa [hp, hpq a hp] using ih
    | false =>
      cases hq : q a with
      | false => simpa [hp, hq] using ih
      | true => simpa [hp, hq] using List.perm_middle.trans (ih.cons a)

omit [DecidableEq η] in
/-- A subscription to a name is none to all events, unless the name is theirs. -/
theorem not_everyEvent {event : String} (h : event ≠ everyEvent) (s : Subscription η)
    (hs : decide (s.event = event) = true) : decide (s.event = everyEvent) = false := by
  rw [of_decide_eq_true hs]
  exact decide_eq_false h

omit [DecidableEq η] in
/-- Where the name is not that of all events, no subscription is passed over or called twice. -/
theorem called_perm_due (b : EventBus η) {event : String} (h : event ≠ everyEvent) :
    (b.called event).Perm (b.due event) :=
  filter_append_filter_perm (not_everyEvent h) b.subscriptions

omit [DecidableEq η] in
/-- The subscriptions to all events are called twice by an event with their name. -/
theorem called_everyEvent (b : EventBus η) : b.called everyEvent = b.due everyEvent ++ b.due everyEvent := by
  simp only [called, due, Bool.or_self]

omit [DecidableEq η] in
/-- Delivery is in the order of the subscriptions, each once, just when they are in turn. -/
theorem called_eq_due_iff (b : EventBus η) (event : String) : b.called event = b.due event ↔ b.InTurn event := by
  by_cases h : event = everyEvent
  · subst h
    rw [called_everyEvent, List.append_right_eq_self]
    constructor
    · intro hnil
      have hnone : ∀ s ∈ b.subscriptions, s.event ≠ everyEvent := by
        simpa [due, List.filter_eq_nil_iff] using hnil
      exact ⟨List.pairwise_of_forall_mem_list fun _ _ t ht _ => hnone t ht, fun _ => hnone⟩
    · intro hturn
      simpa [due, List.filter_eq_nil_iff] using hturn.single rfl
  · have hiff := filter_append_filter_eq_iff (not_everyEvent h) b.subscriptions
    constructor
    · intro heq
      exact ⟨(hiff.mp heq).imp fun hst hs => by simpa using hst (by simpa using hs), fun hall => absurd hall h⟩
    · intro hturn
      exact hiff.mpr (hturn.ordered.imp fun hst hs => by simpa using hst (by simpa using hs))

/-! ## Handlers -/

omit [DecidableEq η] in
theorem recipients_eq (b : EventBus η) (event : String) : b.recipients event = (b.called event).map (·.handler) := by
  rw [recipients, handlersOf, handlersOf, called, List.map_append]

section Publish

variable {σ : Type} (handle : η → ExceptT Fault (StateM σ) Unit)

/-- What is left after a handler was called, whether it failed or not. -/
def afterCall (s : σ) (c : Subscription η) : σ := ((handle c.handler).run.run s).2

omit [DecidableEq η] in
/-- The handlers are called in turn, whichever fail. -/
theorem publish_run (b : EventBus η) (event : String) (s : σ) :
    (b.publish event handle).run s = ((), (b.called event).foldl (afterCall handle) s) := by
  rw [publish, recipients_eq]
  induction b.called event generalizing s with
  | nil => rfl
  | cons c cs ih =>
    rw [List.map_cons, List.foldl_cons, ← ih]
    rfl

end Publish

/-- **How events are delivered.** After any changes of the subscriptions, a published event is delivered to the
subscriptions that it is for in the order in which they were made, and once to each, just when none of them to all
events is older than one to its name, and its name is not that of all events. In other orders they are called once
each all the same, except that an event with the name of all events is delivered twice. Handlers are called in turn
whichever of them fail. As many subscriptions of a kind are live as the changes left, in the order in which they were
made, and unsubscribing takes away the first of its kind and nothing else. -/
theorem delivered_iff (changes : List (SubscriptionChange η)) (event : String) :
    let b := after changes
    (b.called event = b.due event ↔ b.InTurn event) ∧
    (b.called event).Perm (if event = everyEvent then b.due event ++ b.due event else b.due event) ∧
    (∀ (σ : Type) (handle : η → ExceptT Fault (StateM σ) Unit) (s : σ),
      (b.publish event handle).run s = ((), (b.called event).foldl (afterCall handle) s)) ∧
    (∀ s : Subscription η, b.subscriptions.count s = changes.foldl (SubscriptionChange.tally s) 0) ∧
    b.subscriptions.Sublist (changes.filterMap SubscriptionChange.made?) ∧
    ∀ s : Subscription η, s.TakenFrom b.subscriptions (b.unsubscribe s.event s.handler).subscriptions := by
  intro b
  have hperm : (b.called event).Perm (if event = everyEvent then b.due event ++ b.due event else b.due event) := by
    split
    · next h => rw [h, called_everyEvent]
    · next h => exact called_perm_due b h
  exact ⟨called_eq_due_iff b event, hperm, fun _ handle s => publish_run handle b event s, count_after changes,
    sublist_after changes, taken_unsubscribe b⟩

end EventBus

/-- A subscription to all events, and a younger one to one event. -/
def Sample.mixedBus : EventBus String := .after [.subscribe ⟨"*", "any"⟩, .subscribe ⟨"created", "named"⟩]

/-- The younger handler hears of its event first, and the older one hears twice of an event with the name of all. -/
theorem EventBus.younger_heard_first :
    (Sample.mixedBus.due "created").map (·.handler) = ["any", "named"] ∧
      Sample.mixedBus.recipients "created" = ["named", "any"] ∧
      (Sample.mixedBus.due "*").map (·.handler) = ["any"] ∧ Sample.mixedBus.recipients "*" = ["any", "any"] := by
  decide

end SupplyGate
