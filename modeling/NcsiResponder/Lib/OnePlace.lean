import Mathlib.Data.List.Chain

/-!
# A mailbox with one place

A producer puts items into a single place, and a consumer takes what it finds there.
Putting does not wait: an item that has not been taken is overwritten. Every item that is
not overwritten is taken once and in order (`after_items`), and nothing is lost exactly
when no item is put right after another one (`kept_eq_puts_iff`). Histories are listed
newest first.
-/

namespace OnePlace

variable {α : Type*}

inductive Event (α : Type*) where
  | put (item : α)
  | take

/-- The place, and the items taken from it, newest first. -/
structure Mailbox (α : Type*) where
  place : Option α
  taken : List α

namespace Mailbox

def empty : Mailbox α := ⟨none, []⟩

/-- What an event does to the mailbox. -/
def react (b : Mailbox α) : Event α → Mailbox α
  | .put item => { b with place := some item }
  | .take => ⟨none, b.place.toList ++ b.taken⟩

end Mailbox

/-- The mailbox after these events. -/
def after (events : List (Event α)) : Mailbox α := events.foldr (fun e b => b.react e) .empty

/-- The items that were put. -/
def puts (events : List (Event α)) : List α :=
  events.filterMap fun
    | .put item => some item
    | .take => none

/-- The items that were not overwritten: putting right after putting overwrites. -/
def kept : List (Event α) → List α
  | [] => []
  | .take :: events => kept events
  | .put item :: .put item' :: events => item :: (kept (.put item' :: events)).tail
  | .put item :: events => item :: kept events

/-- Two events that do not overwrite an item. -/
def Gentle : Event α → Event α → Prop
  | .put _, .put _ => False
  | _, _ => True

theorem kept_take (events : List (Event α)) : kept (.take :: events) = kept events := by
  rw [kept]

/-- An item that was put just now lies in the place. -/
theorem kept_put_put (item item' : α) (events : List (Event α)) :
    kept (.put item :: .put item' :: events) = item :: (kept (.put item' :: events)).tail := by
  rw [kept]

theorem kept_put_take (item : α) (events : List (Event α)) :
    kept (.put item :: .take :: events) = item :: kept events := by
  rw [kept, kept_take]
  rintro _ _ ⟨⟩

/-- **Once and in order**: what lies in the place and what was taken are the items that were
    not overwritten. -/
theorem after_items (events : List (Event α)) :
    (after events).place.toList ++ (after events).taken = kept events := by
  induction events with
  | nil => rfl
  | cons e events ih =>
    cases e with
    | take => rw [kept_take, ← ih]; rfl
    | put item =>
      -- what lay in the place before, if anything, is the newest item kept so far
      cases events with
      | nil => rfl
      | cons e' events =>
        cases e' with
        | take => rw [kept_put_take, ← kept_take, ← ih]; rfl
        | put item' => rw [kept_put_put, ← ih]; rfl

/-- Nothing appears that was not put. -/
theorem kept_sublist (events : List (Event α)) : (kept events).Sublist (puts events) := by
  induction events with
  | nil => exact List.Sublist.refl []
  | cons e events ih =>
    cases e with
    | take => rw [kept_take]; exact ih
    | put item =>
      cases events with
      | nil => exact List.Sublist.refl [item]
      | cons e' events =>
        cases e' with
        | take => rw [kept_put_take, ← kept_take]; exact ih.cons_cons item
        | put item' => rw [kept_put_put]; exact ((List.tail_sublist _).trans ih).cons_cons item

/-- A take loses nothing. -/
theorem isChain_take (events : List (Event α)) :
    (Event.take :: events).IsChain Gentle ↔ events.IsChain Gentle := by
  cases events with
  | nil => simp
  | cons e events => simp [List.isChain_cons_cons, Gentle]

/-- **When nothing is lost**: no item was put right after another one. -/
theorem kept_eq_puts_iff (events : List (Event α)) :
    kept events = puts events ↔ events.IsChain Gentle := by
  induction events with
  | nil => simp [kept, puts]
  | cons e events ih =>
    cases e with
    | take => rw [isChain_take, ← ih, kept_take]; rfl
    | put item =>
      cases events with
      | nil => simp [kept, puts]
      | cons e' events =>
        rw [List.isChain_cons_cons, ← ih]
        cases e' with
        | take =>
          have hputs : puts (.put item :: .take :: events) = item :: puts (.take :: events) := rfl
          rw [kept_put_take, ← kept_take, hputs, List.cons_inj_right]
          simp [Gentle]
        | put item' =>
          -- the item before is gone, so there are fewer than were put
          have hputs : puts (.put item :: .put item' :: events) =
              item :: puts (.put item' :: events) := rfl
          have hle := (kept_sublist (.put item' :: events)).length_le
          have hpos : 0 < (kept (.put item' :: events)).length := by
            cases events with
            | nil => exact Nat.zero_lt_one
            | cons e'' _ =>
              cases e'' with
              | take => rw [kept_put_take]; exact Nat.succ_pos _
              | put _ => rw [kept_put_put]; exact Nat.succ_pos _
          rw [kept_put_put, hputs, List.cons_inj_right]
          constructor
          · intro hsame
            have hlength := congrArg List.length hsame
            rw [List.length_tail] at hlength
            omega
          · exact fun h => absurd h.1 id

end OnePlace
