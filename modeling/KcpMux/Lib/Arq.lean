import Mathlib.Data.List.Infix
import Mathlib.Data.Set.Insert
import Mathlib.Logic.Relation
import Mathlib.Tactic.Common

/-!
Selective repeat.

A sender numbers the items it has accepted and keeps each of them until it is acknowledged; a
receiver takes items in the order of their numbers and keeps those that come early.  Neither sees
the other: a sender may drop what the receiver *has*, and a receiver may take up what the sender
*offers*.  Both only become more (`Sender.Step.offers_mono`, `Receiver.Step.has_mono`), so a message
that was true when it was sent is true whenever it arrives, and however often.

`Agree` relates the two.  It is kept by the steps of either side (`Agree.sender`,
`Agree.receiver`), and says that what was taken is an initial part of what was accepted, and that
what was dropped has arrived (`Agree.complete`).
-/

namespace Arq

variable {α : Type*}

/-- A sender: what it has accepted, how much of it is numbered, and the numbers it still keeps. -/
structure Sender (α : Type*) where
  accepted : List α
  next : ℕ
  pending : Set ℕ

/-- A receiver: what it has taken in order, and what it keeps of the rest. -/
structure Receiver (α : Type*) where
  taken : List α
  ahead : Set (ℕ × α)

/-- The item that the sender has under a number. -/
def Sender.Offers (S : Sender α) (i : ℕ) (a : α) : Prop := i < S.next ∧ S.accepted[i]? = some a

/-- The item with this number has arrived. -/
def Receiver.Has (R : Receiver α) (i : ℕ) : Prop := i < R.taken.length ∨ ∃ a, (i, a) ∈ R.ahead

/-- The steps of a sender that believes that the items in `has` have arrived. -/
inductive Sender.Step (has : ℕ → Prop) : Sender α → Sender α → Prop
  | accept {S : Sender α} (a : α) : Step has S { S with accepted := S.accepted ++ [a] }
  | number {S : Sender α} (h : S.next < S.accepted.length) :
      Step has S { S with next := S.next + 1, pending := insert S.next S.pending }
  | drop {S : Sender α} {P : Set ℕ} (hP : P ⊆ S.pending) (h : ∀ i ∈ S.pending, i ∉ P → has i) :
      Step has S { S with pending := P }

/-- The steps of a receiver that believes that the items in `offers` are the sender's. -/
inductive Receiver.Step (offers : ℕ → α → Prop) : Receiver α → Receiver α → Prop
  | keep {R : Receiver α} {i : ℕ} {a : α} (h : offers i a) :
      Step offers R { R with ahead := insert (i, a) R.ahead }
  | take {R : Receiver α} {a : α} {A : Set (ℕ × α)} (h : (R.taken.length, a) ∈ R.ahead)
      (hA : A ⊆ R.ahead) (hrest : ∀ p ∈ R.ahead, p.1 ≠ R.taken.length → p ∈ A) :
      Step offers R { taken := R.taken ++ [a], ahead := A }

variable {S S' : Sender α} {R R' : Receiver α} {has : ℕ → Prop} {offers : ℕ → α → Prop} {i : ℕ} {a : α}

/-- What is offered once is offered for ever. -/
lemma Sender.Step.offers_mono (h : Sender.Step has S S') (ho : S.Offers i a) : S'.Offers i a := by
  cases h with
  | accept b =>
      refine ⟨ho.1, ?_⟩
      rw [List.getElem?_append_left (List.getElem?_eq_some_iff.mp ho.2).1]
      exact ho.2
  | number => exact ⟨ho.1.trans (Nat.lt_succ_self _), ho.2⟩
  | drop => exact ho

/-- What has arrived is never lost. -/
lemma Receiver.Step.has_mono (h : Receiver.Step offers R R') (hi : R.Has i) : R'.Has i := by
  cases h with
  | keep _ =>
      refine hi.imp_right fun hex => ?_
      obtain ⟨b, hb⟩ := hex
      exact ⟨b, Set.mem_insert_of_mem _ hb⟩
  | take _ _ hrest =>
      rw [Receiver.Has, List.length_append, List.length_singleton]
      rcases hi with hlt | ⟨b, hb⟩
      · exact Or.inl (hlt.trans (Nat.lt_succ_self _))
      · by_cases he : i = R.taken.length
        · exact Or.inl (by omega)
        · exact Or.inr ⟨b, hrest _ hb he⟩

lemma Receiver.Step.length_le (h : Receiver.Step offers R R') :
    R.taken.length ≤ R'.taken.length := by
  cases h with
  | keep => exact le_rfl
  | take => simp

lemma Sender.Step.accepted (h : Sender.Step has S S') : S.accepted <+: S'.accepted := by
  cases h with
  | accept b => exact List.prefix_append _ _
  | number => exact List.prefix_rfl
  | drop => exact List.prefix_rfl

/-! ### Several steps -/

open Relation (ReflTransGen)

lemma Sender.offers_of_steps (h : ReflTransGen (Sender.Step has) S S') (ho : S.Offers i a) :
    S'.Offers i a := by
  induction h with
  | refl => exact ho
  | tail _ ht ih => exact ht.offers_mono ih

lemma Receiver.has_of_steps (h : ReflTransGen (Receiver.Step offers) R R') (hi : R.Has i) :
    R'.Has i := by
  induction h with
  | refl => exact hi
  | tail _ ht ih => exact ht.has_mono ih

lemma Receiver.length_of_steps (h : ReflTransGen (Receiver.Step offers) R R') :
    R.taken.length ≤ R'.taken.length := by
  induction h with
  | refl => exact le_rfl
  | tail _ ht ih => exact ih.trans ht.length_le

/-- Several items are accepted one after the other. -/
lemma Sender.accepts (has : ℕ → Prop) (S : Sender α) (l : List α) :
    ReflTransGen (Sender.Step has) S { S with accepted := S.accepted ++ l } := by
  induction l generalizing S with
  | nil => rw [List.append_nil]
  | cons a l ih =>
      refine .head (.accept a) ?_
      have h := ih { S with accepted := S.accepted ++ [a] }
      rwa [List.append_assoc] at h

/-! ### The two ends -/

/-- A sender and a receiver at the two ends of a link. -/
structure Agree (S : Sender α) (R : Receiver α) : Prop where
  next : S.next ≤ S.accepted.length
  pending : ∀ i ∈ S.pending, i < S.next
  taken : R.taken <+: S.accepted
  length : R.taken.length ≤ S.next
  ahead : ∀ i a, (i, a) ∈ R.ahead → S.Offers i a
  kept : ∀ i < S.next, i ∉ S.pending → R.Has i

/-- At the beginning. -/
lemma Agree.init : Agree (α := α) ⟨[], 0, ∅⟩ ⟨[], ∅⟩ :=
  ⟨le_rfl, by simp, List.prefix_rfl, le_rfl, by simp, by simp⟩

/-- **A step of the sender**, which drops only what has arrived. -/
lemma Agree.sender (h : Agree S R) (hs : Sender.Step R.Has S S') : Agree S' R := by
  have hoff := fun i a => hs.offers_mono (i := i) (a := a)
  refine ⟨?_, ?_, h.taken.trans hs.accepted, ?_, fun i a hm => hoff i a (h.ahead i a hm), ?_⟩
  · cases hs with
    | accept => simpa using h.next.trans (Nat.le_succ _)
    | number hlt => exact hlt
    | drop => exact h.next
  · cases hs with
    | accept => exact h.pending
    | number =>
        intro i hi
        rcases hi with rfl | hi
        · exact Nat.lt_succ_self _
        · exact (h.pending i hi).trans (Nat.lt_succ_self _)
    | drop hP => exact fun i hi => h.pending i (hP hi)
  · cases hs with
    | accept => exact h.length
    | number => exact h.length.trans (Nat.le_succ _)
    | drop => exact h.length
  · cases hs with
    | accept => exact h.kept
    | number =>
        intro i hi hni
        refine h.kept i ?_ fun hm => hni (Set.mem_insert_of_mem _ hm)
        have hne : i ≠ S.next := fun he => hni (he ▸ Set.mem_insert _ _)
        exact lt_of_le_of_ne (Nat.lt_succ_iff.mp hi) hne
    | drop _ hhas =>
        intro i hi hni
        by_cases hm : i ∈ S.pending
        · exact hhas i hm hni
        · exact h.kept i hi hm

/-- **A step of the receiver**, which takes up only what is offered. -/
lemma Agree.receiver (h : Agree S R) (hr : Receiver.Step S.Offers R R') : Agree S R' := by
  have hkept : ∀ i < S.next, i ∉ S.pending → R'.Has i := fun i hi hn => hr.has_mono (h.kept i hi hn)
  cases hr with
  | keep ho =>
      refine ⟨h.next, h.pending, h.taken, h.length, fun i a hm => ?_, hkept⟩
      rcases hm with heq | hm
      · cases heq
        exact ho
      · exact h.ahead i a hm
  | @take a A hm hA =>
      obtain ⟨hlt, hget⟩ := h.ahead _ _ hm
      refine ⟨h.next, h.pending, ?_, ?_, fun i a hm => h.ahead i a (hA hm), hkept⟩
      · obtain ⟨rest, hrest⟩ := h.taken
        rw [← hrest, List.getElem?_append_right le_rfl, Nat.sub_self] at hget
        cases rest with
        | nil => simp at hget
        | cons b rest =>
            obtain rfl : b = a := by simpa using hget
            exact ⟨rest, by rw [← hrest, List.append_assoc]; rfl⟩
      · rw [List.length_append, List.length_singleton]
        exact hlt

lemma Agree.senders (h : Agree S R) (hs : ReflTransGen (Sender.Step R.Has) S S') : Agree S' R := by
  induction hs with
  | refl => exact h
  | tail _ ht ih => exact ih.sender ht

lemma Agree.receivers (h : Agree S R) (hr : ReflTransGen (Receiver.Step S.Offers) R R') :
    Agree S R' := by
  induction hr with
  | refl => exact h
  | tail _ ht ih => exact ih.receiver ht

/-- **Nothing is lost**: when the sender keeps nothing back, everything has arrived. -/
lemma Agree.complete (h : Agree S R) (hp : S.pending = ∅) (hn : S.next = S.accepted.length)
    (hi : i < S.accepted.length) : R.Has i :=
  h.kept i (hn ▸ hi) (by simp [hp])

end Arq
