import Mathlib.Data.Set.Basic

/-!
Two parties and a network between them.

The network may lose, repeat, delay and reorder messages, but it neither forges nor alters
them: at any time it may hand a party any message that the other one has sent so far.
`Reachable.knows` is the rule for what a party can have learned: an invariant of one party over
the messages it is handed holds, in every reachable pair, for the messages the other one has
sent.
-/

namespace Network

/-- A party: the states it starts in, the steps it takes on its own, what it does with a message,
and what it has sent. -/
structure Party (S M : Type*) where
  init : S → Prop
  act : S → S → Prop
  receive : M → S → S → Prop
  sent : S → Set M

variable {S T M : Type*} {P : Party S M} {Q : Party T M} {s : S} {t : T}

/-- The states two parties reach together. -/
inductive Reachable (P : Party S M) (Q : Party T M) : S → T → Prop
  | init {s : S} {t : T} (hs : P.init s) (ht : Q.init t) : Reachable P Q s t
  | left {s s' : S} {t : T} (h : Reachable P Q s t) (hs : P.act s s') : Reachable P Q s' t
  | right {s : S} {t t' : T} (h : Reachable P Q s t) (ht : Q.act t t') : Reachable P Q s t'
  | toLeft {s s' : S} {t : T} {m : M} (h : Reachable P Q s t) (hm : m ∈ Q.sent t)
      (hs : P.receive m s s') : Reachable P Q s' t
  | toRight {s : S} {t t' : T} {m : M} (h : Reachable P Q s t) (hm : m ∈ P.sent s)
      (ht : Q.receive m t t') : Reachable P Q s t'

lemma Reachable.symm (h : Reachable P Q s t) : Reachable Q P t s := by
  induction h with
  | init hs ht => exact .init ht hs
  | left _ hs ih => exact ih.right hs
  | right _ ht ih => exact ih.left ht
  | toLeft _ hm hs ih => exact ih.toRight hm hs
  | toRight _ hm ht ih => exact ih.toLeft hm ht

/-- **What a party knows.**  Let `I D` be an invariant of the left party as long as every message
it is handed is in `D`.  Then `I` holds for the messages the right party has sent, provided that
these can only become more along the right party's steps from states with the invariant `J`. -/
theorem Reachable.knows {I : Set M → S → Prop} {J : T → Prop} (h : Reachable P Q s t)
    (mono : ∀ D D' s, D ⊆ D' → I D s → I D' s) (hinit : ∀ D s, P.init s → I D s)
    (hact : ∀ D s s', I D s → P.act s s' → I D s')
    (hreceive : ∀ D s s' m, I D s → m ∈ D → P.receive m s s' → I D s')
    (jinit : ∀ t, Q.init t → J t)
    (jact : ∀ t t', J t → Q.act t t' → J t' ∧ Q.sent t ⊆ Q.sent t')
    (jreceive : ∀ t t' m, J t → Q.receive m t t' → J t' ∧ Q.sent t ⊆ Q.sent t') :
    I (Q.sent t) s ∧ J t := by
  induction h with
  | init hs ht => exact ⟨hinit _ _ hs, jinit _ ht⟩
  | left _ hs ih => exact ⟨hact _ _ _ ih.1 hs, ih.2⟩
  | right _ ht ih =>
      obtain ⟨hj, hsub⟩ := jact _ _ ih.2 ht
      exact ⟨mono _ _ _ hsub ih.1, hj⟩
  | toLeft _ hm hs ih => exact ⟨hreceive _ _ _ _ ih.1 hm hs, ih.2⟩
  | toRight _ _ ht ih =>
      obtain ⟨hj, hsub⟩ := jreceive _ _ _ ih.2 ht
      exact ⟨mono _ _ _ hsub ih.1, hj⟩

end Network
