import Giro.Proofs.Authority
import Giro.Proofs.Progress

/-!
# Transactions that do not meet

Two scripts that change the balances of different accounts, at a store where nobody else has these
accounts, may make their calls in any order. `Duet.Sound` says at every point of such an order what
each of them has staged and published, which depends on nothing but the store at which both have
started. Hence no call waits, and all orders end with the same answers and with the same rows.
-/

namespace Giro

open Traffic

/-! ## Balances that a transaction publishes -/

namespace Transaction

variable {a b : Transaction}

theorem publish_comm (apart : ∀ id, a.row? id = none ∨ b.row? id = none) (x : Account) :
    a.publish (b.publish x) = b.publish (a.publish x) := by
  rcases apart x.id with h | h
  · have h' : a.row? (b.publish x).id = none := by rwa [id_publish]
    rw [publish_eq_self h, publish_eq_self h']
  · have h' : b.row? (a.publish x).id = none := by rwa [id_publish]
    rw [publish_eq_self h, publish_eq_self h']

theorem find?_map_publish (tx : Transaction) (id : Int) (rows : List Account) :
    Store.Table.find? Account.id id (rows.map tx.publish) =
      (Store.Table.find? Account.id id rows).map tx.publish := by
  have same : ((fun r => Account.id r == id) ∘ tx.publish) = fun r => Account.id r == id := by
    funext r
    simp
  rw [Store.Table.find?, List.find?_map, same]
  rfl

end Transaction

/-! ## Two programs in turn -/

structure Duet where
  store : Store
  left : Outcome Answers
  right : Outcome Answers

inductive Side where
  | left
  | right
  deriving DecidableEq

namespace Duet

def start (p q : Script) (s : Store) : Duet :=
  ⟨s, .blocked ⟨p.program, none, []⟩, .blocked ⟨q.program, none, []⟩⟩

def turn (now : Timestamp) (d : Duet) : Side → Option Duet
  | .left => (Backend.advance? now d.left d.store).map fun (s, o) => ⟨s, o, d.right⟩
  | .right => (Backend.advance? now d.right d.store).map fun (s, o) => ⟨s, d.left, o⟩

/-- Calls in an order, each at its time, as long as none has to wait. -/
def play : List (Side × Timestamp) → Duet → Option Duet
  | [], d => some d
  | (side, now) :: order, d => (d.turn now side).bind (play order)

/-- How many calls of an order are of one side. -/
def calls (side : Side) (order : List (Side × Timestamp)) : Nat :=
  order.countP fun c => c.1 = side

theorem calls_cons_left (now : Timestamp) (order : List (Side × Timestamp)) :
    calls .left ((.left, now) :: order) = calls .left order + 1 ∧
      calls .right ((.left, now) :: order) = calls .right order := by
  simp [calls]

theorem calls_cons_right (now : Timestamp) (order : List (Side × Timestamp)) :
    calls .left ((.right, now) :: order) = calls .left order ∧
      calls .right ((.right, now) :: order) = calls .right order + 1 := by
  simp [calls]

def swap (d : Duet) : Duet := ⟨d.store, d.right, d.left⟩

theorem turn_right (now : Timestamp) (d : Duet) :
    d.turn now .right = (d.swap.turn now .left).map swap := by
  simp only [turn, Option.map_map]
  rfl

/-- Two scripts at a store at which both of them have started, with so many calls left. -/
structure Sound (s₀ : Store) (ws : List Waiting) (p q : Script) (m n : Nat) (d : Duet) : Prop where
  orderly : Orderly d.store ws
  left : p.Part s₀.tables.account? ws d.store m d.left
  right : q.Part s₀.tables.account? ws d.store n d.right
  apart : ∀ t ∈ d.left.opened, t ∉ d.right.opened
  users : d.store.tables.users = s₀.tables.users
  accounts : d.store.tables.accounts =
    (s₀.tables.accounts.map (p.publishedAt s₀.tables.account? m).publish).map
      (q.publishedAt s₀.tables.account? n).publish
  entries : (d.store.tables.entries.map Entry.plain).Perm
    ((p.publishedAt s₀.tables.account? m).entries ++
      ((q.publishedAt s₀.tables.account? n).entries ++ s₀.tables.entries.map Entry.plain))
  transfers : (d.store.tables.transfers.map Transfer.plain).Perm
    ((p.publishedAt s₀.tables.account? m).transfers ++
      ((q.publishedAt s₀.tables.account? n).transfers ++ s₀.tables.transfers.map Transfer.plain))
  issued : d.store.issued.account = s₀.issued.account

namespace Sound

variable {s₀ : Store} {ws : List Waiting} {p q : Script} {m n : Nat} {d : Duet}

theorem named (s₀ : Store) : ∀ n a, s₀.tables.account? n = some a → a.id = n :=
  fun _ _ h => (Tables.mem_of_account? h).2

theorem start (ord : Orderly s₀ ws) (unlocked : ∀ id ∈ p.rows ++ q.rows, s₀.Unlocked ws id) :
    Sound s₀ ws p q p.length q.length (Duet.start p q s₀) where
  orderly := ord
  left := Script.part_fresh ord fun id hid => unlocked id (List.mem_append_left _ hid)
  right := Script.part_fresh ord fun id hid => unlocked id (List.mem_append_right _ hid)
  apart _ ht := absurd ht List.not_mem_nil
  users := rfl
  accounts := by
    simp only [Script.length, Script.publishedAt_succ, Transaction.map_publish_empty]
    rfl
  entries := by
    simp only [Script.length, Script.publishedAt_succ]
    exact .refl _
  transfers := by
    simp only [Script.length, Script.publishedAt_succ]
    exact .refl _
  issued := rfl

section Apart

variable (disjoint : p.rows.Disjoint q.rows)
include disjoint

theorem publish_comm (s₀ : Store) (m n : Nat) (x : Account) :
    (p.publishedAt s₀.tables.account? m).publish ((q.publishedAt s₀.tables.account? n).publish x) =
      (q.publishedAt s₀.tables.account? n).publish
        ((p.publishedAt s₀.tables.account? m).publish x) := by
  apply Transaction.publish_comm
  intro id
  by_contra both
  obtain ⟨hp, hq⟩ := not_or.mp both
  exact disjoint (Script.mem_rows_of_publishedAt (named s₀) hp)
    (Script.mem_rows_of_publishedAt (named s₀) hq)

theorem swap (sound : Sound s₀ ws p q m n d) : Sound s₀ ws q p n m d.swap where
  orderly := sound.orderly
  left := sound.right
  right := sound.left
  apart t hright hleft := sound.apart t hleft hright
  users := sound.users
  accounts := by
    rw [List.map_map]
    refine sound.accounts.trans ?_
    rw [List.map_map]
    exact List.map_congr_left fun x _ => (publish_comm disjoint s₀ m n x).symm
  entries := sound.entries.trans (List.perm_append_comm_assoc _ _ _)
  transfers := sound.transfers.trans (List.perm_append_comm_assoc _ _ _)
  issued := sound.issued

/-- What the other script has published is none of this one's rows. -/
theorem sees (sound : Sound s₀ ws p q (m + 1) n d) :
    p.Sees s₀.tables.account? d.store := by
  have found (id : Int) : d.store.tables.account? id =
      (s₀.tables.account? id).map (q.publishedAt s₀.tables.account? n).publish := by
    rw [Tables.account?, sound.accounts, Script.publishedAt_succ, Transaction.map_publish_empty]
    exact Transaction.find?_map_publish _ id _
  constructor
  · intro id
    rw [found, Option.isNone_map]
  · intro id hid
    rw [found]
    cases h : s₀.tables.account? id with
    | none => rfl
    | some x =>
      have untouched : (q.publishedAt s₀.tables.account? n).row? x.id = none := by
        by_contra hrow
        exact disjoint hid (named s₀ id x h ▸ Script.mem_rows_of_publishedAt (named s₀) hrow)
      rw [Option.map_some, Transaction.publish_eq_self untouched]

theorem turn_left (sound : Sound s₀ ws p q (m + 1) n d) (now : Timestamp) :
    ∃ d', d.turn now .left = some d' ∧ Sound s₀ ws p q m n d' := by
  obtain ⟨s', o', hadvance, ord', part', takes⟩ :=
    sound.left.advance sound.orderly (sound.sees disjoint) (named s₀) now
  refine ⟨⟨s', o', d.right⟩, by simp only [Duet.turn, hadvance, Option.map_some], ?_⟩
  exact {
    orderly := ord'
    left := part'
    right := by
      apply sound.right.frame takes.lockable
      · intro tx htx hright
        exact takes.transactions tx htx fun hleft => sound.apart _ hleft hright
      · intro r hr hrow
        rcases takes.requests r hr with old | own
        · exact old
        · exact absurd hrow (disjoint own)
    apart := by
      intro t ht hright
      rcases takes.opened t ht with old | new
      · exact sound.apart t old hright
      -- A new ticket is larger than that of any open transaction.
      · obtain ⟨_, tx, htx, rfl, _⟩ := sound.right.progress.exists_shows t hright
        have := sound.orderly.transactions_issued tx htx
        omega
    users := takes.users.trans sound.users
    accounts := by
      rw [takes.accounts, sound.accounts, Script.publishedAt_succ, Transaction.map_publish_empty,
        List.map_map, List.map_map]
      apply List.map_congr_left
      intro x _
      exact publish_comm disjoint s₀ m n x
    entries := by
      apply takes.entries.trans
      apply List.Perm.append_left
      simpa using sound.entries
    transfers := by
      apply takes.transfers.trans
      apply List.Perm.append_left
      simpa using sound.transfers
    issued := takes.issued.trans sound.issued }

theorem turn_right (sound : Sound s₀ ws p q m (n + 1) d) (now : Timestamp) :
    ∃ d', d.turn now .right = some d' ∧ Sound s₀ ws p q m n d' := by
  obtain ⟨d', hturn, sound'⟩ := turn_left (List.disjoint_symm disjoint) (sound.swap disjoint) now
  refine ⟨d'.swap, ?_, sound'.swap (List.disjoint_symm disjoint)⟩
  rw [Duet.turn_right, hturn]
  rfl

/-- In whatever order the calls are made, none of them waits. -/
theorem play (order : List (Side × Timestamp))
    (sound : Sound s₀ ws p q (calls .left order) (calls .right order) d) :
    ∃ d', Duet.play order d = some d' ∧ Sound s₀ ws p q 0 0 d' := by
  induction order generalizing d with
  | nil => exact ⟨d, rfl, sound⟩
  | cons c order ih =>
    obtain ⟨side, now⟩ := c
    cases side with
    | left =>
      obtain ⟨hleft, hright⟩ := calls_cons_left now order
      rw [hleft, hright] at sound
      obtain ⟨d', hturn, sound'⟩ := turn_left disjoint sound now
      obtain ⟨u, hplay, sound''⟩ := ih sound'
      exact ⟨u, by rw [Duet.play, hturn]; exact hplay, sound''⟩
    | right =>
      obtain ⟨hleft, hright⟩ := calls_cons_right now order
      rw [hleft, hright] at sound
      obtain ⟨d', hturn, sound'⟩ := turn_right disjoint sound now
      obtain ⟨u, hplay, sound''⟩ := ih sound'
      exact ⟨u, by rw [Duet.play, hturn]; exact hplay, sound''⟩

/-- Left alone, the first script comes to its end at once. -/
theorem go_left {s : Store} {task : Task Answers} {right : Outcome Answers}
    (sound : Sound s₀ ws p q m n ⟨s, .blocked task, right⟩) (now : Timestamp) :
    ∃ s' a, Backend.memory.go now task s = (s', .finished a) ∧
      Sound s₀ ws p q 0 n ⟨s', .finished a, right⟩ := by
  induction m generalizing s task with
  -- A script without any calls left has ended, and is no task any more.
  | zero => cases sound.left.progress.eq_finished
  | succ m ih =>
    obtain ⟨⟨s', o', right'⟩, hturn, sound'⟩ := turn_left disjoint sound now
    obtain ⟨⟨_, _⟩, hadvance, heq⟩ := Option.map_eq_some_iff.mp hturn
    cases heq
    have hgo := Backend.go_of_advance? hadvance
    cases o' with
    | finished a =>
      cases sound'.left.progress.eq_zero
      exact ⟨s', a, hgo, sound'⟩
    | overflow why => cases sound'.left.progress
    | blocked rest =>
      obtain ⟨u, a, hrest, sound''⟩ := ih sound'
      exact ⟨u, a, hgo.trans hrest, sound''⟩

end Apart

/-- The store and the answers are settled by how far both have come. -/
theorem alike {d' : Duet} (sound : Sound s₀ ws p q m n d) (sound' : Sound s₀ ws p q m n d') :
    d.store.Alike d'.store where
  users := by rw [sound.users, sound'.users]
  accounts := by rw [sound.accounts, sound'.accounts]
  entries := sound.entries.trans sound'.entries.symm
  transfers := sound.transfers.trans sound'.transfers.symm
  issued := by rw [sound.issued, sound'.issued]

theorem eq_finished (sound : Sound s₀ ws p q 0 0 d) :
    d = ⟨d.store, .finished (p.outcome s₀.tables.account?).1,
      .finished (q.outcome s₀.tables.account?).1⟩ := by
  obtain ⟨store, left, right⟩ := d
  cases sound.left.progress.eq_finished
  cases sound.right.progress.eq_finished
  rfl

end Sound
end Duet

/-! ## One after the other -/

/-- One script runs to its end before another starts, at whatever times, with these answers and to
a store like this one. -/
def Script.Precedes (p q : Script) (a b : Answers) (s u : Store) : Prop :=
  ∀ now now', ∃ s₁ s₂, Backend.memory.run now p.program [] s = (s₁, .finished a) ∧
    Backend.memory.run now' q.program [] s₁ = (s₂, .finished b) ∧ s₂.Alike u

theorem Script.precedes {p q : Script} {s : Store} {ws : List Waiting} {d : Duet}
    (disjoint : p.rows.Disjoint q.rows)
    (start : Duet.Sound s ws p q p.length q.length (.start p q s))
    (final : Duet.Sound s ws p q 0 0 d) :
    p.Precedes q (p.outcome s.tables.account?).1 (q.outcome s.tables.account?).1 s d.store := by
  intro now now'
  obtain ⟨s₁, a, hp, amid⟩ := Duet.Sound.go_left disjoint start now
  obtain ⟨s₂, b, hq, swapped⟩ :=
    Duet.Sound.go_left (List.disjoint_symm disjoint) (amid.swap disjoint) now'
  have sound := swapped.swap (List.disjoint_symm disjoint)
  cases sound.left.progress.eq_finished
  cases sound.right.progress.eq_finished
  exact ⟨s₁, s₂, hp, hq, sound.alike final⟩

/-- An addition waits exactly while another open transaction has the row, or a deletion has come to
it; a deletion waits exactly while any of them has; no other call ever waits, and to drop a
transaction is not even a call. Transactions that change the balances of different accounts, which
nobody else has, make their calls in any order without waiting, and all is answered and left as if
one had run after the other. -/
theorem Traffic.Run.contend_or_commute {history : List Event} {s : Store} {ws : List Waiting}
    (run : Run history ⟨s, ws⟩) :
    (∀ t id amount now, (s.transaction? t).isSome → Free t ws →
      (s.Waits now (.addBalance t id amount) ↔
        (∃ u, u ≠ t ∧ s.LockedBy u id) ∨ s.Closing ws id)) ∧
    (∀ id now, s.Waits now (.deleteAccount id) ↔ (∃ u, s.LockedBy u id) ∨ s.Closing ws id) ∧
    (∀ c now, c.purpose? = none → ¬ s.Waits now c) ∧
    ∀ p q : Script, p.rows.Disjoint q.rows → (∀ id ∈ p.rows ++ q.rows, s.Unlocked ws id) →
      ∀ order, Duet.calls .left order = p.length → Duet.calls .right order = q.length →
        ∃ u a b, (Duet.start p q s).play order = some ⟨u, .finished a, .finished b⟩ ∧
          p.Precedes q a b s u ∧ q.Precedes p b a s u := by
  have ord : Orderly s ws := run.orderly
  refine ⟨?_, ?_, ?_, ?_⟩
  · intro t id amount now isOpen free
    exact ord.waits_addBalance_iff isOpen free
  · intro id now
    exact ord.waits_deleteAccount_iff
  · intro c now hc
    exact Store.not_waits hc
  · intro p q disjoint unlocked order hleft hright
    have start : Duet.Sound s ws p q p.length q.length (.start p q s) := .start ord unlocked
    obtain ⟨d, hplay, final⟩ := Duet.Sound.play disjoint order (by rw [hleft, hright]; exact start)
    rw [final.eq_finished] at hplay
    refine ⟨_, _, _, hplay, Script.precedes disjoint start final, ?_⟩
    have swapped : Duet.Sound s ws q p 0 0 d.swap := final.swap disjoint
    exact Script.precedes (d := d.swap) (List.disjoint_symm disjoint) (start.swap disjoint) swapped

/-- A deposit, and below it a payment from another account. -/
def sampleDeposit : Script := ⟨[.entry 1 5, .add 1 5], true⟩

def sampleTransfer : Script := ⟨[.transfer 2 1 3, .add 2 (-3)], true⟩

def sampleTurns : List (Side × Timestamp) :=
  [(.left, .epoch), (.right, .epoch), (.right, .epoch), (.left, .epoch), (.right, .epoch),
    (.left, .epoch), (.left, .epoch), (.right, .epoch)]

/-- Both are made in turn, and leave what they leave one after the other. -/
theorem Traffic.Run.contend_or_commute_of_turns :
    (∃ history, Run history ⟨sampleStore, []⟩) ∧
    ∃ u a b, (Duet.start sampleDeposit sampleTransfer sampleStore).play sampleTurns =
        some ⟨u, .finished a, .finished b⟩ ∧
      (u.tables.accounts.map fun x => x.balance.toInt) = [5, -3] ∧
      sampleDeposit.Precedes sampleTransfer a b sampleStore u ∧
      sampleTransfer.Precedes sampleDeposit b a sampleStore u := by
  have settled := settled_sampleStore
  obtain ⟨⟨history, run⟩, _⟩ := id settled
  obtain ⟨_, _, _, commute⟩ := run.contend_or_commute
  have balances : ((Duet.start sampleDeposit sampleTransfer sampleStore).play sampleTurns).map
      (fun d => d.store.tables.accounts.map fun x => x.balance.toInt) = some [5, -3] := by
    rfl
  have disjoint : sampleDeposit.rows.Disjoint sampleTransfer.rows := by
    intro id hdeposit htransfer
    have : (1 : Int) = 2 :=
      (List.mem_singleton.mp hdeposit).symm.trans (List.mem_singleton.mp htransfer)
    contradiction
  obtain ⟨u, a, b, hplay, both⟩ :=
    commute sampleDeposit sampleTransfer disjoint (fun id _ => settled.unlocked id) sampleTurns
      rfl rfl
  rw [hplay] at balances
  exact ⟨⟨history, run⟩, u, a, b, hplay, Option.some.inj balances, both⟩

end Giro
