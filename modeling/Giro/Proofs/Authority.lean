import Giro.Proofs.Bank
import Giro.Proofs.DoubleEntry

/-!
# On whose authority

What is committed for a request, by the user whose token it carries. The checks are reads that come
before the commit, so they count because nothing makes them untrue: accounts keep their owner and
their currency, and an id is given out once. `Bank.Run.authorised` says it of every step of every
bank.
-/

namespace Giro

open Http Text Traffic

namespace Payment

variable {p : Payment} {currency : Currency}

theorem check_eq_ok_iff : p.check = .ok currency ↔
    ¬ (p.source ≤ 0 ∨ p.target ≤ 0) ∧ ¬ p.amount ≤ 0 ∧ p.source ≠ p.target ∧
      Currency.ofCode? p.currency = some currency := by
  unfold check
  rw [Store.ite_error_eq_ok_iff, Store.ite_error_eq_ok_iff, Store.ite_error_eq_ok_iff]
  refine and_congr_right fun _ => and_congr_right fun _ => and_congr_right fun _ => ?_
  cases Currency.ofCode? p.currency <;> simp

end Payment

namespace Visit

variable {service : Service} {v : Visit} {s s' : Store}

/-- What a request may have committed for a user, with all that makes it right at that moment. -/
inductive Deed (service : Service) (v : Visit) (s s' : Store) : Prop where
  | nothing (accounts : s'.tables.accounts = s.tables.accounts)
      (entries : s'.tables.entries = s.tables.entries)
      (transfers : s'.tables.transfers = s.tables.transfers)
  | opened {caller segment : String} {a : Account}
      (admitted : service.admit? v.request v.arrived = some ⟨.createAccount, caller, segment⟩)
      (user : service.user? v.request v.arrived = some caller) (owner : a.owner = caller)
      (balance : a.balance = 0) (fresh : ∀ b ∈ s.tables.accounts, b.id ≠ a.id)
      (accounts : s'.tables.accounts = s.tables.accounts ++ [a])
      (entries : s'.tables.entries = s.tables.entries)
      (transfers : s'.tables.transfers = s.tables.transfers)
  | closed {caller segment : String} {a : Account}
      (admitted : service.admit? v.request v.arrived = some ⟨.deleteAccount, caller, segment⟩)
      (user : service.user? v.request v.arrived = some caller)
      (path : pathId segment = .ok a.id) (mem : a ∈ s.tables.accounts) (owner : a.owner = caller)
      (unnamed : ¬ s.tables.IsReferenced a.id)
      (accounts : s'.tables.accounts = s.tables.accounts.filter fun b => b.id ≠ a.id)
      (entries : s'.tables.entries = s.tables.entries)
      (transfers : s'.tables.transfers = s.tables.transfers)
  | paid {caller segment : String} {fields : List Json.FieldValue} {p : Payment} {x y : Account}
      {f : Transfer} {d c : Entry} {move : Account → Account}
      (admitted : service.admit? v.request v.arrived = some ⟨.createTransfer, caller, segment⟩)
      (user : service.user? v.request v.arrived = some caller)
      (body : record paymentSchema v.request = .ok fields) (payment : p = paymentOf fields)
      (source : x ∈ s.tables.accounts) (source_id : x.id = p.source) (owner : x.owner = caller)
      (target : y ∈ s.tables.accounts) (target_id : y.id = p.target) (distinct : x.id ≠ y.id)
      (positive : 0 < p.amount.toInt) (source_currency : x.currency.code = p.currency)
      (target_currency : y.currency.code = p.currency)
      (transfer : f.source = p.source ∧ f.target = p.target ∧ f.amount = p.amount)
      (debit : d.account = p.source ∧ d.amount.toInt = -p.amount.toInt)
      (credit : c.account = p.target ∧ c.amount = p.amount)
      (accounts : s'.tables.accounts = s.tables.accounts.map move)
      (agrees : ∀ z, (move z).Agrees z)
      (balance : ∀ z ∈ s.tables.accounts, (move z).balance.toInt =
        z.balance.toInt - (if z.id = p.source then p.amount.toInt else 0) +
          if z.id = p.target then p.amount.toInt else 0)
      (entries : s'.tables.entries.Perm (d :: c :: s.tables.entries))
      (transfers : s'.tables.transfers.Perm (f :: s.tables.transfers))

theorem agrees_setBalance_twice (a b z : Account) :
    (Transaction.setBalance b.id b.balance (Transaction.setBalance a.id a.balance z)).Agrees z :=
  Transaction.agrees_setBalance (Transaction.agrees_setBalance (Account.agrees_refl z))

theorem Commits.deed {ws : List Waiting} (commits : Commits service v s s') (ord : Orderly s ws) :
    Deed service v s s' := by
  cases commits with
  | nothing accounts entries transfers _ => exact .nothing accounts entries transfers
  | job covers stand writes =>
    obtain ⟨admission, admitted, covers⟩ := covers
    cases covers with
    | openAccount body code =>
      have user := Service.user?_of_admit? admitted (Or.inl rfl)
      cases writes with
      | openAccount hs =>
        obtain ⟨_, _, ha, rfl⟩ := Store.createAccount_eq_ok_iff.mp hs
        refine .opened admitted user (by rw [ha]) (by rw [ha]) ?_ rfl rfl rfl
        intro b hb hid
        have hissued := (ord.accounts_issued b hb).2
        rw [hid, ha] at hissued
        simp only at hissued
        omega
    | @closeAccount caller segment titles id t path told named owner =>
      have user := Service.user?_of_admit? admitted (Or.inr (Or.inl rfl))
      cases writes with
      | closeAccount exists_account unnamed tables issued =>
        obtain ⟨a, ha⟩ := Option.isSome_iff_exists.mp exists_account
        obtain ⟨mem, rfl⟩ := Tables.mem_of_account? ha
        have stands := (stand t told).2 a mem named.symm
        exact .closed admitted user path mem (stands.1.trans owner) unnamed (by rw [tables])
          (by rw [tables]) (by rw [tables])
    | @pay caller segment titles fields p currency t u body payment check source source_id owner
        source_currency target target_id target_currency =>
      have user := Service.user?_of_admit? admitted (Or.inr (Or.inr rfl))
      obtain ⟨_, _, distinct, code⟩ := Payment.check_eq_ok_iff.mp check
      cases writes with
      | @transfer _ _ _ f d c a b ordered records debit credit first second tables issued =>
        have hpos : 0 < p.amount.toInt := TransferOrder.amount_pos ordered
        obtain ⟨⟨x, hx, hxid⟩, y, hy, hyid⟩ := p.order.exists_sides first second
        have xstands := (stand t source).2 x hx (hxid.trans source_id.symm)
        have ystands := (stand u target).2 y hy (hyid.trans target_id.symm)
        have hcode := Currency.code_of_ofCode? code
        have moved : s'.tables.accounts = s.tables.accounts.map fun z =>
            Transaction.setBalance b.id b.balance (Transaction.setBalance a.id a.balance z) := by
          rw [tables, List.map_map]
          rfl
        have entries : s'.tables.entries.Perm (d :: c :: s.tables.entries) := by
          rw [tables]
          exact Store.Table.perm_insertAll _ _
        have transfers : s'.tables.transfers.Perm (f :: s.tables.transfers) := by
          rw [tables]
          exact Store.Table.perm_insertAll _ _
        refine .paid admitted user body payment hx hxid (xstands.1.trans owner) hy hyid ?_ hpos ?_
          ?_ records ?_ credit moved (agrees_setBalance_twice a b) ?_ entries transfers
        · rw [hxid, hyid]
          exact distinct
        · rw [xstands.2, source_currency, hcode]
        · rw [ystands.2, target_currency, hcode]
        · obtain ⟨hd, hamount⟩ := debit
          rw [hamount]
          exact ⟨hd, Amount.toInt_neg_of_pos hpos⟩
        · intro z hz
          have hchange := TransferOrder.balance_change ord.accounts_nodup hpos first second hz
          simp only [Payment.order, eq_comm (b := z.id), Amount.toInt_neg_of_pos hpos] at hchange
          rw [hchange]
          omega

/-- An account is credited with a new transfer from an account of the one who asks. -/
structure Credits (service : Service) (v : Visit) (s s' : Store) (a : Account) (f : Transfer)
    (x b : Account) : Prop where
  committed : s'.tables.transfers.Perm (f :: s.tables.transfers)
  source : x ∈ s.tables.accounts ∧ x.id = f.source
  owner : service.user? v.request v.arrived = some x.owner
  target : f.target = a.id
  positive : 0 < f.amount.toInt
  mem : b ∈ s'.tables.accounts
  agrees : b.Agrees a
  balance : b.balance.toInt = a.balance.toInt + f.amount.toInt

theorem Deed.spares_or_credits {ws : List Waiting} (deed : Deed service v s s')
    (ord : Orderly s ws) {a : Account} (ha : a ∈ s.tables.accounts)
    (foreign : service.user? v.request v.arrived ≠ some a.owner) :
    a ∈ s'.tables.accounts ∨ ∃ f x b, Credits service v s s' a f x b := by
  cases deed with
  | nothing accounts => exact Or.inl (accounts ▸ ha)
  | opened _ _ _ _ _ accounts =>
    rw [accounts]
    exact Or.inl (List.mem_append_left _ ha)
  | @closed _ _ x _ user _ hx owner _ accounts =>
    left
    rw [accounts]
    refine List.mem_filter.mpr ⟨ha, ?_⟩
    have : a.id ≠ x.id := by
      intro hid
      rw [ord.eq_of_account_id ha hx hid, owner] at foreign
      exact foreign user
    simpa using this
  | @paid _ _ _ p x _ f _ _ move _ user _ _ hx hxid owner _ _ _ hpos _ _ transfer _ _ accounts
      agrees balance _ transfers =>
    have hsource : a.id ≠ p.source := by
      intro hid
      rw [ord.eq_of_account_id ha hx (hid.trans hxid.symm), owner] at foreign
      exact foreign user
    have hmem : move a ∈ s'.tables.accounts := by
      rw [accounts]
      exact List.mem_map_of_mem ha
    have hbalance := balance a ha
    rw [if_neg hsource] at hbalance
    by_cases htarget : a.id = p.target
    · rw [if_pos htarget] at hbalance
      refine Or.inr ⟨f, x, move a, transfers, ⟨hx, ?_⟩, ?_, ?_, ?_, hmem, agrees a, ?_⟩
      · rw [transfer.1, hxid]
      · rw [user, owner]
      · rw [transfer.2.1, htarget]
      · rwa [transfer.2.2]
      · rw [transfer.2.2]
        omega
    · rw [if_neg htarget] at hbalance
      left
      have hsame : (move a).balance = a.balance := Int64.toInt_inj.mp (by omega)
      have : move a = a := by rw [(agrees a).eq, hsame]
      rwa [this] at hmem

end Visit

/-- Whatever happens at a bank at the same time, a step of a request commits nothing or one deed,
and all that makes it right holds at that moment. An account of somebody else stays as it is, unless
it is credited with a transfer from an account of the one who asks. -/
theorem Bank.Run.authorised {service : Service} {s₀ : Store} {b b' : Bank} {v : Visit}
    (settled : s₀.Settled) (run : Bank.Run service s₀ b) (step : Bank.Step service b v b') :
    v.Deed service b.store b'.store ∧
    ∀ a ∈ b.store.tables.accounts, service.user? v.request v.arrived ≠ some a.owner →
      a ∈ b'.store.tables.accounts ∨
        ∃ f x a', v.Credits service b.store b'.store a f x a' := by
  obtain ⟨ws, ord⟩ := run.orderly settled
  have deed := (run.commits settled step).deed ord
  exact ⟨deed, fun a ha foreign => deed.spares_or_credits ord ha foreign⟩

/-! ### A payment from one user to another -/

def samplePayment : Request :=
  sampleRequest "POST" "/transfers"
    "\x7b\"from_account_id\":1,\"to_account_id\":2,\"amount\":10,\"currency\":\"USD\"\x7d"

def sampleStore : Store where
  tables.users := [⟨"ada", "", "", "a", .epoch, .epoch⟩, ⟨"bob", "", "", "b", .epoch, .epoch⟩]
  tables.accounts := [⟨1, "ada", 0, .usd, .epoch⟩, ⟨2, "bob", 0, .usd, .epoch⟩]
  issued.account := 2
  lockable := [2, 1]

theorem settled_sampleStore : sampleStore.Settled := by
  have run := Traffic.Run.start.call .epoch (.createUser ⟨"ada", "", "", "a"⟩) (by decide) rfl
  have run := run.call .epoch (.createUser ⟨"bob", "", "", "b"⟩) (by decide) rfl
  have run := run.call .epoch (.createAccount ⟨"ada", .usd, 0⟩) (by decide) rfl
  have run := run.call .epoch (.createAccount ⟨"bob", .usd, 0⟩) (by decide) rfl
  exact ⟨⟨_, run⟩, rfl⟩

namespace Bank

/-- A payment is committed with its ninth call, and credits an account of somebody else. -/
theorem Run.authorised_of_payment :
    ∃ b v b', Run sampleService sampleStore b ∧ Step sampleService b v b' ∧
      ∃ f x a, v.Credits sampleService b.store b'.store ⟨2, "bob", 0, .usd, .epoch⟩ f x a := by
  have user : sampleService.user? samplePayment .epoch = some "ada" := user?_sampleRequest _ _ _
  have caller : sampleService.caller .transfers samplePayment .epoch = .ok "ada" :=
    Service.caller_of_user? rfl user
  have run := (@Run.start sampleService sampleStore).alone samplePayment sampleFresh .epoch 8
  generalize hb : Bank.alone sampleService sampleStore samplePayment sampleFresh .epoch 8 = b at run
  have facts : (b.visits[0]?).isSome ∧
      ⟨2, "bob", 0, .usd, .epoch⟩ ∈ b.store.tables.accounts ∧
      ⟨2, "bob", 0, .usd, .epoch⟩ ∉ (b.turn .epoch 0).store.tables.accounts := by
    rw [← hb, alone_of_caller sampleFresh 8 (by decide +kernel) caller rfl]
    decide +kernel
  obtain ⟨hsome, hmem, hgone⟩ := facts
  obtain ⟨v, hv⟩ := Option.isSome_iff_exists.mp hsome
  have request := request_of_mem_alone v (hb ▸ List.mem_of_getElem? hv)
  have step := Step.turn sampleService hv .epoch
  have credits := (run.authorised settled_sampleStore step).2 _ hmem
  rw [request.1, request.2, user] at credits
  exact ⟨b, v, _, run, step, (credits (by simp)).resolve_left hgone⟩

end Bank

end Giro
