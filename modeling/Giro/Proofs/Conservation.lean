import Giro.Proofs.Authority

/-!
# Money comes from nowhere

A bank that has started empty and has only served requests: requests open accounts with nothing in
them, and pay from an account to another in the same currency. So in each currency all accounts
together hold nothing, and neither does an account that goes, because what it held would be named in
the history, which keeps it.
-/

namespace Giro

open Http Text Traffic

/-- What all accounts in a currency hold together. -/
def Tables.held (t : Tables) (c : Currency) : Int :=
  ((t.accounts.filter fun a => a.currency = c).map fun a => a.balance.toInt).sum

namespace Account

variable {rows : List Account} {a x y : Account} {c : Currency}

/-- One account alone has a given id. -/
theorem sum_ite_id (nodup : (rows.map Account.id).Nodup) (hx : x ∈ rows) (p : Account → Bool)
    (n : Int) : ((rows.filter p).map fun z => if z.id = x.id then n else 0).sum =
      if p x then n else 0 := by
  have hperm := ((perm_cons_filter nodup hx).filter p).map fun z => if z.id = x.id then n else 0
  have hothers : (((rows.filter fun b => b.id ≠ x.id).filter p).map
      fun z => if z.id = x.id then n else 0).sum = 0 := by
    apply List.sum_eq_zero
    intro m hm
    obtain ⟨z, hz, rfl⟩ := List.mem_map.mp hm
    have hid : z.id ≠ x.id := by simpa using (List.mem_filter.mp (List.mem_of_mem_filter hz)).2
    exact if_neg hid
  rw [hperm.sum_eq, List.filter_cons]
  by_cases hp : p x
  · rw [if_pos hp, if_pos hp, List.map_cons, List.sum_cons, hothers, if_pos rfl]
    omega
  · rw [if_neg hp, if_neg hp, hothers]

/-- What leaves one account and arrives at another in the same currency stays in the currency. -/
theorem sum_moved {move : Account → Account} {amount : Int} (nodup : (rows.map Account.id).Nodup)
    (hx : x ∈ rows) (hy : y ∈ rows) (currency : x.currency = y.currency)
    (agrees : ∀ z, (move z).Agrees z)
    (balance : ∀ z ∈ rows, (move z).balance.toInt =
      z.balance.toInt - (if z.id = x.id then amount else 0) + if z.id = y.id then amount else 0) :
    (((rows.map move).filter fun a => a.currency = c).map fun a => a.balance.toInt).sum =
      ((rows.filter fun a => a.currency = c).map fun a => a.balance.toInt).sum := by
  have hcurrency : ∀ z, (move z).currency = z.currency := by
    intro z
    rw [(agrees z).eq]
  have hfilter : (rows.map move).filter (fun a => a.currency = c) =
      (rows.filter fun a => a.currency = c).map move := by
    rw [List.filter_map]
    simp only [Function.comp_def, hcurrency]
  have hmap : (rows.filter fun a => a.currency = c).map (fun z => (move z).balance.toInt) =
      (rows.filter fun a => a.currency = c).map fun z =>
        z.balance.toInt + (-(if z.id = x.id then amount else 0) +
          if z.id = y.id then amount else 0) := by
    apply List.map_congr_left
    intro z hz
    rw [balance z (List.mem_of_mem_filter hz)]
    omega
  have hneg : ∀ z : Account, -(if z.id = x.id then amount else 0) =
      if z.id = x.id then -amount else 0 := by
    intro z
    split <;> omega
  rw [hfilter, List.map_map]
  simp only [Function.comp_def, hmap, hneg, List.sum_map_add, sum_ite_id nodup hx,
    sum_ite_id nodup hy, currency]
  split <;> omega

end Account

/-- The books of a store whose accounts were all opened empty, with nothing held in any currency. -/
structure Store.Level (s : Store) : Prop where
  books : ∃ os, Pool.Books os s ∧ ∀ opening ∈ os, opening.balance = 0
  held : ∀ c, s.tables.held c = 0

namespace Store.Level

variable {s s' : Store} {ws : List Waiting} {service : Service} {v : Visit} (level : Level s)
include level

/-- An account that history does not name has never held anything. -/
theorem balance_eq_zero {a : Account} (ha : a ∈ s.tables.accounts)
    (unnamed : ¬ s.tables.IsReferenced a.id) : a.balance = 0 := by
  obtain ⟨os, books, openings⟩ := level.books
  obtain ⟨opening, hopening, _, hbalance⟩ := books.balance a ha
  have hentries : Entry.sumOn a.id s.tables.entries = 0 :=
    Entry.sumOn_eq_zero fun e he hid => unnamed (Or.inl ⟨e, he, hid⟩)
  rw [openings opening hopening, hentries] at hbalance
  exact Int64.toInt_inj.mp (by simpa using hbalance)

theorem books_commits (ord : Orderly s ws) (commits : v.Commits service s s') :
    ∃ os, Pool.Books os s' ∧ ∀ opening ∈ os, opening.balance = 0 := by
  obtain ⟨os, books, openings⟩ := level.books
  cases commits with
  | nothing accounts entries transfers issued =>
    exact ⟨os, books.of_tables accounts entries transfers issued, openings⟩
  | job covers stand writes =>
    obtain ⟨admission, _, covers⟩ := covers
    cases covers with
    | openAccount =>
      cases writes with
      | @openAccount _ _ _ _ a hs =>
        obtain ⟨_, _, ha, _⟩ := Store.createAccount_eq_ok_iff.mp hs
        refine ⟨a :: os, books.openAccount ord hs, List.forall_mem_cons.mpr ⟨?_, openings⟩⟩
        rw [ha]
    | closeAccount => exact ⟨os, books.closeAccount writes, openings⟩
    | pay => exact ⟨os, books.transfer ord writes, openings⟩

theorem held_deed (ord : Orderly s ws) (deed : v.Deed service s s') (c : Currency) :
    s'.tables.held c = 0 := by
  rw [← level.held c]
  unfold Tables.held
  cases deed with
  | nothing accounts => rw [accounts]
  | @opened _ _ a _ _ _ balance _ accounts =>
    rw [accounts, List.filter_append, List.map_append, List.sum_append]
    by_cases hc : a.currency = c <;> simp [hc, balance]
  | @closed _ _ a _ _ _ mem _ unnamed accounts =>
    have hzero := level.balance_eq_zero mem unnamed
    have hperm := ((perm_cons_filter ord.accounts_nodup mem).filter
      fun b => b.currency = c).map fun b => b.balance.toInt
    rw [accounts, hperm.sum_eq]
    by_cases hc : a.currency = c <;> simp [hc, hzero]
  | paid _ _ _ _ source source_id _ target target_id _ _ source_currency target_currency _ _ _
      accounts agrees balance =>
    have hcurrency := source_currency.trans target_currency.symm
    rw [accounts]
    apply Account.sum_moved ord.accounts_nodup source target ?_ agrees
    · intro z hz
      rw [source_id, target_id]
      exact balance z hz
    · exact Option.some.inj (by rw [← Currency.ofCode?_code, hcurrency, Currency.ofCode?_code])

theorem commits (ord : Orderly s ws) (commits : v.Commits service s s') : Level s' :=
  ⟨level.books_commits ord commits, level.held_deed ord (commits.deed ord)⟩

end Store.Level

namespace Bank

variable {service : Service} {b : Bank}

theorem Run.level (run : Run service .empty b) : b.store.Level := by
  induction run with
  | start =>
    refine ⟨⟨[], ?_, fun _ h => absurd h List.not_mem_nil⟩, fun c => rfl⟩
    constructor <;> simp [Store.empty]
  | step run step ih =>
    obtain ⟨ws, ord⟩ := run.orderly Store.settled_empty
    exact ih.commits ord (run.commits Store.settled_empty step)

/-- A bank that started empty and only serves requests holds nothing in any currency, and neither
does any account that one of its steps removes. -/
theorem Run.conserved (run : Run service .empty b) :
    (∀ c, b.store.tables.held c = 0) ∧
    ∀ (v : Visit) (b' : Bank), Step service b v b' → ∀ a ∈ b.store.tables.accounts,
      b'.store.tables.account? a.id = none → a.balance = 0 := by
  have level := run.level
  obtain ⟨ws, ord⟩ := run.orderly Store.settled_empty
  refine ⟨level.held, fun v b' step a ha gone => ?_⟩
  have stays : ∀ a' ∈ b'.store.tables.accounts, a'.id ≠ a.id :=
    Store.Table.find?_eq_none_iff.mp gone
  have deed := (run.commits Store.settled_empty step).deed ord
  cases deed with
  | nothing accounts => exact absurd rfl (stays a (accounts ▸ ha))
  | opened _ _ _ _ _ accounts =>
    exact absurd rfl (stays a (accounts ▸ List.mem_append_left _ ha))
  | @closed _ _ x _ _ _ hx _ unnamed accounts =>
    have hid : a.id = x.id := by
      by_contra hne
      exact stays a (accounts ▸ List.mem_filter.mpr ⟨ha, by simpa using hne⟩) rfl
    rw [ord.eq_of_account_id ha hx hid]
    exact level.balance_eq_zero hx unnamed
  | @paid _ _ _ _ _ _ _ _ _ move _ _ _ _ _ _ _ _ _ _ _ _ _ _ _ _ accounts agrees =>
    exact absurd (agrees a).id_eq (stays (move a) (accounts ▸ List.mem_map_of_mem ha))

/-! ### An account that is opened and closed -/

def sampleRegistration : Request :=
  sampleRequest "POST" "/users"
    ("\x7b\"username\":\"ada\",\"password\":\"secret\"," ++
      "\"full_name\":\"Ada\",\"email\":\"ada@a.org\"\x7d")

def sampleOpening : Request := sampleRequest "POST" "/accounts" "\x7b\"currency\":\"USD\"\x7d"

def sampleClosing : Request := sampleRequest "DELETE" "/accounts/1" ""

theorem Run.conserved_of_closed :
    ∃ b v b', Run sampleService .empty b ∧ Step sampleService b v b' ∧
      ∃ a ∈ b.store.tables.accounts, b'.store.tables.account? a.id = none ∧ a.balance = 0 := by
  have opens : sampleService.caller .accounts sampleOpening .epoch = .ok "ada" :=
    Service.caller_of_user? rfl (user?_sampleRequest _ _ _)
  have closes : sampleService.caller (.account "1") sampleClosing .epoch = .ok "ada" :=
    Service.caller_of_user? rfl (user?_sampleRequest _ _ _)
  have registered := (@Run.start sampleService .empty).alone_once sampleRegistration
    sampleFresh .epoch (List.isEmpty_iff.mp (by decide +kernel))
  have opened := registered.alone_once sampleOpening sampleFresh .epoch (by
    rw [alone_of_caller sampleFresh 1 (by decide +kernel) opens rfl]
    exact List.isEmpty_iff.mp (by decide +kernel))
  have run := opened.alone sampleClosing sampleFresh .epoch 1
  generalize hb : Bank.alone sampleService _ sampleClosing sampleFresh .epoch 1 = b at run
  have facts : (b.visits[0]?).isSome ∧ b.store.tables.accounts = [⟨1, "ada", 0, .usd, .epoch⟩] ∧
      (b.turn .epoch 0).store.tables.account? 1 = none := by
    rw [← hb, alone_of_caller sampleFresh 1 (by decide +kernel) closes rfl,
      alone_of_caller sampleFresh 1 (by decide +kernel) opens rfl]
    decide +kernel
  obtain ⟨hsome, hmem, hgone⟩ := facts
  obtain ⟨v, hv⟩ := Option.isSome_iff_exists.mp hsome
  have ha : ⟨1, "ada", 0, .usd, .epoch⟩ ∈ b.store.tables.accounts := by
    rw [hmem]
    exact List.mem_singleton_self _
  have step := Step.turn sampleService hv .epoch
  exact ⟨b, v, _, run, step, _, ha, hgone, run.conserved.2 v _ step _ ha hgone⟩

end Bank

end Giro
