import Mathlib.Algebra.Order.Floor.Div
import Giro.Proofs.Clients
import Giro.Proofs.Consistency
import Giro.Proofs.Discretion
import Giro.Proofs.Outage

/-!
# Pages

The rows of a table are committed in any order, but stand in the order of their numbers. A listing
picks rows and shows them page by page, and going through the pages shows every row that is picked
once, in that order, with no short page but the last: `PagesOf`. A request for a page is answered
with it as long as its offset is a 64-bit number, and refused as invalid otherwise. What a client
reads off the answers to requests for all pages is the whole listing: `Service.GoesThrough`.
-/

namespace Giro

open Http Text

/-! ## Going through a list -/

/-- A window that is moved by its own height. -/
def Window.page (size i : Nat) : Window := ⟨size, i * size⟩

namespace Store

variable {ρ : Type} {id : ρ → Int} {rows : List ρ} {size : Nat}

theorem page_of (size i : Nat) (rows : List ρ) :
    (Window.page size i).of rows = (rows.drop (i * size)).take size := by
  rw [Window.of, Window.page, ← Int.natCast_mul, Int.toNat_natCast, Int.toNat_natCast]

theorem flatMap_page (size count : Nat) (rows : List ρ) :
    (List.range count).flatMap (fun i => (Window.page size i).of rows) =
      rows.take (count * size) := by
  induction count with
  | zero => simp
  | succ count ih =>
    rw [List.range_succ, List.flatMap_append, ih, List.flatMap_singleton, page_of, Nat.succ_mul,
      List.take_add]

/-- Pages of a size that go through all rows, in the order of their numbers. -/
structure PagesOf (id : ρ → Int) (rows : List ρ) (size : Nat) (page : Nat → List ρ) : Prop where
  increasing : rows.Pairwise fun a b => id a < id b
  whole : (List.range (rows.length ⌈/⌉ size)).flatMap page = rows
  full : ∀ i, i + 1 < rows.length ⌈/⌉ size → (page i).length = size
  beyond : ∀ i, rows.length ⌈/⌉ size ≤ i → page i = []

theorem pagesOf_page (positive : 0 < size) (increasing : rows.Pairwise fun a b => id a < id b) :
    PagesOf id rows size fun i => (Window.page size i).of rows := by
  have count_le_iff (i : Nat) : rows.length ⌈/⌉ size ≤ i ↔ rows.length ≤ i * size := by
    rw [ceilDiv_le_iff_le_mul positive, Nat.mul_comm]
  refine ⟨increasing, ?_, ?_, ?_⟩
  · rw [flatMap_page]
    exact List.take_of_length_le ((count_le_iff _).mp (Nat.le_refl _))
  · intro i hi
    have inside : (i + 1) * size < rows.length :=
      Nat.lt_of_not_le fun h => Nat.not_le_of_lt hi ((count_le_iff _).mpr h)
    rw [Nat.succ_mul] at inside
    rw [page_of, List.length_take, List.length_drop]
    omega
  · intro i hi
    rw [page_of, List.drop_of_length_le ((count_le_iff i).mp hi), List.take_nil]

/-! ## Tables in order -/

namespace Table

theorem sorted_insert {row : ρ} (h : rows.Pairwise fun a b => id a ≤ id b) :
    (insert id row rows).Pairwise fun a b => id a ≤ id b := by
  induction rows with
  | nil => simp [insert]
  | cons r rows ih =>
    obtain ⟨hr, hrows⟩ := List.pairwise_cons.mp h
    unfold insert
    split_ifs with before
    · refine List.pairwise_cons.mpr ⟨fun x hx => ?_, h⟩
      rcases List.mem_cons.mp hx with rfl | hx
      · exact Int.le_of_lt before
      · exact Int.le_trans (Int.le_of_lt before) (hr x hx)
    · refine List.pairwise_cons.mpr ⟨fun x hx => ?_, ih hrows⟩
      rcases List.mem_cons.mp ((perm_insert row rows).mem_iff.mp hx) with rfl | hx
      · exact Int.not_lt.mp before
      · exact hr x hx

theorem sorted_insertAll (new : List ρ) (h : rows.Pairwise fun a b => id a ≤ id b) :
    (insertAll id new rows).Pairwise fun a b => id a ≤ id b := by
  induction new generalizing rows with
  | nil => exact h
  | cons row new ih => exact ih (sorted_insert h)

theorem strictly_sorted (h : rows.Pairwise fun a b => id a ≤ id b) (nodup : (rows.map id).Nodup) :
    rows.Pairwise fun a b => id a < id b :=
  (h.and (List.pairwise_map.mp nodup)).imp fun ⟨le, ne⟩ => Int.lt_iff_le_and_ne.mpr ⟨le, ne⟩

end Table

/-- The rows of each table stand in the order of their numbers. -/
structure Sorted (s : Store) : Prop where
  accounts : s.tables.accounts.Pairwise fun a b => a.id ≤ b.id
  entries : s.tables.entries.Pairwise fun a b => a.id ≤ b.id
  transfers : s.tables.transfers.Pairwise fun a b => a.id ≤ b.id

end Store

namespace Traffic

theorem Effect.sorted {T T' : Traffic} {events : List Event} (effect : Effect T events T')
    (issued : ∀ a ∈ T.store.tables.accounts, a.id ≤ T.store.issued.account)
    (sorted : T.store.Sorted) : T'.store.Sorted := by
  obtain ⟨accounts, entries, transfers⟩ := sorted
  cases effect with
  | quiet | begin | queueAdd | queueDelete | cancel | discard =>
    exact ⟨accounts, entries, transfers⟩
  | createUser h =>
    obtain ⟨_, _, _, rfl⟩ := Store.createUser_eq_ok_iff.mp h
    exact ⟨accounts, entries, transfers⟩
  | createSession h =>
    rw [Store.createSession_eq_ok h]
    exact ⟨accounts, entries, transfers⟩
  | createAccount h =>
    obtain ⟨_, _, rfl, rfl⟩ := Store.createAccount_eq_ok_iff.mp h
    refine ⟨?_, entries, transfers⟩
    refine List.pairwise_append.mpr ⟨accounts, List.pairwise_singleton _ _, fun a ha b hb => ?_⟩
    rw [List.mem_singleton.mp hb]
    exact Int.le_add_one (issued a ha)
  | stageTransfer h =>
    constructor <;> rw [(Store.stageTransfer_keeps h).tables] <;> assumption
  | stageEntry h =>
    constructor <;> rw [(Store.stageEntry_keeps h).tables] <;> assumption
  | addStaged free htx hrow h =>
    constructor <;> rw [(Store.addStaged_keeps h).tables] <;> assumption
  | grantAdd holds h =>
    constructor <;> rw [(Store.addGranted_keeps h).tables] <;> assumption
  | grantDelete holds h =>
    rcases Store.deleteGranted_cases h with ⟨rfl, _⟩ | ⟨_, _, _, rfl⟩
    · exact ⟨accounts, entries, transfers⟩
    · exact ⟨accounts.sublist List.filter_sublist, entries, transfers⟩
  | @commit s ws t tx free htx =>
    refine ⟨?_, Store.Table.sorted_insertAll _ entries, Store.Table.sorted_insertAll _ transfers⟩
    change ((s.publish tx).tables.accounts).Pairwise _
    rw [Store.publish_accounts, List.pairwise_map]
    simpa using accounts

theorem Run.sorted {history : List Event} {T : Traffic} (run : Run history T) : T.store.Sorted :=
  (run.invariant (P := fun _ T => Orderly T.store T.waiting ∧ T.store.Sorted)
    ⟨orderly_empty, by constructor <;> simp [Store.empty]⟩
    fun ⟨o, sorted⟩ effect =>
      ⟨effect.orderly o, effect.sorted (fun a ha => (o.accounts_issued a ha).2) sorted⟩).2

end Traffic

/-! ## Requests for a page -/

theorem Page.window_eq_ok {p : Page} (id : 1 ≤ p.id) (short : 5 ≤ p.size) (long : p.size ≤ 10)
    (range : Amount.InRange ((p.id - 1) * p.size)) :
    p.window = .ok ⟨p.size, (p.id - 1) * p.size⟩ := by
  rw [window, if_neg (by omega), if_neg (by omega), if_pos range]

theorem Page.exists_window_error {p : Page}
    (h : ¬ (1 ≤ p.id ∧ 5 ≤ p.size ∧ p.size ≤ 10 ∧ Amount.InRange ((p.id - 1) * p.size))) :
    ∃ why, p.window = .error why := by
  unfold window
  split_ifs with id size range
  · exact ⟨_, rfl⟩
  · exact ⟨_, rfl⟩
  · exact absurd ⟨by omega, by omega, by omega, range⟩ h
  · exact ⟨_, rfl⟩

namespace Http

variable {s : Store} {now : Timestamp} {caller segment : String} {r : Request}

theorem run_ownedAccount {β : Type} {a : Account} (found : s.tables.account? a.id = some a)
    (positive : 1 ≤ a.id) (f : Account → Attempt Failure β) :
    Backend.memory.run now (ownedAccount a.owner a.id >>= f).run [] s =
      Backend.memory.run now (f a).run [] s := by
  have read : s.perform now (.getAccount a.id) = (s, .answered (.ok a)) := by
    simp [Store.perform, Store.getAccount, found]
  unfold ownedAccount
  rw [if_neg (by omega)]
  simp only [bind_assoc]
  rw [looksUp, Backend.run_read rfl read]
  simp only [ne_eq, not_true_eq_false, if_false, pure_bind]

theorem reads_ok {α β : Type} {part : Except Rejection α} {x : α} (h : part = .ok x)
    (f : α → Attempt Failure β) : (reads part >>= f) = f x := by
  rw [h]
  rfl

/-- The listing, from its window on. -/
theorem run_listEntries {a : Account} {q : Page} (found : s.tables.account? a.id = some a)
    (positive : 1 ≤ a.id) (path : pathId segment = .ok a.id) (query : page r = .ok q) :
    Backend.memory.run now (listEntries a.owner segment r).run [] s =
      (s, .finished <| match q.window with
        | .error why => .error (.refused (.invalid why))
        | .ok w => .ok (.ofJson 200 (.array ((s.listEntries a.id w).map Entry.json)))) := by
  unfold listEntries
  rw [reads_ok path, reads_ok query]
  cases q.window with
  | error why => rfl
  | ok w =>
    change Backend.memory.run now (ownedAccount a.owner a.id >>= fun _ => _).run [] s = _
    rw [run_ownedAccount found positive]
    rfl

/-- A request for the entries of an account, made by its owner. -/
structure Request.ListsEntries (r : Request) (service : Service) (now : Timestamp) (a : Account)
    (q : Page) : Prop where
  method : r.method = "GET"
  path : ∃ segment, Resource.ofPath? r.path = some (.entries segment) ∧ pathId segment = .ok a.id
  user : service.user? r now = some a.owner
  query : page r = .ok q

theorem run_respond_entries {service : Service} {a : Account} {q : Page}
    (found : s.tables.account? a.id = some a) (positive : 1 ≤ a.id)
    (asks : r.ListsEntries service now a q) (fresh : Fresh) :
    Backend.memory.run now (service.respond r fresh now) [] s =
      (s, .finished <| match q.window with
        | .error why => .ofNotice (Refusal.invalid why).notice
        | .ok w => .ofJson 200 (.array ((s.listEntries a.id w).map Entry.json))) := by
  obtain ⟨method, ⟨segment, path, hid⟩, user, query⟩ := asks
  have get : (Resource.entries segment).endpoint? r.method = some .listEntries := by
    rw [method]
    rfl
  have isProtected : (Resource.entries segment).isProtected := rfl
  have caller := Service.caller_of_user? isProtected user
  have listed : Backend.memory.run now (listEntries a.owner segment r).run [] s = _ :=
    run_listEntries found positive hid query
  have whole (response : Response) :
      (response.naming (.entries segment) r.method).headOnly r.method = response := by
    rw [naming_of_endpoint? get, Response.headOnly, if_neg (by rw [method]; decide)]
  rw [Service.respond_of_caller fresh path caller get, settled_eq, Backend.run_map,
    Backend.run_map]
  change ((Backend.memory.run now (listEntries a.owner segment r).run [] s).1,
    ((Backend.memory.run now (listEntries a.owner segment r).run [] s).2.map settlement).map _) = _
  rw [listed]
  cases q.window with
  | error why => simp only [Outcome.map, settlement, Failure.response, whole]
  | ok w => simp only [Outcome.map, settlement, whole]

end Http

/-! ## Answers -/

namespace Arrival

/-- A request of the owner of an account for a page of its entries, the offset of which is a 64-bit
number. -/
structure AsksForPage (v : Arrival) (service : Service) (a : Account) (size i : Nat) : Prop where
  range : Amount.InRange (i * size)
  lists : v.request.ListsEntries service v.now a ⟨i + 1, size⟩

/-- The store stays as it is, and the answer shows the entries. -/
def Shows (v : Arrival) (service : Service) (s : Store) (es : List Entry) : Prop :=
  ∃ response, Backend.memory.run v.now (service.respond v.request v.fresh v.now) [] s =
    (s, .finished response) ∧ response.entries? = some es

/-- The store stays as it is, and the answer says that the request is invalid. -/
def IsRefused (v : Arrival) (service : Service) (s : Store) : Prop :=
  ∃ response, Backend.memory.run v.now (service.respond v.request v.fresh v.now) [] s =
    (s, .finished response) ∧ response.status = 400 ∧ response.code? = some "invalid_request"

variable {v : Arrival} {service : Service} {s : Store} {es : List Entry}

theorem Shows.serve (shows : v.Shows service s es) (time : service.timeoutSeconds ≠ 0) :
    ∃ response, Backend.memory.serve service v.request v.fresh v.now s = (s, .ok response) ∧
      response.entries? = some es := by
  obtain ⟨response, run, listed⟩ := shows
  exact ⟨response, by rw [Backend.serve, if_neg time, run], listed⟩

/-- Requests that each leave the store as it is are answered one after another as alone. -/
theorem exists_serveAll {vs : List Arrival} {pages : List (List Entry)}
    (shows : List.Forall₂ (fun v es => v.Shows service s es) vs pages)
    (time : service.timeoutSeconds ≠ 0) :
    ∃ responses : List Response, Backend.memory.serveAll service vs s = (s, responses.map .ok) ∧
      responses.mapM Response.entries? = some pages := by
  induction shows with
  | nil => exact ⟨[], rfl, rfl⟩
  | cons shows _ ih =>
    obtain ⟨response, served, listed⟩ := shows.serve time
    obtain ⟨responses, later, rest⟩ := ih
    refine ⟨response :: responses, ?_, ?_⟩
    · simp only [Backend.serveAll, served, later, List.map_cons]
    · rw [List.mapM_cons, listed, rest]
      rfl

end Arrival

/-- The entries of an account. -/
def Store.entriesOf (s : Store) (account : Int) : List Entry :=
  s.tables.entries.filter fun e => e.account = account

/-- How the owner of an account goes through its entries. Every page shows its part of the listing,
the answers to requests for all pages make up the listing, and a page that there cannot be is
refused. -/
structure Service.GoesThrough (service : Service) (s : Store) (a : Account) : Prop where
  shown : ∀ size : Nat, 5 ≤ size → size ≤ 10 → ∀ (i : Nat) (v : Arrival),
    v.AsksForPage service a size i → v.Shows service s (s.listEntries a.id (.page size i))
  whole : ∀ size : Nat, 5 ≤ size → size ≤ 10 → service.timeoutSeconds ≠ 0 → ∀ vs : List Arrival,
    List.Forall₂ (fun v i => v.AsksForPage service a size i) vs
      (List.range ((s.entriesOf a.id).length ⌈/⌉ size)) →
    ∃ responses : List Response,
      Backend.memory.serveAll service vs s = (s, responses.map .ok) ∧
      (responses.mapM Response.entries?).map List.flatten = some (s.entriesOf a.id)
  refused : ∀ q : Page,
    ¬ (1 ≤ q.id ∧ 5 ≤ q.size ∧ q.size ≤ 10 ∧ Amount.InRange ((q.id - 1) * q.size)) →
    ∀ v : Arrival, v.request.ListsEntries service v.now a q → v.IsRefused service s

section GoesThrough

variable {service : Service} {s : Store} {a : Account} {size i : Nat} {v : Arrival}

theorem Arrival.AsksForPage.shows (asks : v.AsksForPage service a size i)
    (found : s.tables.account? a.id = some a) (positive : 1 ≤ a.id) (short : 5 ≤ size)
    (long : size ≤ 10) : v.Shows service s (s.listEntries a.id (.page size i)) := by
  have window : Page.window ⟨i + 1, size⟩ = .ok (.page size i) := by
    have offset : (i + 1 - 1 : Int) * size = i * size := by rw [Int.add_sub_cancel]
    rw [Page.window_eq_ok (by simp) (Int.ofNat_le.mpr short) (Int.ofNat_le.mpr long)
      (by rw [offset]; exact asks.range)]
    exact congrArg (fun n => Except.ok (Window.mk size n)) offset
  have answer := run_respond_entries found positive asks.lists v.fresh
  rw [window] at answer
  exact ⟨_, answer, Response.entries?_ofJson _⟩

theorem Service.goesThrough (found : s.tables.account? a.id = some a) (positive : 1 ≤ a.id)
    (pages : ∀ size, 0 < size → Store.PagesOf Entry.id (s.entriesOf a.id) size
      fun i => s.listEntries a.id (.page size i)) : service.GoesThrough s a where
  shown size short long i v asks := asks.shows found positive short long
  whole size short long time vs asks := by
    have shows : List.Forall₂ (fun v es => v.Shows service s es) vs
        ((List.range ((s.entriesOf a.id).length ⌈/⌉ size)).map
          fun i => s.listEntries a.id (.page size i)) :=
      List.forall₂_map_right_iff.mpr (asks.imp fun v i asks => asks.shows found positive short long)
    obtain ⟨responses, served, listed⟩ := Arrival.exists_serveAll shows time
    have pages := pages size (Nat.lt_of_lt_of_le (by decide) short)
    exact ⟨responses, served, by rw [listed, Option.map_some, ← List.flatMap_def, pages.whole]⟩
  refused q invalid v asks := by
    obtain ⟨why, refused⟩ := Page.exists_window_error invalid
    have answer := run_respond_entries found positive asks v.fresh
    rw [refused] at answer
    exact ⟨_, answer, rfl, Response.code?_ofNotice _⟩

end GoesThrough

/-! ## Writing a query -/

namespace Text

theorem utf8_ofList (cs : List Char) :
    utf8 (String.ofList cs) = cs.flatMap String.utf8EncodeChar := by
  rw [utf8, String.toByteArray_ofList, List.utf8Encode, List.data_toByteArray]

theorem utf8EncodeChar_of_lt {c : Char} (h : c.toNat < 128) :
    String.utf8EncodeChar c = [UInt8.ofNat c.toNat] := by
  have single : c.val.toNat ≤ 0x7f := Nat.le_of_lt_succ h
  simp only [String.utf8EncodeChar, single, if_true]
  rfl

end Text

namespace Http

/-- A character that stands for itself in a query: in ASCII, beyond the plus sign. -/
def IsPlain (c : Char) : Prop := 43 < c.toNat ∧ c.toNat < 128

theorem percentDecode_eq_self {bytes : List UInt8} (h : ∀ b ∈ bytes, b ≠ 37) :
    percentDecode bytes = bytes := by
  induction bytes with
  | nil => rfl
  | cons b bytes ih =>
    obtain ⟨hb, hbytes⟩ := List.forall_mem_cons.mp h
    rw [percentDecode, ih hbytes]
    rintro hi lo rest rfl
    exact absurd rfl hb

theorem decodePart_plain {cs : List Char} (h : ∀ c ∈ cs, IsPlain c) :
    decodePart cs = String.ofList cs := by
  have bytes : ∀ b ∈ utf8 (String.ofList cs), b ≠ 43 ∧ b ≠ 37 := by
    intro b hb
    rw [utf8_ofList] at hb
    obtain ⟨c, hc, hb⟩ := List.mem_flatMap.mp hb
    obtain ⟨lower, upper⟩ := h c hc
    rw [utf8EncodeChar_of_lt upper, List.mem_singleton] at hb
    have code : b.toNat = c.toNat := by
      rw [hb, UInt8.toNat_ofNat_of_lt' (Nat.lt_trans upper (by decide))]
    constructor
    · rintro rfl
      simp at code
      omega
    · rintro rfl
      simp at code
      omega
  have kept : (utf8 (String.ofList cs)).map (fun b => if b = 43 then 32 else b) =
      utf8 (String.ofList cs) := by
    refine (List.map_congr_left fun b hb => ?_).trans (List.map_id _)
    exact if_neg (bytes b hb).1
  unfold decodePart
  simp only [kept, percentDecode_eq_self fun b hb => (bytes b hb).2, ofUtf8?_utf8, Option.getD_some]

theorem isPlain_of_mem_write {n : Int} {c : Char} (h : c ∈ Integer.write n) : IsPlain c := by
  have ofDigits {m : Nat} (h : c ∈ Integer.digits m) : IsPlain c := by
    have digit := Integer.isDigit_of_mem_digits h
    unfold Integer.digit? at digit
    split_ifs at digit with range
    · obtain ⟨lower, upper⟩ := range
      exact ⟨Nat.lt_of_lt_of_le (by decide) lower, Nat.lt_of_le_of_lt upper (by decide)⟩
    · cases digit
  unfold Integer.write at h
  split_ifs at h
  · rcases List.mem_cons.mp h with rfl | h
    · exact ⟨by decide, by decide⟩
    · exact ofDigits h
  · exact ofDigits h

/-- A pair in a query. -/
def writePair (name value : List Char) : List Char := name ++ '=' :: value

theorem pairs_writePair {name name' value value' : List Char} (hname : ∀ c ∈ name, IsPlain c)
    (hvalue : ∀ c ∈ value, IsPlain c) (hname' : ∀ c ∈ name', IsPlain c)
    (hvalue' : ∀ c ∈ value', IsPlain c) (cut : '=' ∉ name) (cut' : '=' ∉ name') :
    pairs (String.ofList (writePair name value ++ '&' :: writePair name' value')) =
      [(String.ofList name, String.ofList value), (String.ofList name', String.ofList value')] := by
  have apart {name value : List Char} (hname : ∀ c ∈ name, IsPlain c)
      (hvalue : ∀ c ∈ value, IsPlain c) : '&' ∉ writePair name value := by
    have plain : ¬ IsPlain '&' := fun h => absurd h.1 (by decide)
    simp only [writePair, List.mem_append, List.mem_cons, not_or]
    exact ⟨fun h => plain (hname _ h), by decide, fun h => plain (hvalue _ h)⟩
  rw [pairs, String.toList_ofList, fields_append (apart hname hvalue),
    fields_of_not_mem (apart hname' hvalue'), List.filter_cons_of_pos (by simp [writePair]),
    List.filter_cons_of_pos (by simp [writePair]), List.filter_nil]
  simp only [List.map_cons, List.map_nil, writePair, cut?_append cut, cut?_append cut',
    decodePart_plain hname, decodePart_plain hvalue, decodePart_plain hname',
    decodePart_plain hvalue']

/-- The text that asks for a page. -/
def pageQuery (q : Page) : String :=
  String.ofList (writePair "page_id".toList (Integer.write q.id) ++
    '&' :: writePair "page_size".toList (Integer.write q.size))

/-- Every page with 64-bit numbers can be asked for. -/
theorem page_pageQuery (r : Request) {q : Page} (id : Integer.Format.signed64.Fits q.id)
    (size : Integer.Format.signed64.Fits q.size) :
    page { r with query := pageQuery q } = .ok q := by
  have readNumber (field : String) {n : Int} (h : Integer.Format.signed64.Fits n) :
      PageQuery.readNumber field (String.ofList (Integer.write n)) = .ok n := by
    rw [PageQuery.readNumber, String.toList_ofList, Integer.Format.read_write _ h]
    rfl
  have read : PageQuery.read (pageQuery q) = .ok q := by
    have written : pairs (pageQuery q) = [("page_id", String.ofList (Integer.write q.id)),
        ("page_size", String.ofList (Integer.write q.size))] :=
      pairs_writePair (by simp [IsPlain]) (fun _ => isPlain_of_mem_write)
        (by simp [IsPlain]) (fun _ => isPlain_of_mem_write) (by decide) (by decide)
    rw [PageQuery.read, written]
    simp only [List.foldlM_cons, List.foldlM_nil, PageQuery.take, readNumber _ id,
      readNumber _ size]
    rfl
  rw [page, read]
  rfl

end Http

/-! ## Every run -/

namespace Traffic

/-- In every store, each listing can be gone through page by page, and the owner of an account goes
so through its entries, by requests. -/
theorem Run.pages_partition {history : List Event} {s : Store} {ws : List Waiting}
    (run : Run history ⟨s, ws⟩) :
    (∀ owner size, 0 < size →
      Store.PagesOf Account.id (s.tables.accounts.filter fun a => a.owner = owner) size
        fun i => s.listAccounts owner (.page size i)) ∧
    (∀ account size, 0 < size →
      Store.PagesOf Entry.id (s.entriesOf account) size
        fun i => s.listEntries account (.page size i)) ∧
    (∀ source target size, 0 < size →
      Store.PagesOf Transfer.id
        (s.tables.transfers.filter fun f => f.source = source ∨ f.target = target) size
        fun i => s.listTransfers source target (.page size i)) ∧
    ∀ a ∈ s.tables.accounts, ∀ service : Service, service.GoesThrough s a := by
  have sorted := run.sorted
  have o := run.orderly
  have c := run.counted
  have accounts := Store.Table.strictly_sorted sorted.accounts o.accounts_nodup
  have entries := Store.Table.strictly_sorted sorted.entries
    (c.entries.of_subperm (List.sublist_append_left _ _).subperm).nodup
  have transfers := Store.Table.strictly_sorted sorted.transfers
    (c.transfers.of_subperm (List.sublist_append_left _ _).subperm).nodup
  have entryPages (account : Int) (size : Nat) (positive : 0 < size) :
      Store.PagesOf Entry.id (s.entriesOf account) size
        fun i => s.listEntries account (.page size i) :=
    Store.pagesOf_page positive (entries.sublist List.filter_sublist)
  refine ⟨?_, entryPages, ?_, ?_⟩
  · intro owner size positive
    exact Store.pagesOf_page positive (accounts.sublist List.filter_sublist)
  · intro source target size positive
    exact Store.pagesOf_page positive (transfers.sublist List.filter_sublist)
  · intro a ha service
    have found : s.tables.account? a.id = some a := find?_key_of_mem Account.id o.accounts_nodup ha
    exact Service.goesThrough found (o.accounts_issued a ha).1 (entryPages a.id)

def sampleEntries (q : Page) : Arrival where
  request := { sampleRequest "GET" "/accounts/1/entries" "" with query := pageQuery q }
  fresh := sampleFresh
  now := .epoch

theorem listsEntries_sampleEntries {q : Page} (id : Integer.Format.signed64.Fits q.id)
    (size : Integer.Format.signed64.Fits q.size) :
    (sampleEntries q).request.ListsEntries sampleService (sampleEntries q).now
      ⟨1, "ada", 0, .usd, .epoch⟩ q := by
  have path : Resource.ofPath? "/accounts/1/entries" = some (.entries "1") := by decide +kernel
  have segment : pathId "1" = .ok 1 := by rfl
  have headers : (sampleEntries q).request.headers =
      (sampleRequest "GET" "/accounts/1/entries" "").headers := rfl
  refine ⟨rfl, ⟨"1", path, segment⟩, ?_, page_pageQuery _ id size⟩
  change sampleService.user? (sampleEntries q).request .epoch = some "ada"
  rw [Service.user?_of_headers headers]
  exact user?_sampleRequest _ _ _

/-- Six entries are shown on a page of five and another one, and the last page that there could be
is too far. -/
theorem Run.pages_partition_of_six : ∃ history s, Run history ⟨s, []⟩ ∧
    (∃ responses : List Response,
      Backend.memory.serveAll sampleService [sampleEntries ⟨1, 5⟩, sampleEntries ⟨2, 5⟩] s =
        (s, responses.map .ok) ∧
      ((responses.mapM Response.entries?).map List.flatten).map (List.map Entry.id) =
        some [1, 2, 3, 4, 5, 6]) ∧
    (∃ e, e.id = 6 ∧ (sampleEntries ⟨2, 5⟩).Shows sampleService s [e]) ∧
    (sampleEntries ⟨3, 5⟩).Shows sampleService s [] ∧
    (sampleEntries ⟨9223372036854775807, 10⟩).IsRefused sampleService s := by
  have run := Run.start.call .epoch (.createUser ⟨"ada", "", "", ""⟩) (by decide) rfl
  have run := run.call .epoch (.createAccount ⟨"ada", .usd, 0⟩) (by decide) rfl
  have run := run.call .epoch .begin (by decide) rfl
  have run := run.call .epoch (.stageEntry 1 1 5) (by decide) rfl
  have run := run.call .epoch (.stageEntry 1 1 5) (by decide) rfl
  have run := run.call .epoch (.stageEntry 1 1 5) (by decide) rfl
  have run := run.call .epoch (.stageEntry 1 1 5) (by decide) rfl
  have run := run.call .epoch (.stageEntry 1 1 5) (by decide) rfl
  have run := run.call .epoch (.stageEntry 1 1 5) (by decide) rfl
  have run := run.call .epoch (.commit 1) (by decide) rfl
  have asks (i : Nat) (range : Amount.InRange (i * (5 : Nat)))
      (id : Integer.Format.signed64.Fits (i + 1)) :
      (sampleEntries ⟨i + 1, 5⟩).AsksForPage sampleService ⟨1, "ada", 0, .usd, .epoch⟩ 5 i :=
    ⟨range, listsEntries_sampleEntries id (by decide : Integer.Format.signed64.Fits 5)⟩
  have first := asks 0 (by decide) (by decide)
  have second := asks 1 (by decide) (by decide)
  have third := asks 2 (by decide) (by decide)
  obtain ⟨_, _, _, requests⟩ := run.pages_partition
  have account := requests ⟨1, "ada", 0, .usd, .epoch⟩ List.mem_cons_self sampleService
  have shown := account.shown 5 (by decide) (by decide)
  obtain ⟨responses, served, listed⟩ := account.whole 5 (by decide) (by decide) (by decide) _
    (.cons first (.cons second .nil))
  refine ⟨_, _, run, ⟨responses, served, ?_⟩, ⟨_, rfl, shown 1 _ second⟩, shown 2 _ third, ?_⟩
  · rw [listed]
    rfl
  · exact account.refused _ (by decide) _ (listsEntries_sampleEntries (by decide) (by decide))

end Traffic
end Giro
