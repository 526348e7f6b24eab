import IrisService.Library.MovingPages
import IrisService.Listings.Repositories
import IrisService.Rest.Footprints

/-! A client that reads a listing page by page while others write. Offsets count rows, so what others delete or create in
the meantime moves the rows that the client has still to read. -/

namespace IrisService.Listings
open ReadCommitted Runs Rest

/-! ### The listings -/

/-- The listings that are cut into pages. -/
inductive Listing where
  | orders
  | ordersFor (productId : Nat)
  | products (search : Option String)
  | customers (search : Option String)

namespace Listing

/-- The identities on a page. -/
def page (case : Str.CaseMapping) {v : View Row} (scan : Scan v) (page size : Nat) : Listing → List Nat
  | orders => (OrderRepository.listPaginated scan page size).1.map Prod.fst
  | ordersFor productId => (OrderRepository.listByProductId scan productId page size).1.map Prod.fst
  | products search => (ProductRepository.listPaginated case scan page size search).1.map Prod.fst
  | customers search => (CustomerRepository.findAll case scan page size search).1.map Prod.fst

/-- The row with this identity belongs to the listing. -/
def Lists (case : Str.CaseMapping) (rows : Rows Row) : Listing → Nat → Prop
  | orders, id => rows .orders id ≠ none
  | ordersFor productId, id => rows .orders id ≠ none ∧
      ∃ lineId l, rows .orderLine lineId = some l ∧ OrderLine.orderId l = id ∧ OrderLine.productId l = productId
  | products search, id =>
      ∃ p, rows .product id = some p ∧ ∀ c ∈ ProductRepository.condition case search, c (id, p) = some true
  | customers search, id =>
    ∃ c, rows .customer id = some c ∧ ∀ cond ∈ CustomerRepository.condition case search, cond (id, c) = some true

/-- Orders come newest first, products and customers oldest first. -/
def Before : Listing → Nat → Nat → Prop
  | orders, a, b | ordersFor _, a, b => b < a
  | products _, a, b | customers _, a, b => a < b

/-- The call may take a row out of the listing. -/
def loses (case : Str.CaseMapping) : Listing → Call → Bool
  | orders, .request (.deleteOrder _) => true
  | ordersFor _, .request (.deleteOrder _) | ordersFor _, .request (.deleteLine _ _) => true
  | products _, .request (.deleteProduct _) => true
  | products search, .request (.updateProduct _ _) => (ProductRepository.condition case search).isSome
  | customers _, .request (.deleteCustomer _) => true
  | customers search, .request (.updateCustomer _ _) | customers search, .request (.patchCustomer _ _) =>
    (CustomerRepository.condition case search).isSome
  | _, _ => false

/-- The call may bring a row into the listing. -/
def gains (case : Str.CaseMapping) : Listing → Call → Bool
  | orders, .request (.createOrder _) | orders, .mcpCreateOrder _ => true
  | ordersFor _, .request (.createOrder _) | ordersFor _, .mcpCreateOrder _ => true
  | ordersFor productId, .request (.addLine _ payload) => payload.productId = productId
  | products _, .request (.createProduct _) => true
  | products search, .request (.updateProduct _ _) => (ProductRepository.condition case search).isSome
  | customers _, .request (.createCustomer _) => true
  | customers search, .request (.updateCustomer _ _) | customers search, .request (.patchCustomer _ _) =>
    (CustomerRepository.condition case search).isSome
  | _, _ => false

theorem before_asymm (listing : Listing) (a b : Nat) (h : listing.Before a b) : ¬listing.Before b a := by
  cases listing <;> exact Nat.lt_asymm h

end Listing

/-! ### One page -/

section Books
variable (case : Str.CaseMapping) {v : View Row} (scan : Scan v)

/-- Orders with a line for the product, as `SELECT DISTINCT` has them. -/
theorem mem_joined (hused : v.Used) {productId : Nat} {o : Nat × Order} :
    o ∈ ((OrderRepository.joinLines scan productId).map Prod.fst).dedup ↔ v.rows .orders o.1 = some o.2 ∧
      ∃ lineId l, v.rows .orderLine lineId = some l ∧ OrderLine.orderId l = o.1 ∧ OrderLine.productId l = productId := by
  rw [List.mem_dedup, List.mem_map]
  simp only [OrderRepository.joinLines, List.mem_filter, List.mem_flatMap, List.mem_map, decide_eq_true_eq]
  constructor
  · rintro ⟨r, ⟨⟨o', ho', l, ⟨hl, horder⟩, rfl⟩, hproduct⟩, rfl⟩
    exact ⟨(scan.mem_rows hused).mp ho', l.1, l.2, (scan.mem_rows hused).mp hl, horder, hproduct⟩
  · rintro ⟨ho, lineId, l, hl, horder, hproduct⟩
    exact ⟨(o, (lineId, l)), ⟨⟨o, (scan.mem_rows hused).mpr ho, (lineId, l), ⟨(scan.mem_rows hused).mpr hl, horder⟩, rfl⟩,
      hproduct⟩, rfl⟩

/-- A key is joined with one row. -/
theorem keys_joined (hused : v.Used) (productId : Nat) :
    ((((OrderRepository.joinLines scan productId).map Prod.fst).dedup).map Prod.fst).Nodup := by
  refine (List.nodup_dedup _).map_on fun o ho o' ho' hkey => ?_
  have hrow := ((mem_joined scan hused).mp ho).1
  have hrow' := ((mem_joined scan hused).mp ho').1
  rw [← hkey, hrow] at hrow'
  exact Prod.ext hkey (Option.some.inj hrow')

variable {α κ : Type} [LinearOrder κ] {key : Nat → κ} {found : List (Nat × α)}

/-- The pages of a statement that is sorted by a key read from the identity. -/
theorem exists_book (hkey : key.Injective) (hkeys : (found.map Prod.fst).Nodup) :
    ∃ book : List Nat, (book.Pairwise fun a b => key a < key b) ∧ (∀ id, id ∈ book ↔ ∃ r, (id, r) ∈ found) ∧
      ∀ page size, (offsetLimit (orderBy key found) (page * size) size).map Prod.fst = Pages.page book page size := by
  refine ⟨(orderBy key found).map Prod.fst, ?_, fun id => ?_, fun page size => ?_⟩
  · exact List.pairwise_map.mpr (pairwise_orderBy hkey hkeys)
  · rw [List.mem_map]
    constructor
    · rintro ⟨⟨id, r⟩, hmem, rfl⟩
      exact ⟨r, (List.mergeSort_perm _ _).mem_iff.mp hmem⟩
    · rintro ⟨r, hmem⟩
      exact ⟨(id, r), (List.mergeSort_perm _ _).mem_iff.mpr hmem, rfl⟩
  · rw [offsetLimit, Pages.page, List.map_take, List.map_drop]

/-- The pages of a listing are cut from one list of its rows. -/
theorem Listing.book (listing : Listing) (hused : v.Used) : ∃ book : List Nat, book.Pairwise listing.Before ∧
    (∀ id, id ∈ book ↔ listing.Lists case v.rows id) ∧
      ∀ page size, listing.page case scan page size = Pages.page book page size := by
  have hrows : ∀ (t : Table) (condition : Option (Nat × Row t → Option Bool)) id,
      (∃ r, (id, r) ∈ condition.elim (scan.rows t) fun c => filterWhere c (scan.rows t)) ↔
        ∃ r, v.rows t id = some r ∧ ∀ c ∈ condition, c (id, r) = some true := by
    intro t condition id
    cases condition with
    | none => simp [scan.mem_rows hused]
    | some c => simp [mem_filterWhere, scan.mem_rows hused]
  cases listing with
  | orders =>
    obtain ⟨book, hordered, hmem, hpage⟩ := exists_book OrderDual.toDual.injective (scan.keys .orders)
    refine ⟨book, hordered, fun id => ?_, hpage⟩
    simp only [hmem, scan.mem_rows hused, Listing.Lists, Option.ne_none_iff_exists']
  | ordersFor productId =>
    obtain ⟨book, hordered, hmem, hpage⟩ := exists_book OrderDual.toDual.injective (keys_joined scan hused productId)
    refine ⟨book, hordered, fun id => ?_, hpage⟩
    simp only [hmem, mem_joined scan hused, Listing.Lists, Option.ne_none_iff_exists', exists_and_right]
  | products search =>
    have hkeys : (((ProductRepository.condition case search).elim (scan.rows .product) fun c =>
        filterWhere c (scan.rows .product)).map Prod.fst).Nodup := by
      cases ProductRepository.condition case search with
      | none => exact scan.keys .product
      | some c => exact keys_filter (scan.keys .product) _
    obtain ⟨book, hordered, hmem, hpage⟩ := exists_book Function.injective_id hkeys
    refine ⟨book, hordered, fun id => (hmem id).trans (hrows .product _ id), fun page size => ?_⟩
    rw [← hpage, Listing.page, ProductRepository.listPaginated]
    cases ProductRepository.condition case search <;> rfl
  | customers search =>
    have hkeys : (((CustomerRepository.condition case search).elim (scan.rows .customer) fun c =>
        filterWhere c (scan.rows .customer)).map Prod.fst).Nodup := by
      cases CustomerRepository.condition case search with
      | none => exact scan.keys .customer
      | some c => exact keys_filter (scan.keys .customer) _
    obtain ⟨book, hordered, hmem, hpage⟩ := exists_book Function.injective_id hkeys
    refine ⟨book, hordered, fun id => (hmem id).trans (hrows .customer _ id), fun page size => ?_⟩
    rw [← hpage, Listing.page, CustomerRepository.findAll]
    cases CustomerRepository.condition case search <;> rfl

end Books

/-! ### What the calls do to a listing -/

section Changes
variable {t : Table} {id : Nat} {call : Call}

section Rows
variable {F : Footprint Row} {rows rows' : Rows Row} {Q : Row t → Prop}

/-- A row that may not be deleted is there, as it was or updated. -/
theorem row_stays (hallows : F.Allows t id (rows t id) (rows' t id)) (hdelete : ∀ r, ¬F.deletes t id r)
    (hupdate : ∀ r r', F.updates t id r r' → Q r → Q r') (h : ∃ r, rows t id = some r ∧ Q r) :
    ∃ r, rows' t id = some r ∧ Q r := by
  obtain ⟨r, hr, hq⟩ := h
  rw [hr] at hallows
  generalize rows' t id = x at hallows
  cases hallows with
  | same => exact ⟨r, rfl, hq⟩
  | update hchange => exact ⟨_, rfl, hupdate r _ hchange hq⟩
  | delete hchange => exact absurd hchange (hdelete r)

/-- A row that may not be inserted was there, as it is or before an update. -/
theorem row_was (hallows : F.Allows t id (rows t id) (rows' t id)) (hinsert : ∀ r, Q r → ¬F.inserts t r)
    (hupdate : ∀ r r', F.updates t id r r' → Q r' → Q r) (h : ∃ r, rows' t id = some r ∧ Q r) :
    ∃ r, rows t id = some r ∧ Q r := by
  obtain ⟨r, hr, hq⟩ := h
  rw [hr] at hallows
  generalize rows t id = x at hallows
  cases hallows with
  | same => exact ⟨r, rfl, hq⟩
  | insert hchange => exact absurd hchange (hinsert r hq)
  | update hchange => exact ⟨_, rfl, hupdate _ r hchange hq⟩

end Rows

theorem deletes_orders {o : Order} (h : call.footprint.deletes .orders id o) : call = .request (.deleteOrder id) := by
  cases call with
  | request r => cases r <;> first | (obtain rfl : id = _ := h; rfl) | cases h
  | _ => cases h

theorem deletes_orderLine {l : OrderLine} (h : call.footprint.deletes .orderLine id l) :
    (∃ orderId, call = .request (.deleteOrder orderId)) ∨
      ∃ orderId lineId, call = .request (.deleteLine orderId lineId) := by
  cases call with
  | request r => cases r <;> first | exact Or.inl ⟨_, rfl⟩ | exact Or.inr ⟨_, _, rfl⟩ | cases h
  | _ => cases h

theorem deletes_product {p : Product} (h : call.footprint.deletes .product id p) : call = .request (.deleteProduct id) := by
  cases call with
  | request r => cases r <;> first | (obtain rfl : id = _ := h; rfl) | cases h
  | _ => cases h

theorem deletes_customer {c : Customer} (h : call.footprint.deletes .customer id c) :
    call = .request (.deleteCustomer id) := by
  cases call with
  | request r => cases r <;> first | (obtain rfl : id = _ := h; rfl) | cases h
  | _ => cases h

theorem inserts_orders {o : Order} (h : call.footprint.inserts .orders o) :
    (∃ customerId, call = .request (.createOrder customerId)) ∨ ∃ customerId, call = .mcpCreateOrder customerId := by
  cases call with
  | request r => cases r <;> first | exact Or.inl ⟨_, rfl⟩ | cases h
  | mcpCreateOrder customerId => exact Or.inr ⟨_, rfl⟩
  | _ => cases h

theorem inserts_orderLine {l : OrderLine} (h : call.footprint.inserts .orderLine l) :
    ∃ orderId payload, call = .request (.addLine orderId payload) ∧ l.productId = payload.productId := by
  cases call with
  | request r => cases r <;> first | exact ⟨_, _, rfl, h.2.1⟩ | cases h
  | _ => cases h

theorem inserts_product {p : Product} (h : call.footprint.inserts .product p) :
    ∃ payload, call = .request (.createProduct payload) := by
  cases call with
  | request r => cases r <;> first | exact ⟨_, rfl⟩ | cases h
  | _ => cases h

theorem inserts_customer {c : Customer} (h : call.footprint.inserts .customer c) :
    ∃ body, call = .request (.createCustomer body) := by
  cases call with
  | request r => cases r <;> first | exact ⟨_, rfl⟩ | cases h
  | _ => cases h

theorem updates_product {p p' : Product} (h : call.footprint.updates .product id p p') :
    ∃ productId payload, call = .request (.updateProduct productId payload) := by
  cases call with
  | request r => cases r <;> first | exact ⟨_, _, rfl⟩ | cases h
  | _ => cases h

theorem updates_customer {c c' : Customer} (h : call.footprint.updates .customer id c c') :
    (∃ customerId body, call = .request (.updateCustomer customerId body)) ∨
      ∃ customerId body, call = .request (.patchCustomer customerId body) := by
  cases call with
  | request r => cases r <;> first | exact Or.inl ⟨_, _, rfl⟩ | exact Or.inr ⟨_, _, rfl⟩ | cases h
  | _ => cases h

variable {case : Str.CaseMapping} {listing : Listing} {rows rows' : Rows Row}

/-- A listing that is not searched has no condition to meet. -/
theorem unsearched {α : Type} {condition : Option α} {P : α → Prop} (h : condition.isSome = false) :
    ∀ c ∈ condition, P c := by
  intro c hc
  rw [Option.isSome_eq_false_iff, Option.isNone_iff_eq_none] at h
  rw [h] at hc
  cases hc

theorem exists_row {t : Table} : rows t id ≠ none ↔ ∃ r, rows t id = some r ∧ True := by
  simp only [Option.ne_none_iff_exists', and_true]

theorem Listing.lists_stays (hloses : listing.loses case call = false)
    (hallows : ∀ t id, call.footprint.Allows t id (rows t id) (rows' t id)) (h : listing.Lists case rows id) :
    listing.Lists case rows' id := by
  have horder : listing = .orders ∨ (∃ productId, listing = .ordersFor productId) → rows .orders id ≠ none →
      rows' .orders id ≠ none := by
    intro hlisting hthere
    refine exists_row.mpr (row_stays (hallows .orders id) (fun o hdelete => ?_) (fun _ _ _ h => h) (exists_row.mp hthere))
    rw [deletes_orders hdelete] at hloses
    rcases hlisting with rfl | ⟨_, rfl⟩ <;> cases hloses
  cases listing with
  | orders => exact horder (Or.inl rfl) h
  | ordersFor productId =>
    obtain ⟨hthere, lineId, hline⟩ := h
    refine ⟨horder (Or.inr ⟨productId, rfl⟩) hthere, lineId, ?_⟩
    refine row_stays (hallows .orderLine lineId) (fun l hdelete => ?_) (fun l l' hupdate hl => ?_) hline
    · rcases deletes_orderLine hdelete with ⟨_, rfl⟩ | ⟨_, _, rfl⟩ <;> cases hloses
    · obtain ⟨hid, hproduct, -⟩ := OrderLine.mk.inj (Call.updates_orderLine hupdate)
      exact ⟨hid.trans hl.1, hproduct.trans hl.2⟩
  | products search =>
    refine row_stays (hallows .product id) (fun p hdelete => ?_) (fun p p' hupdate _ => ?_) h
    · rw [deletes_product hdelete] at hloses
      cases hloses
    · obtain ⟨_, _, rfl⟩ := updates_product hupdate
      exact unsearched hloses
  | customers search =>
    refine row_stays (hallows .customer id) (fun c hdelete => ?_) (fun c c' hupdate _ => ?_) h
    · rw [deletes_customer hdelete] at hloses
      cases hloses
    · rcases updates_customer hupdate with ⟨_, _, rfl⟩ | ⟨_, _, rfl⟩
      · exact unsearched hloses
      · exact unsearched hloses

theorem Listing.lists_was (hgains : listing.gains case call = false)
    (hallows : ∀ t id, call.footprint.Allows t id (rows t id) (rows' t id)) (h : listing.Lists case rows' id) :
    listing.Lists case rows id := by
  have horder : listing = .orders ∨ (∃ productId, listing = .ordersFor productId) → rows' .orders id ≠ none →
      rows .orders id ≠ none := by
    intro hlisting hthere
    refine exists_row.mpr (row_was (hallows .orders id) (fun o _ hinsert => ?_) (fun _ _ _ h => h) (exists_row.mp hthere))
    rcases inserts_orders hinsert with ⟨_, rfl⟩ | ⟨_, rfl⟩ <;> rcases hlisting with rfl | ⟨_, rfl⟩ <;> cases hgains
  cases listing with
  | orders => exact horder (Or.inl rfl) h
  | ordersFor productId =>
    obtain ⟨hthere, lineId, hline⟩ := h
    refine ⟨horder (Or.inr ⟨productId, rfl⟩) hthere, lineId, ?_⟩
    refine row_was (hallows .orderLine lineId) (fun l hl hinsert => ?_) (fun l l' hupdate hl => ?_) hline
    · obtain ⟨_, payload, rfl, hpayload⟩ := inserts_orderLine hinsert
      exact of_decide_eq_false hgains (hpayload.symm.trans hl.2)
    · obtain ⟨hid, hproduct, -⟩ := OrderLine.mk.inj (Call.updates_orderLine hupdate)
      exact ⟨hid.symm.trans hl.1, hproduct.symm.trans hl.2⟩
  | products search =>
    refine row_was (hallows .product id) (fun p _ hinsert => ?_) (fun p p' hupdate _ => ?_) h
    · obtain ⟨_, rfl⟩ := inserts_product hinsert
      cases hgains
    · obtain ⟨_, _, rfl⟩ := updates_product hupdate
      exact unsearched hgains
  | customers search =>
    refine row_was (hallows .customer id) (fun c _ hinsert => ?_) (fun c c' hupdate _ => ?_) h
    · obtain ⟨_, rfl⟩ := inserts_customer hinsert
      cases hgains
    · rcases updates_customer hupdate with ⟨_, _, rfl⟩ | ⟨_, _, rfl⟩
      · exact unsearched hgains
      · exact unsearched hgains

end Changes

/-! ### Reading page by page -/

/-- The state in which the client reads page `k`; `gaps k` is what happens before, since page `k - 1`. -/
def atPage (store : Store) (calls : Nat → Call) (gaps : Nat → List (Event Clock)) (k : Nat) : State :=
  run (Db.step program) (store.calls calls) ((List.range (k + 1)).flatMap gaps)

/-- What a statement of a new transaction sees. -/
def snapshot (d : State) : View Row := ⟨d.committed, d.seq⟩

section Reading
variable {case : Str.CaseMapping} {listing : Listing} {store : Store} {calls : Nat → Call}
  {gaps : Nat → List (Event Clock)} {k id size : Nat}

theorem snapshot_used (k : Nat) : (snapshot (atPage store calls gaps k)).Used := by
  intro t id row hrow
  have hwf : (atPage store calls gaps k).Wf :=
    run_induction (P := fun _ (d : State) => d.Wf) (Db.Wf.start store.fresh) (fun _ e h => h.step e) _
  by_contra hid
  have hnone := (hwf.fresh t id (Nat.not_lt.mp hid)).1
  rw [show (atPage store calls gaps k).committed t id = some row from hrow] at hnone
  cases hnone

/-- Between two pages each step changes committed rows as its own call may. -/
theorem gap_allows (k : Nat) : Meets (Db.step program) (fun d e => ∀ t id,
    (calls e.client).footprint.Allows t id (d.committed t id) ((d.step program e).committed t id))
    (atPage store calls gaps k) (gaps (k + 1)) := by
  have hrun := steps_within_footprints store calls ((List.range (k + 2)).flatMap gaps)
  rw [List.range_succ, List.flatMap_append, List.flatMap_singleton] at hrun
  exact (meets_append.mp hrun).2

theorem atPage_succ (k : Nat) :
    atPage store calls gaps (k + 1) = run (Db.step program) (atPage store calls gaps k) (gaps (k + 1)) := by
  rw [atPage, List.range_succ, List.flatMap_append, List.flatMap_singleton, run_append]
  rfl

theorem lists_next (hloses : ∀ i, listing.loses case (calls i) = false)
    (h : listing.Lists case (atPage store calls gaps k).committed id) :
    listing.Lists case (atPage store calls gaps (k + 1)).committed id := by
  rw [atPage_succ]
  exact (gap_allows k).run (P := fun d => listing.Lists case d.committed id) h
    fun d e hd hallows => listing.lists_stays (hloses e.client) hallows hd

theorem lists_previous (hgains : ∀ i, listing.gains case (calls i) = false)
    (h : listing.Lists case (atPage store calls gaps (k + 1)).committed id) :
    listing.Lists case (atPage store calls gaps k).committed id := by
  by_contra hnot
  rw [atPage_succ] at h
  refine (gap_allows k).run (P := fun d => ¬listing.Lists case d.committed id) hnot (fun d e hd hallows => ?_) h
  exact fun hafter => hd (listing.lists_was (hgains e.client) hallows hafter)

/-- The lists that the pages are cut from. -/
theorem exists_books (case : Str.CaseMapping) (listing : Listing)
    (scan : ∀ k, Scan (snapshot (atPage store calls gaps k))) : ∃ books : Nat → List Nat,
    Pages.Moves listing.Before books ∧
      (∀ k id, id ∈ books k ↔ listing.Lists case (atPage store calls gaps k).committed id) ∧
        ∀ k size, listing.page case (scan k) k size = Pages.page (books k) k size := by
  choose books hordered hmem hpage using fun k => listing.book case (scan k) (snapshot_used k)
  exact ⟨books, ⟨hordered, listing.before_asymm⟩, hmem, fun k size => hpage k k size⟩

/-- Reading a listing page by page while any calls interleave. Unless a call may take rows out of the listing, each row
    that is there when the first page is read is on one of the pages before the first empty one; and unless a call may
    bring rows into it, no row is on two pages. Pages from an `OFFSET` of 2^63 on, which the driver refuses, are empty
    here. -/
theorem pages_during_writes (case : Str.CaseMapping) (listing : Listing) (store : Store) (calls : Nat → Call)
    (gaps : Nat → List (Event Clock)) (scan : ∀ k, Scan (snapshot (atPage store calls gaps k))) (size : Nat) :
    ((∀ i, listing.loses case (calls i) = false) → ∀ n, 0 < size → listing.page case (scan n) n size = [] →
      ∀ id, listing.Lists case (atPage store calls gaps 0).committed id → ∃ k < n, id ∈ listing.page case (scan k) k size) ∧
    ((∀ i, listing.gains case (calls i) = false) → ∀ id j k, id ∈ listing.page case (scan j) j size →
      id ∈ listing.page case (scan k) k size → j = k) := by
  obtain ⟨books, hmoves, hmem, hpage⟩ := exists_books case listing scan
  simp only [hpage]
  constructor
  · intro hloses n hsize hend id hid
    have hlisted : ∀ k, listing.Lists case (atPage store calls gaps k).committed id := by
      intro k
      induction k with
      | zero => exact hid
      | succ k ih => exact lists_next hloses ih
    rcases hmoves.shown_or_gone hsize (fun k _ => (hmem k id).mpr (hlisted k)) hend with hshown
      | ⟨k, -, id', hlisted', -, hgone⟩
    · exact hshown
    · exact absurd ((hmem (k + 1) id').mpr (lists_next hloses ((hmem k id').mp hlisted'))) hgone
  · intro hgains id j k hj hk
    have hnot : ∀ {j k}, j < k → id ∈ Pages.page (books j) j size → id ∉ Pages.page (books k) k size := by
      intro j k hjk hj hk
      obtain ⟨m, -, -, id', hcame, -, hnew⟩ := hmoves.once_or_came hjk hj hk
      exact hnew ((hmem m id').mpr (lists_previous hgains ((hmem (m + 1) id').mp hcame)))
    rcases Nat.lt_trichotomy j k with hjk | hjk | hjk
    · exact absurd hk (hnot hjk hj)
    · exact hjk
    · exact absurd hj (hnot hjk hk)

end Reading

theorem page_orders_nil {case : Str.CaseMapping} {v : View Row} {scan : Scan v} {page size : Nat}
    (h : (scan.rows .orders).length ≤ page * size) : Listing.page case scan page size .orders = [] := by
  simp only [Listing.page, OrderRepository.listPaginated, offsetLimit, orderByIdDesc, orderBy]
  rw [List.drop_eq_nil_of_le ((List.length_mergeSort _).trans_le h), List.take_nil, List.map_nil]

/-- Three orders on pages of one, and a fourth that comes between the first page and the second. -/
theorem orders_shown :
    let store := (Store.sold.after (.createOrder 0) ticks).after (.createOrder 0) ticks
    let gaps := fun k => if k = 1 then (List.range 3).map fun m => Event.step 0 (ticks m) else []
    ∃ k < 4, 0 ∈ Listing.page .ascii (⟨select _, fun _ => .refl _⟩ :
      Scan (snapshot (atPage store (fun _ => .request (.createOrder 0)) gaps k))) k 1 .orders := by
  refine (pages_during_writes .ascii .orders _ (fun _ => .request (.createOrder 0)) _
    (fun _ => ⟨select _, fun _ => .refl _⟩) 1).1 (fun _ => rfl) 4 Nat.one_pos (page_orders_nil ?_) 0 ?_
  · decide +kernel
  · show _ ≠ none
    decide +kernel

end IrisService.Listings
