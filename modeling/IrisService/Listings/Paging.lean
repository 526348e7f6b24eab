import IrisService.Listings.Repositories

/-! The pages of a listing of an unchanging store: together they are the matching rows, each once and in order. -/

namespace IrisService.Listings
open ReadCommitted Pages

/-- A store at rest. Its identities come from the sequences, and its `INTEGER` columns hold them. -/
structure RestingStore where
  view : View Row
  used : view.Used
  ids : ∀ t id row, view.rows t id = some row → fitsInteger id = true

namespace RestingStore
variable (store : RestingStore)

/-- The rows of each table, numbered. -/
def ofRows (rows : (t : Table) → List (Row t)) (h : ∀ t, (rows t).length ≤ 2 ^ 31) : RestingStore where
  view := ⟨fun t id => (rows t)[id]?, fun t => (rows t).length⟩
  used _ _ _ hrow := (List.getElem?_eq_some_iff.mp hrow).1
  ids t _ _ hrow := decide_eq_true ((List.getElem?_eq_some_iff.mp hrow).1.trans_le (h t))

/-- A scan in the order of the keys. -/
def scan : Scan store.view := ⟨select store.view, fun _ => .refl _⟩

/-- The rows of a table, with their ids. -/
def rowsOf (t : Table) : Set (Nat × Row t) := {x | store.view.rows t x.1 = some x.2}

/-- The orders that have a line for the product. -/
def ordersFor (productId : Nat) : Set (Nat × Order) :=
  {o | store.view.rows .orders o.1 = some o.2 ∧
    ∃ id line, store.view.rows .orderLine id = some line ∧ line.orderId = o.1 ∧ line.productId = productId}

/-- The rows that the condition of a search, if there is one, holds of. -/
def searched (t : Table) (condition : Option (Nat × Row t → Option Bool)) : Set (Nat × Row t) :=
  {x | store.view.rows t x.1 = some x.2 ∧ ∀ c ∈ condition, c x = some true}

end RestingStore

variable {store : RestingStore} {case : Str.CaseMapping} {size : Nat}

/-! ### The queries -/

section Queries
variable (scan : Scan store.view)

theorem mem_rows {t : Table} {x : Nat × Row t} : x ∈ scan.rows t ↔ x ∈ store.rowsOf t := scan.mem_rows store.used

theorem mem_joinLines {productId : Nat} {o : Nat × Order} :
    o ∈ ((OrderRepository.joinLines scan productId).map Prod.fst).dedup ↔ o ∈ store.ordersFor productId := by
  rw [List.mem_dedup, List.mem_map]
  constructor
  · rintro ⟨⟨o, l⟩, hjoin, rfl⟩
    obtain ⟨hjoin, hproduct⟩ := List.mem_filter.mp hjoin
    obtain ⟨o', ho', hl⟩ := List.mem_flatMap.mp hjoin
    obtain ⟨l', hl', heq⟩ := List.mem_map.mp hl
    cases heq
    obtain ⟨hline, horder⟩ := List.mem_filter.mp hl'
    exact ⟨(mem_rows scan).mp ho', l.1, l.2, (mem_rows scan).mp hline, by simpa using horder, by simpa using hproduct⟩
  · rintro ⟨horder, id, line, hline, hid, hproduct⟩
    refine ⟨(o, (id, line)), List.mem_filter.mpr ⟨List.mem_flatMap.mpr ⟨o, (mem_rows scan).mpr horder, ?_⟩, ?_⟩, rfl⟩
    · exact List.mem_map.mpr ⟨_, List.mem_filter.mpr ⟨(mem_rows scan).mpr hline, by simpa using hid⟩, rfl⟩
    · simpa using hproduct

theorem keys_joinLines (productId : Nat) :
    ((((OrderRepository.joinLines scan productId).map Prod.fst).dedup).map Prod.fst).Nodup := by
  refine (List.nodup_dedup _).map_on fun o ho o' ho' hkey => ?_
  have hrow : store.view.rows .orders o.1 = some o.2 := ((mem_joinLines scan).mp ho).1
  have hrow' : store.view.rows .orders o'.1 = some o'.2 := ((mem_joinLines scan).mp ho').1
  rw [← hkey, hrow] at hrow'
  exact Prod.ext hkey (Option.some.inj hrow')

/-- `count(distinct orders.id)` counts the distinct orders. -/
theorem length_joinLines (productId : Nat) :
    ((OrderRepository.joinLines scan productId).map fun r => r.1.1).dedup.length =
      ((OrderRepository.joinLines scan productId).map Prod.fst).dedup.length := by
  have hperm : (((OrderRepository.joinLines scan productId).map fun r => r.1.1).dedup).Perm
      ((((OrderRepository.joinLines scan productId).map Prod.fst).dedup).map Prod.fst) := by
    refine (List.perm_ext_iff_of_nodup (List.nodup_dedup _) (keys_joinLines scan productId)).mpr fun id => ?_
    simp
  rw [hperm.length_eq, List.length_map]

theorem mem_searched {t : Table} {c : Nat × Row t → Option Bool} {x : Nat × Row t} :
    x ∈ filterWhere c (scan.rows t) ↔ x ∈ store.searched t (some c) := by
  rw [mem_filterWhere, mem_rows]
  exact and_congr_right fun _ => ⟨fun h c' hc' => Option.some.inj hc' ▸ h, fun h => h c rfl⟩

theorem searched_none {t : Table} : store.searched t none = store.rowsOf t := by
  ext x
  exact and_iff_left fun c hc => absurd hc (Option.not_mem_none c)

end Queries

/-! ### The four listings -/

section Listings
variable {scan : Nat → Scan store.view}

theorem paginates_orders (hsize : 0 < size) :
    Paginates (fun a b => b.1 < a.1) (store.rowsOf .orders) size
      (fun page => (OrderRepository.listPaginated (scan page) page size).1)
      fun page => (OrderRepository.listPaginated (scan page) page size).2 :=
  paginates_orderByIdDesc hsize (fun page => (scan page).keys .orders) fun page _ => mem_rows (scan page)

theorem paginates_ordersFor (hsize : 0 < size) (productId : Nat) :
    Paginates (fun a b => b.1 < a.1) (store.ordersFor productId) size
      (fun page => (OrderRepository.listByProductId (scan page) productId page size).1)
      fun page => (OrderRepository.listByProductId (scan page) productId page size).2 := by
  have hpages := paginates_orderByIdDesc hsize (fun page => keys_joinLines (scan page) productId)
    fun page _ => mem_joinLines (scan page)
  have htotal : (fun page => (OrderRepository.listByProductId (scan page) productId page size).2) =
      fun page => ((OrderRepository.joinLines (scan page) productId).map Prod.fst).dedup.length :=
    funext fun page => length_joinLines (scan page) productId
  rw [htotal]
  exact hpages

theorem paginates_products (hsize : 0 < size) (search : Option String) :
    Paginates (fun a b => a.1 < b.1) (store.searched .product (ProductRepository.condition case search)) size
      (fun page => (ProductRepository.listPaginated case (scan page) page size search).1)
      fun page => (ProductRepository.listPaginated case (scan page) page size search).2 := by
  unfold ProductRepository.listPaginated
  cases ProductRepository.condition case search with
  | none =>
    rw [searched_none]
    exact paginates_orderById hsize (fun page => (scan page).keys .product) fun page _ => mem_rows (scan page)
  | some c =>
    exact paginates_orderById hsize (fun page => keys_filter ((scan page).keys .product) _) fun page _ =>
      mem_searched (scan page)

theorem paginates_customers (hsize : 0 < size) (search : Option String) :
    Paginates (fun a b => a.1 < b.1) (store.searched .customer (CustomerRepository.condition case search)) size
      (fun page => (CustomerRepository.findAll case (scan page) page size search).1)
      fun page => (CustomerRepository.findAll case (scan page) page size search).2 := by
  unfold CustomerRepository.findAll
  cases CustomerRepository.condition case search with
  | none =>
    rw [searched_none]
    exact paginates_orderById hsize (fun page => (scan page).keys .customer) fun page _ => mem_rows (scan page)
  | some c =>
    exact paginates_orderById hsize (fun page => keys_filter ((scan page).keys .customer) _) fun page _ =>
      mem_searched (scan page)

end Listings

/-! ### The number of pages -/

/-- A quotient of small numbers is not rounded across an integer. -/
theorem ceil_round_div {total : Nat} (hpos : 0 < total) (htotal : total ≤ 2 ^ 31) (hsize : 0 < size) (hmax : size ≤ 100) :
    ⌈Binary64.round ((total : ℚ) / size)⌉₊ = ⌈(total : ℚ) / size⌉₊ := by
  have hsize' : (0 : ℚ) < size := by exact_mod_cast hsize
  have hq : 0 < (total : ℚ) / size := div_pos (by exact_mod_cast hpos) hsize'
  generalize hk : ⌈(total : ℚ) / size⌉₊ = k
  have hk0 : k ≠ 0 := by
    rintro rfl
    exact absurd (Nat.ceil_eq_zero.mp hk) (not_le.mpr hq)
  obtain ⟨hlow, hhigh⟩ := (Nat.ceil_eq_iff hk0).mp hk
  have hkmax : k < 2 ^ 53 := by
    have hle : k ≤ total := by
      rw [← hk, Pages.ceil_div_le_iff hsize]
      exact Nat.le_mul_of_pos_right total hsize
    omega
  rw [Nat.ceil_eq_iff hk0]
  constructor
  · -- The quotient is at least a hundredth above `k - 1`, and rounding moves it by less.
    have hnext : ((k - 1 : ℕ) : ℚ) + 1 / 100 ≤ (total : ℚ) / size := by
      rw [lt_div_iff₀ hsize'] at hlow
      have hstep : (k - 1) * size + 1 ≤ total := by exact_mod_cast hlow
      have hstep' : (((k - 1 : ℕ) : ℚ)) * size + 1 ≤ total := by exact_mod_cast hstep
      have hmax' : (size : ℚ) ≤ 100 := by exact_mod_cast hmax
      rw [le_div_iff₀ hsize']
      linarith
    have herr := Binary64.abs_round_sub_le hq
    have hquot : (total : ℚ) / size ≤ 2 ^ 31 := by
      have hone : (1 : ℚ) ≤ size := by exact_mod_cast hsize
      have htotal' : (total : ℚ) ≤ 2 ^ 31 := by exact_mod_cast htotal
      exact (div_le_self (Nat.cast_nonneg total) hone).trans htotal'
    have hsmall : (total : ℚ) / size / 2 ^ 53 < 1 / 100 := by
      rw [div_lt_iff₀ (by norm_num)]
      exact lt_of_le_of_lt hquot (by norm_num)
    have hbelow := (abs_le.mp herr).1
    linarith
  · have hmono := Binary64.round_mono hhigh
    rwa [Binary64.representable_natCast hkmax] at hmono

/-- The float quotient of a count of rows and a page size has the ceiling of the exact quotient. -/
theorem totalPages_eq {total : Nat} (htotal : total ≤ 2 ^ 31) (hsize : 0 < size) (hmax : size ≤ 100) :
    totalPages total size = ⌈(total : ℚ) / size⌉₊ := by
  rcases Nat.eq_zero_or_pos total with rfl | hpos
  · simp [totalPages]
  · rw [totalPages, if_pos hpos]
    exact ceil_round_div hpos htotal hsize hmax

/-- A table of an `INTEGER` key has no more rows than such keys. -/
theorem length_le_of_ids (scan : Scan store.view) (t : Table) (p : Nat × Row t → Bool) :
    ((scan.rows t).filter p).length ≤ 2 ^ 31 := by
  have hsubset : (((scan.rows t).filter p).map Prod.fst).toFinset ⊆ Finset.range (2 ^ 31) := by
    intro id hid
    rw [List.mem_toFinset] at hid
    obtain ⟨x, hx, rfl⟩ := List.mem_map.mp hid
    have hrow := (mem_rows scan).mp (List.mem_of_mem_filter hx)
    have hfits := store.ids t x.1 x.2 hrow
    rw [Finset.mem_range]
    simpa [fitsInteger] using hfits
  have hcard := Finset.card_le_card hsubset
  rwa [List.toFinset_card_of_nodup (keys_filter (scan.keys t) p), List.length_map, Finset.card_range] at hcard

theorem findAll_total_le (scan : Scan store.view) (page : Nat) (search : Option String) :
    (CustomerRepository.findAll case scan page size search).2 ≤ 2 ^ 31 := by
  unfold CustomerRepository.findAll
  cases CustomerRepository.condition case search with
  | none =>
    have hall := length_le_of_ids scan .customer fun _ => true
    rwa [List.filter_true] at hall
  | some c => exact length_le_of_ids scan .customer fun x => c x = some true

theorem totalPages_listCustomers (scan : Scan store.view) (hsize : 0 < size) (hmax : size ≤ 100) (page : Nat)
    (search : Option String) (apiVersion : String) :
    (listCustomers case scan page size search apiVersion).totalPages =
      ⌈((CustomerRepository.findAll case scan page size search).2 : ℚ) / size⌉₊ := by
  rw [← totalPages_eq (findAll_total_le scan page search) hsize hmax]
  unfold listCustomers
  generalize CustomerRepository.findAll case scan page size search = found
  obtain ⟨rows, total⟩ := found
  show (if apiVersion.startsWith "2" then CustomerPage.v2 _ else .v1 _).totalPages = totalPages total size
  rw [apply_ite CustomerPage.totalPages]
  exact ite_self _

/-! ### The law of the pages -/

/-- Read page by page, each of the listings of a resting store is its matching rows, and the customers' number of
    pages says where they end. A page whose `OFFSET` is no `BIGINT`, from 2^63 on, the driver refuses; it lies behind the
    last row, where the lists here are empty. -/
theorem pages_partition (store : RestingStore) (case : Str.CaseMapping) (scan : Nat → Scan store.view) (size : Nat)
    (hsize : 1 ≤ size) (hmax : size ≤ 100) :
    Paginates (fun a b => b.1 < a.1) (store.rowsOf .orders) size
      (fun page => (OrderRepository.listPaginated (scan page) page size).1)
      (fun page => (OrderRepository.listPaginated (scan page) page size).2) ∧
    (∀ productId, Paginates (fun a b => b.1 < a.1) (store.ordersFor productId) size
      (fun page => (OrderRepository.listByProductId (scan page) productId page size).1)
      (fun page => (OrderRepository.listByProductId (scan page) productId page size).2)) ∧
    (∀ search, Paginates (fun a b => a.1 < b.1)
      (store.searched .product (ProductRepository.condition case search)) size
      (fun page => (ProductRepository.listPaginated case (scan page) page size search).1)
      (fun page => (ProductRepository.listPaginated case (scan page) page size search).2)) ∧
    (∀ search, Paginates (fun a b => a.1 < b.1)
      (store.searched .customer (CustomerRepository.condition case search)) size
      (fun page => (CustomerRepository.findAll case (scan page) page size search).1)
      (fun page => (CustomerRepository.findAll case (scan page) page size search).2)) ∧
    ∀ search apiVersion page, (listCustomers case (scan page) page size search apiVersion).totalPages =
      ⌈((store.searched .customer (CustomerRepository.condition case search)).ncard : ℚ) / size⌉₊ := by
  refine ⟨paginates_orders hsize, paginates_ordersFor hsize, paginates_products hsize, paginates_customers hsize, ?_⟩
  intro search apiVersion page
  rw [totalPages_listCustomers (scan page) hsize hmax, (paginates_customers hsize search).total page]

/-- Three orders, two lines and a product. -/
def threeOrders : (t : Table) → List (Row t)
  | .orders => [⟨1, .pending, 0, ⟨0, some 0⟩, ⟨0, some 0⟩⟩, ⟨1, .shipped, 500, ⟨0, some 0⟩, ⟨0, some 0⟩⟩,
      ⟨2, .pending, 0, ⟨0, some 0⟩, ⟨0, some 0⟩⟩]
  | .product => [⟨"Stand", none, 500, 3, ⟨0, some 0⟩, ⟨0, some 0⟩⟩]
  | .orderLine => [⟨1, 0, 1, 200, .pending, ⟨0, some 0⟩⟩, ⟨1, 0, 3, 100, .shipped, ⟨0, some 0⟩⟩]
  | .customer | .appUser | .refreshToken => []

theorem length_threeOrders_le (t : Table) : (threeOrders t).length ≤ 2 ^ 31 := by
  cases t <;> simp [threeOrders]

/-- Three orders in pages of two; the order with two lines for the product shows once. -/
theorem pages_partition_three :
    Paginates (fun a b => b.1 < a.1) ((RestingStore.ofRows threeOrders length_threeOrders_le).rowsOf .orders) 2
      (fun page => (OrderRepository.listPaginated (RestingStore.ofRows threeOrders length_threeOrders_le).scan page 2).1)
      (fun page => (OrderRepository.listPaginated (RestingStore.ofRows threeOrders length_threeOrders_le).scan page 2).2) ∧
    Paginates (fun a b => b.1 < a.1) ((RestingStore.ofRows threeOrders length_threeOrders_le).ordersFor 0) 2
      (fun page =>
        (OrderRepository.listByProductId (RestingStore.ofRows threeOrders length_threeOrders_le).scan 0 page 2).1)
      (fun page =>
        (OrderRepository.listByProductId (RestingStore.ofRows threeOrders length_threeOrders_le).scan 0 page 2).2) :=
  have h := pages_partition (.ofRows threeOrders length_threeOrders_le) .ascii (fun _ => RestingStore.scan _) 2 (by decide)
    (by decide)
  ⟨h.1, h.2.1 0⟩

end IrisService.Listings
