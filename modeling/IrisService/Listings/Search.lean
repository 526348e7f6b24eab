import IrisService.Listings.Paging

/-! Search in the listings of products and customers, against the search for a text as it is written. -/

namespace IrisService.Listings
open ReadCommitted Pages Str

variable {case : Str.CaseMapping} {store : RestingStore} {search : String}

/-- The products with the lowered text in their name or description. -/
def productsContaining (case : Str.CaseMapping) (store : RestingStore) (word : String) : Set (Nat × Product) :=
  {p | store.view.rows .product p.1 = some p.2 ∧
    (Contains (case.lower p.2.name) word ∨ ∃ d ∈ p.2.description, Contains (case.lower d) word)}

/-- The customers with the lowered text in their name or email. -/
def customersContaining (case : Str.CaseMapping) (store : RestingStore) (word : String) : Set (Nat × Customer) :=
  {c | store.view.rows .customer c.1 = some c.2 ∧
    (Contains (case.lower c.2.name) word ∨ Contains (case.lower c.2.email) word)}

/-- What a search should select: all products when the text is blank. -/
def productsWanted (case : Str.CaseMapping) (store : RestingStore) (search : String) : Set (Nat × Product) :=
  if Str.strip search = "" then store.rowsOf .product else productsContaining case store (case.lower (Str.strip search))

/-- What a search should select: all customers when the text is empty. -/
def customersWanted (case : Str.CaseMapping) (store : RestingStore) (search : String) : Set (Nat × Customer) :=
  if search = "" then store.rowsOf .customer else customersContaining case store (case.lower search)

/-- The listing of products selects and counts those that the search should select. -/
def ProductSearch (case : Str.CaseMapping) (store : RestingStore) (search : String) : Prop :=
  ∀ (scan : Nat → Scan store.view) (size : Nat), 0 < size →
    Paginates (fun a b => a.1 < b.1) (productsWanted case store search) size
      (fun page => (ProductRepository.listPaginated case (scan page) page size (some search)).1)
      (fun page => (ProductRepository.listPaginated case (scan page) page size (some search)).2)

/-- The listing of customers selects and counts those that the search should select. -/
def CustomerSearch (case : Str.CaseMapping) (store : RestingStore) (search : String) : Prop :=
  ∀ (scan : Nat → Scan store.view) (size : Nat), 0 < size →
    Paginates (fun a b => a.1 < b.1) (customersWanted case store search) size
      (fun page => (CustomerRepository.findAll case (scan page) page size (some search)).1)
      (fun page => (CustomerRepository.findAll case (scan page) page size (some search)).2)

/-! ### What the statements select -/

/-- Every text contains the empty one. -/
theorem productsWanted_eq :
    productsWanted case store search = productsContaining case store (case.lower (Str.strip search)) := by
  unfold productsWanted
  split
  · rename_i hblank
    ext p
    rw [hblank]
    exact ⟨fun hrow => ⟨hrow, Or.inl (contains_empty _)⟩, fun hp => hp.1⟩
  · rfl

theorem customersWanted_eq : customersWanted case store search = customersContaining case store (case.lower search) := by
  unfold customersWanted
  split
  · rename_i hempty
    ext c
    rw [hempty]
    exact ⟨fun hrow => ⟨hrow, Or.inl (contains_empty _)⟩, fun hc => hc.1⟩
  · rfl

theorem productSearch_iff : ProductSearch case store search ↔
    store.searched .product (ProductRepository.condition case (some search)) =
      productsContaining case store (case.lower (Str.strip search)) := by
  unfold ProductSearch
  rw [productsWanted_eq]
  constructor
  · intro h
    exact (paginates_products one_pos (some search)).matching_eq (h (fun _ => store.scan) 1 one_pos)
  · intro heq scan size hsize
    rw [← heq]
    exact paginates_products hsize (some search)

theorem customerSearch_iff : CustomerSearch case store search ↔
    store.searched .customer (CustomerRepository.condition case (some search)) =
      customersContaining case store (case.lower search) := by
  unfold CustomerSearch
  rw [customersWanted_eq]
  constructor
  · intro h
    exact (paginates_customers one_pos (some search)).matching_eq (h (fun _ => store.scan) 1 one_pos)
  · intro heq scan size hsize
    rw [← heq]
    exact paginates_customers hsize (some search)

theorem toList_searchPattern (s : String) :
    (searchPattern case s).toList = '%' :: ((case.lower s).toList ++ ['%']) := by
  simp [searchPattern]

/-- Without metacharacters the pattern finds the text as it is. -/
theorem like_searchPattern {s : String} (h : likeMetas.Plain (case.lower s).toList) (text : Option String) :
    like text (searchPattern case s) = some true ↔ ∃ t ∈ text, Contains t (case.lower s) := by
  cases text with
  | none => simp [like]
  | some t =>
    have hplain : likeMetas.like t.toList ('%' :: ((case.lower s).toList ++ ['%'])) = true ↔
        (case.lower s).toList <:+: t.toList := Like.Metas.like_plain h
    rw [like, Option.map_some, Option.some.injEq, toList_searchPattern, hplain]
    simp [Contains]

/-- With one, it finds a text in lower case that does not contain it. -/
theorem exists_like_of_not_plain {s : String} (h : ¬ likeMetas.Plain (case.lower s).toList) :
    ∃ text, case.lower text = text ∧ like (some text) (searchPattern case s) = some true ∧
      ¬ Contains text (case.lower s) := by
  have ha : ¬ likeMetas.IsMeta 'a' := by decide
  obtain ⟨hlike, hnot⟩ := Like.Metas.like_sample ha h
  refine ⟨String.ofList (likeMetas.sample 'a' (case.lower s).toList), ?_, ?_, ?_⟩
  · refine Str.CaseMapping.lower_of_isLower fun c hc => ?_
    rw [String.toList_ofList] at hc
    rcases Like.Metas.mem_sample hc with hmem | rfl | rfl
    · exact Str.CaseMapping.isLower_of_mem_lower hmem
    · exact Str.CaseMapping.isLower_of_ascii (by decide) (by decide)
    · exact Str.CaseMapping.isLower_of_ascii (by decide) (by decide)
  · rw [like, Option.map_some, toList_searchPattern, String.toList_ofList]
    exact congrArg some hlike
  · rw [Contains, String.toList_ofList]
    exact hnot

/-! ### Products -/

/-- A product is selected when its name or its description is like the pattern. -/
theorem mem_searched_products {p : Nat × Product} :
    p ∈ store.searched .product (ProductRepository.condition case (some search)) ↔
      store.view.rows .product p.1 = some p.2 ∧
        (Str.strip search = "" ∨ like (some (case.lower p.2.name)) (searchPattern case (Str.strip search)) = some true ∨
          like (p.2.description.map case.lower) (searchPattern case (Str.strip search)) = some true) := by
  refine and_congr_right fun _ => ?_
  by_cases hempty : search = ""
  · subst hempty
    have hstrip : Str.strip "" = "" := rfl
    have hnone : ProductRepository.condition case (some "") = none := rfl
    simp [hstrip, hnone]
  · have hnormalised : ProductRepository.normalised (some search) = some (Str.strip search) := by
      simp [ProductRepository.normalised, hempty]
    rw [ProductRepository.condition, hnormalised, Option.bind_some]
    by_cases hblank : Str.strip search = ""
    · simp [hblank]
    · rw [if_neg hblank]
      simp only [Option.mem_some_iff, forall_eq', sqlOr_eq_true, hblank, false_or]

theorem productSearch_of_plain (h : likeMetas.Plain (case.lower (Str.strip search)).toList) (store : RestingStore) :
    ProductSearch case store search := by
  rw [productSearch_iff]
  ext p
  rw [mem_searched_products]
  refine and_congr_right fun _ => ?_
  rw [like_searchPattern h, like_searchPattern h]
  have hname : (∃ t ∈ some (case.lower p.2.name), Contains t (case.lower (Str.strip search))) ↔
      Contains (case.lower p.2.name) (case.lower (Str.strip search)) := by simp
  have hdescription : (∃ t ∈ p.2.description.map case.lower, Contains t (case.lower (Str.strip search))) ↔
      ∃ d ∈ p.2.description, Contains (case.lower d) (case.lower (Str.strip search)) := by simp
  rw [hname, hdescription]
  constructor
  · rintro (hblank | hfound)
    · rw [hblank]
      exact Or.inl (contains_empty _)
    · exact hfound
  · exact Or.inr

def productNamed (name : String) : Product := ⟨name, none, 0, 0, ⟨0, some 0⟩, ⟨0, some 0⟩⟩

def customerNamed (name : String) : Customer := ⟨name, name, ⟨0, some 0⟩⟩

def rowsNamed (name : String) : (t : Table) → List (Row t)
  | .product => [productNamed name]
  | .customer => [customerNamed name]
  | .appUser | .refreshToken | .orders | .orderLine => []

theorem length_rowsNamed_le (name : String) (t : Table) : (rowsNamed name t).length ≤ 2 ^ 31 := by
  cases t <;> simp [rowsNamed]

/-- The store with one product and one customer of that name. -/
def storeNamed (name : String) : RestingStore := .ofRows (rowsNamed name) (length_rowsNamed_le name)

theorem not_productSearch_of_like {text : String} (hlower : case.lower text = text)
    (hlike : like (some text) (searchPattern case (Str.strip search)) = some true)
    (hnot : ¬ Contains text (case.lower (Str.strip search))) : ¬ ProductSearch case (storeNamed text) search := by
  intro hsearch
  rw [productSearch_iff] at hsearch
  have hselected : (0, productNamed text) ∈
      (storeNamed text).searched .product (ProductRepository.condition case (some search)) :=
    mem_searched_products.mpr ⟨rfl, Or.inr (Or.inl (hlower.symm ▸ hlike))⟩
  rw [hsearch] at hselected
  obtain ⟨-, hname | ⟨d, hd, -⟩⟩ := hselected
  · exact hnot (hlower ▸ hname)
  · exact absurd hd (Option.not_mem_none d)

/-! ### Customers -/

theorem mem_searched_customers {c : Nat × Customer} :
    c ∈ store.searched .customer (CustomerRepository.condition case (some search)) ↔
      store.view.rows .customer c.1 = some c.2 ∧
        (search = "" ∨ like (some (case.lower c.2.name)) (searchPattern case search) = some true ∨
          like (some (case.lower c.2.email)) (searchPattern case search) = some true) := by
  refine and_congr_right fun _ => ?_
  rw [CustomerRepository.condition, Option.bind_some]
  by_cases hempty : search = ""
  · simp [hempty]
  · rw [if_neg hempty]
    simp only [Option.mem_some_iff, forall_eq', sqlOr_eq_true, hempty, false_or]

theorem customerSearch_of_plain (h : likeMetas.Plain (case.lower search).toList) (store : RestingStore) :
    CustomerSearch case store search := by
  rw [customerSearch_iff]
  ext c
  rw [mem_searched_customers]
  refine and_congr_right fun _ => ?_
  rw [like_searchPattern h, like_searchPattern h]
  simp only [Option.mem_some_iff, exists_eq_left']
  constructor
  · rintro (hempty | hfound)
    · rw [hempty]
      exact Or.inl (contains_empty _)
    · exact hfound
  · exact Or.inr

theorem not_customerSearch_of_like {text : String} (hlower : case.lower text = text)
    (hlike : like (some text) (searchPattern case search) = some true) (hnot : ¬ Contains text (case.lower search)) :
    ¬ CustomerSearch case (storeNamed text) search := by
  intro hsearch
  rw [customerSearch_iff] at hsearch
  have hselected : (0, customerNamed text) ∈
      (storeNamed text).searched .customer (CustomerRepository.condition case (some search)) :=
    mem_searched_customers.mpr ⟨rfl, Or.inr (Or.inl (hlower.symm ▸ hlike))⟩
  rw [hsearch] at hselected
  obtain ⟨-, hname | hemail⟩ := hselected
  · exact hnot (hlower ▸ hname)
  · exact hnot (hlower ▸ hemail)

/-! ### The searches that are substring searches -/

/-- In every store, exactly for the search texts without metacharacters. -/
theorem search_iff_plain (case : Str.CaseMapping) (search : String) :
    ((∀ store, ProductSearch case store search) ↔ likeMetas.Plain (case.lower (Str.strip search)).toList) ∧
      ((∀ store, CustomerSearch case store search) ↔ likeMetas.Plain (case.lower search).toList) := by
  refine ⟨⟨fun h => ?_, fun h store => productSearch_of_plain h store⟩,
    ⟨fun h => ?_, fun h store => customerSearch_of_plain h store⟩⟩
  · by_contra hmeta
    obtain ⟨text, hlower, hlike, hnot⟩ := exists_like_of_not_plain hmeta
    exact not_productSearch_of_like hlower hlike hnot (h (storeNamed text))
  · by_contra hmeta
    obtain ⟨text, hlower, hlike, hnot⟩ := exists_like_of_not_plain hmeta
    exact not_customerSearch_of_like hlower hlike hnot (h (storeNamed text))

/-- A search for `100%` finds what has `100` in it. -/
theorem search_percent : ¬ ProductSearch .ascii (storeNamed "1000 screws") "100%" ∧
    ¬ CustomerSearch .ascii (storeNamed "1000 screws") "100%" :=
  ⟨not_productSearch_of_like (by decide) (by decide) (by decide),
    not_customerSearch_of_like (by decide) (by decide) (by decide)⟩

end IrisService.Listings
