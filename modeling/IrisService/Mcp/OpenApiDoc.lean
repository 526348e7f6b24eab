import IrisService.Mcp.ToolAudit
import IrisService.Python.Case

/-! `build_openapi` of `mcp/actuator.py` on OpenAPI documents, with `str.lower` on the whole of Unicode: the summary
    inverts the map from paths to Path Items, and takes some fields of a Path Item for verbs. -/

namespace IrisService.Mcp.OpenApiDoc
open Tools Str

/-- The keys of a Path Item that the code skips. -/
def nonVerbKeys : List String := ["parameters", "summary", "description"]

section Code
variable (lower : String → String)

/-- The body of the loop over the keys of a path. -/
def addVerb (path : String) (pathsByVerb : Dict String (List String)) (verb : String) : Dict String (List String) :=
  let verbLower := lower verb
  if verbLower ∈ nonVerbKeys then pathsByVerb else pathsByVerb.appendTo verbLower path

/-- The body of the loop over the paths; what is no dictionary is passed over. -/
def addPath (pathsByVerb : Dict String (List String)) (entry : String × Option (List String)) : Dict String (List String) :=
  match entry.2 with
  | none => pathsByVerb
  | some methods => methods.foldl (addVerb lower entry.1) pathsByVerb

/-- The lists before they are sorted. -/
def collect (paths : List (String × Option (List String))) : Dict String (List String) := paths.foldl (addPath lower) []

/-- `paths_by_verb` -/
def pathsByVerb (paths : List (String × Option (List String))) : Dict String (List String) :=
  (collect lower paths).map fun verb => (verb.1, verb.2.mergeSort fun a b => a ≤ b)

end Code

/-- `build_openapi`, where `spec` is what `app.openapi()` returns. -/
def buildOpenapi (case : CaseMapping) (deps : Deps) (spec : OpenApi) (summary : Bool) : ToolResult :=
  if !summary then .openApi spec
  else .openApiSummary
    { info := ⟨spec.title.getD deps.app.title, spec.version.getD (orDefault (some deps.app.version) deps.packageVersion),
        spec.description⟩
      pathsByVerb := pathsByVerb case.lower spec.paths }

/-! ### Documents -/

/-- The operations of a Path Item, in lower case as OpenAPI writes them. -/
def httpMethods : List String := ["get", "put", "post", "delete", "options", "head", "patch", "trace"]

/-- The other fields of a Path Item, but for the extensions. -/
def otherFields : List String := ["$ref", "summary", "description", "servers", "parameters"]

/-- A field whose name starts with `x-`. -/
def IsExtension (key : String) : Prop := ['x', '-'] <+: key.toList

instance (key : String) : Decidable (IsExtension key) := inferInstanceAs (Decidable (_ <+: _))

/-- A Path Item, by its keys. -/
structure PathItem where
  keys : List String
  nodup : keys.Nodup
  allowed : ∀ key ∈ keys, key ∈ httpMethods ∨ key ∈ otherFields ∨ IsExtension key

/-- A document whose paths map to Path Items. -/
structure Document extends OpenApi where
  nodup : (paths.map Prod.fst).Nodup
  pathItems : ∀ path item, (path, item) ∈ paths → ∃ pathItem : PathItem, item = some pathItem.keys

/-- The Path Item of the path has an operation for the method. -/
def Defines (spec : OpenApi) (path method : String) : Prop := ∃ keys, (path, some keys) ∈ spec.paths ∧ method ∈ keys

/-- What the summary of a document should be. -/
structure Summarises (spec : OpenApi) (pathsByVerb : Dict String (List String)) : Prop where
  nodup : pathsByVerb.keys.Nodup
  verbs : ∀ verb ∈ pathsByVerb.keys, verb ∈ httpMethods
  listed : ∀ method ∈ httpMethods, ∀ path, path ∈ (pathsByVerb.get method).getD [] ↔ Defines spec path method
  increasing : ∀ verb paths, (verb, paths) ∈ pathsByVerb → paths.Pairwise (· < ·)

/-- A field that is no operation and is not skipped. -/
def Overlooked (key : String) : Prop := key = "$ref" ∨ key = "servers" ∨ IsExtension key

instance (key : String) : Decidable (Overlooked key) := inferInstanceAs (Decidable (_ ∨ _))

/-! ### What the loops collect -/

section Collected
variable {lower : String → String} {paths : List (String × Option (List String))} {path verb : String} {keys : List String}

/-- The verbs of the document with their paths, in the order of the loops. -/
def entries (lower : String → String) (paths : List (String × Option (List String))) : List (String × String) :=
  paths.flatMap fun entry =>
    ((entry.2.getD []).filter fun key => lower key ∉ nonVerbKeys).map fun key => (lower key, entry.1)

theorem mem_entries {e : String × String} : e ∈ entries lower paths ↔
    ∃ keys, (e.2, some keys) ∈ paths ∧ ∃ key ∈ keys, lower key = e.1 ∧ e.1 ∉ nonVerbKeys := by
  simp only [entries, List.mem_flatMap, List.mem_map, List.mem_filter, decide_eq_true_eq]
  constructor
  · rintro ⟨⟨path, item⟩, hpath, key, ⟨hkey, hkept⟩, rfl⟩
    cases item with
    | none => cases hkey
    | some keys => exact ⟨keys, hpath, key, hkey, rfl, hkept⟩
  · rintro ⟨keys, hpath, key, hkey, hlower, hkept⟩
    exact ⟨(e.2, some keys), hpath, key, ⟨hkey, hlower ▸ hkept⟩, by rw [hlower]⟩

theorem foldl_addVerb (path : String) (keys : List String) (index : Dict String (List String)) :
    keys.foldl (addVerb lower path) index =
      index.appendAll ((keys.filter fun key => lower key ∉ nonVerbKeys).map fun key => (lower key, path)) := by
  induction keys generalizing index with
  | nil => rfl
  | cons key keys ih =>
    rw [List.foldl_cons, ih]
    by_cases hskip : lower key ∈ nonVerbKeys
    · rw [List.filter_cons_of_neg (by simpa using hskip), addVerb, if_pos hskip]
    · rw [List.filter_cons_of_pos (by simpa using hskip), addVerb, if_neg hskip]
      rfl

theorem foldl_addPath (paths : List (String × Option (List String))) (index : Dict String (List String)) :
    paths.foldl (addPath lower) index = index.appendAll (entries lower paths) := by
  induction paths generalizing index with
  | nil => rfl
  | cons entry paths ih =>
    have hentry : addPath lower index entry = index.appendAll
        (((entry.2.getD []).filter fun key => lower key ∉ nonVerbKeys).map fun key => (lower key, entry.1)) := by
      rw [addPath]
      cases entry.2 with
      | none => rfl
      | some keys => exact foldl_addVerb entry.1 keys index
    rw [List.foldl_cons, ih, hentry, ← Dict.appendAll_append]
    rfl

theorem keys_pathsByVerb : (pathsByVerb lower paths).keys = (collect lower paths).keys :=
  Dict.keys_map fun paths : List String => paths.mergeSort fun a b => a ≤ b

theorem nodup_pathsByVerb : (pathsByVerb lower paths).keys.Nodup := by
  rw [keys_pathsByVerb, collect, foldl_addPath]
  exact Dict.nodup_appendAll List.nodup_nil

/-- Every key that is not skipped is taken for a verb. -/
theorem mem_keys_pathsByVerb : verb ∈ (pathsByVerb lower paths).keys ↔
    verb ∉ nonVerbKeys ∧ ∃ path keys, (path, some keys) ∈ paths ∧ ∃ key ∈ keys, lower key = verb := by
  rw [keys_pathsByVerb, collect, foldl_addPath, Dict.mem_keys_appendAll, List.mem_map]
  constructor
  · rintro (hnil | ⟨e, he, rfl⟩)
    · cases hnil
    · obtain ⟨keys, hpath, key, hkey, hlower, hkept⟩ := mem_entries.mp he
      exact ⟨hkept, e.2, keys, hpath, key, hkey, hlower⟩
  · rintro ⟨hkept, path, keys, hpath, key, hkey, hlower⟩
    exact Or.inr ⟨(verb, path), mem_entries.mpr ⟨keys, hpath, key, hkey, hlower, hkept⟩, rfl⟩

/-- A list is the sorted list of the paths found with the verb. -/
theorem getD_pathsByVerb (verb : String) : ((pathsByVerb lower paths).get verb).getD [] =
    (((entries lower paths).filter fun e => e.1 = verb).map Prod.snd).mergeSort fun a b => a ≤ b := by
  have hvalues : ((collect lower paths).get verb).getD [] =
    ((entries lower paths).filter fun e => e.1 = verb).map Prod.snd := by
    rw [collect, foldl_addPath]
    exact Dict.getD_appendAll
  have hsorted : (pathsByVerb lower paths).get verb =
      ((collect lower paths).get verb).map fun paths => paths.mergeSort fun a b => a ≤ b :=
    Dict.get_map fun paths : List String => paths.mergeSort fun a b => a ≤ b
  rw [hsorted, ← hvalues]
  cases (collect lower paths).get verb with
  | none => exact List.mergeSort_nil.symm
  | some paths => rfl

/-- Where only the verb itself is lowered to the verb, a Path Item gives at most one entry for it. -/
theorem values_of_keys (hverb : verb ∉ nonVerbKeys) (hnodup : keys.Nodup)
    (hlower : ∀ key ∈ keys, lower key = verb ↔ key = verb)
    (path : String) : (((keys.filter fun key => lower key ∉ nonVerbKeys).map fun key => (lower key, path)).filter
        fun e => e.1 = verb).map Prod.snd = if verb ∈ keys then [path] else [] := by
  induction keys with
  | nil => rfl
  | cons key keys ih =>
    obtain ⟨hnew, hkeys⟩ := List.nodup_cons.mp hnodup
    obtain ⟨hhead, htail⟩ := List.forall_mem_cons.mp hlower
    have hrest := ih hkeys htail
    by_cases heq : key = verb
    · subst heq
      have hsame : lower key = key := hhead.mpr rfl
      rw [if_neg hnew] at hrest
      rw [List.filter_cons_of_pos (by simpa [hsame] using hverb), List.map_cons,
        List.filter_cons_of_pos (by simpa using hsame), List.map_cons, hrest, if_pos List.mem_cons_self]
    · have hother : lower key ≠ verb := fun h => heq (hhead.mp h)
      have hmem : verb ∈ key :: keys ↔ verb ∈ keys := by
        rw [List.mem_cons, or_iff_right (Ne.symm heq)]
      rw [if_congr hmem rfl rfl, ← hrest]
      by_cases hskip : lower key ∈ nonVerbKeys
      · rw [List.filter_cons_of_neg (by simpa using hskip)]
      · rw [List.filter_cons_of_pos (by simpa using hskip), List.map_cons, List.filter_cons_of_neg (by simpa using hother)]

/-- Then its list holds the paths that have it, in their order. -/
theorem values_eq (hverb : verb ∉ nonVerbKeys) (hkeys : ∀ path keys, (path, some keys) ∈ paths →
      keys.Nodup ∧ ∀ key ∈ keys, lower key = verb ↔ key = verb) :
    ((entries lower paths).filter fun e => e.1 = verb).map Prod.snd =
      (paths.filter fun entry => verb ∈ entry.2.getD []).map Prod.fst := by
  induction paths with
  | nil => rfl
  | cons entry paths ih =>
    obtain ⟨path, item⟩ := entry
    have hrest := ih fun path' keys hmem => hkeys path' keys (List.mem_cons_of_mem _ hmem)
    have hone : ((((item.getD []).filter fun key => lower key ∉ nonVerbKeys).map fun key => (lower key, path)).filter
        fun e => e.1 = verb).map Prod.snd = if verb ∈ item.getD [] then [path] else [] := by
      cases item with
      | none => rfl
      | some keys =>
        obtain ⟨hnodup, hlower⟩ := hkeys path keys List.mem_cons_self
        exact values_of_keys hverb hnodup hlower path
    rw [entries, List.flatMap_cons, List.filter_append, List.map_append, hone]
    rw [entries] at hrest
    rw [hrest]
    by_cases hhas : verb ∈ item.getD []
    · rw [if_pos hhas, List.filter_cons_of_pos (by simpa using hhas)]
      rfl
    · rw [if_neg hhas, List.filter_cons_of_neg (by simpa using hhas)]
      rfl

/-- Different strings in order are in strict order. -/
theorem pairwise_lt_mergeSort {l : List String} (h : l.Nodup) : (l.mergeSort fun a b => a ≤ b).Pairwise (· < ·) := by
  have hle : (l.mergeSort fun a b => a ≤ b).Pairwise fun a b => decide (a ≤ b) = true := by
    refine List.pairwise_mergeSort (fun a b c hab hbc => ?_) (fun a b => ?_) l
    · exact decide_eq_true (String.le_trans (of_decide_eq_true hab) (of_decide_eq_true hbc))
    · simpa using String.le_total a b
  have hne : (l.mergeSort fun a b => a ≤ b).Nodup := (List.mergeSort_perm l _).nodup_iff.mpr h
  refine hle.imp₂ (fun a b hab hne => ?_) hne
  by_contra hnot
  exact hne (String.le_antisymm (of_decide_eq_true hab) (String.not_lt.mp hnot))

end Collected

/-! ### The fields of a Path Item in lower case -/

section Fields
variable (case : CaseMapping) {key verb : String}

/-- The names that OpenAPI fixes are in lower case. -/
theorem lower_fixed (h : key ∈ httpMethods ++ otherFields) : case.lower key = key := by
  have hascii : ∀ key ∈ httpMethods ++ otherFields, key.toList.all (fun c => c.toNat < 128 ∧ c.toLower = c) = true := by
    decide
  refine CaseMapping.lower_of_isLower fun c hc => ?_
  obtain ⟨hlt, hlower⟩ := of_decide_eq_true (List.all_eq_true.mp (hascii key h) c hc)
  exact CaseMapping.isLower_of_ascii hlt hlower

/-- An extension stays one. -/
theorem isExtension_lower (h : IsExtension key) : IsExtension (case.lower key) := by
  obtain ⟨rest, hrest⟩ := h
  have hx : case.lowerFull 'x' = ['x'] := case.lower_ascii 'x' (by decide)
  have hdash : case.lowerFull '-' = ['-'] := case.lower_ascii '-' (by decide)
  refine ⟨case.lowerFrom ['-', 'x'] rest, ?_⟩
  rw [CaseMapping.lower, String.toList_ofList, ← hrest]
  simp [CaseMapping.lowerFrom, hx, hdash]

/-- No operation and no field that is skipped is called like an extension. -/
theorem not_isExtension (h : key ∈ httpMethods ++ otherFields ++ nonVerbKeys) : ¬IsExtension key := by
  have hnone : ∀ key ∈ httpMethods ++ otherFields ++ nonVerbKeys, ¬IsExtension key := by decide
  exact hnone key h

/-- A key is lowered to a method only when it is the method. -/
theorem lower_eq_method_iff (hkey : key ∈ httpMethods ∨ key ∈ otherFields ∨ IsExtension key) (hverb : verb ∈ httpMethods) :
    case.lower key = verb ↔ key = verb := by
  have hplain : ¬IsExtension verb := not_isExtension (List.mem_append_left _ (List.mem_append_left _ hverb))
  rcases hkey with hkey | hkey | hkey
  · rw [lower_fixed case (List.mem_append_left _ hkey)]
  · rw [lower_fixed case (List.mem_append_right _ hkey)]
  · refine iff_of_false (fun heq => ?_) fun heq => ?_
    · exact hplain (heq ▸ isExtension_lower case hkey)
    · exact hplain (heq ▸ hkey)

/-- What is overlooked is taken for a verb that is none. -/
theorem lower_overlooked (h : Overlooked key) : case.lower key ∉ nonVerbKeys ∧ case.lower key ∉ httpMethods := by
  rcases h with rfl | rfl | h
  · rw [lower_fixed case (by decide)]
    decide
  · rw [lower_fixed case (by decide)]
    decide
  · have hextension := isExtension_lower case h
    refine ⟨fun hmem => ?_, fun hmem => ?_⟩
    · exact not_isExtension (List.mem_append_right _ hmem) hextension
    · exact not_isExtension (List.mem_append_left _ (List.mem_append_left _ hmem)) hextension

/-- Every other key is a method, or skipped. -/
theorem lower_of_not_overlooked (hkey : key ∈ httpMethods ∨ key ∈ otherFields ∨ IsExtension key) (h : ¬Overlooked key)
    (hkept : case.lower key ∉ nonVerbKeys) : case.lower key ∈ httpMethods := by
  have hfields : ∀ key ∈ otherFields, Overlooked key ∨ key ∈ nonVerbKeys := by decide
  rcases hkey with hkey | hkey | hkey
  · rw [lower_fixed case (List.mem_append_left _ hkey)]
    exact hkey
  · rw [lower_fixed case (List.mem_append_right _ hkey)] at hkept
    exact absurd (hfields key hkey) (by simp [h, hkept])
  · exact absurd (Or.inr (Or.inr hkey)) h

end Fields

/-! ### The summary of a document -/

section Summary
variable (case : CaseMapping) {spec : Document} {method path : String}

theorem method_kept (h : method ∈ httpMethods) : method ∉ nonVerbKeys := by
  have hnone : ∀ method ∈ httpMethods, method ∉ nonVerbKeys := by decide
  exact hnone method h

/-- Under a method stand the paths that define it, whatever else the Path Items have. -/
theorem paths_of_method (h : method ∈ httpMethods) : ((pathsByVerb case.lower spec.paths).get method).getD [] =
    ((spec.paths.filter fun entry => method ∈ entry.2.getD []).map Prod.fst).mergeSort fun a b => a ≤ b := by
  rw [getD_pathsByVerb, values_eq (method_kept h)]
  intro path keys hmem
  obtain ⟨item, hitem⟩ := spec.pathItems path (some keys) hmem
  cases hitem
  exact ⟨item.nodup, fun key hkey => lower_eq_method_iff case (item.allowed key hkey) h⟩

theorem listed_iff (h : method ∈ httpMethods) :
    path ∈ ((pathsByVerb case.lower spec.paths).get method).getD [] ↔ Defines spec.toOpenApi path method := by
  rw [paths_of_method case h, List.mem_mergeSort, List.mem_map]
  constructor
  · rintro ⟨⟨path, item⟩, hmem, rfl⟩
    obtain ⟨hmem, hhas⟩ := List.mem_filter.mp hmem
    cases item with
    | none => cases of_decide_eq_true hhas
    | some keys => exact ⟨keys, hmem, of_decide_eq_true hhas⟩
  · rintro ⟨keys, hmem, hhas⟩
    exact ⟨(path, some keys), List.mem_filter.mpr ⟨hmem, decide_eq_true hhas⟩, rfl⟩

/-- The list under a method is strictly increasing. -/
theorem increasing_of_method (h : method ∈ httpMethods) :
    (((pathsByVerb case.lower spec.paths).get method).getD []).Pairwise (· < ·) := by
  rw [paths_of_method case h]
  exact pairwise_lt_mergeSort (spec.nodup.sublist (List.filter_sublist.map Prod.fst))

/-- The keys are methods when no Path Item has a field that the code overlooks. -/
theorem verbs_iff : (∀ verb ∈ (pathsByVerb case.lower spec.paths).keys, verb ∈ httpMethods) ↔
    ∀ path keys, (path, some keys) ∈ spec.paths → ∀ key ∈ keys, ¬Overlooked key := by
  constructor
  · intro hverbs path keys hmem key hkey hoverlooked
    obtain ⟨hkept, hnone⟩ := lower_overlooked case hoverlooked
    exact hnone (hverbs _ (mem_keys_pathsByVerb.mpr ⟨hkept, path, keys, hmem, key, hkey, rfl⟩))
  · intro hfields verb hverb
    obtain ⟨hkept, path, keys, hmem, key, hkey, rfl⟩ := mem_keys_pathsByVerb.mp hverb
    obtain ⟨item, hitem⟩ := spec.pathItems path (some keys) hmem
    cases hitem
    exact lower_of_not_overlooked case (item.allowed key hkey) (hfields path _ hmem key hkey) hkept

theorem summarises_iff : Summarises spec.toOpenApi (pathsByVerb case.lower spec.paths) ↔
    ∀ path keys, (path, some keys) ∈ spec.paths → ∀ key ∈ keys, ¬Overlooked key := by
  rw [← verbs_iff case]
  refine ⟨Summarises.verbs, fun hverbs => ⟨nodup_pathsByVerb, hverbs, fun method h path => listed_iff case h, ?_⟩⟩
  intro verb paths hmem
  have hget : (pathsByVerb case.lower spec.paths).get verb = some paths := Dict.get_of_mem nodup_pathsByVerb hmem
  have hlist : (((pathsByVerb case.lower spec.paths).get verb).getD []).Pairwise (· < ·) :=
    increasing_of_method case (hverbs verb (Dict.mem_keys hmem))
  rwa [hget] at hlist

end Summary

/-- The summary of a document groups its paths by their methods exactly when no Path Item has a `$ref`, servers or an
    extension: the code skips the other fields only. -/
theorem openapi_summary_iff (case : CaseMapping) (deps : Deps) (spec : Document) :
    (∃ summary, buildOpenapi case deps spec.toOpenApi true = .openApiSummary summary ∧
      Summarises spec.toOpenApi summary.pathsByVerb) ↔
    ∀ path keys, (path, some keys) ∈ spec.paths → ∀ key ∈ keys, ¬Overlooked key := by
  rw [← summarises_iff case]
  constructor
  · rintro ⟨summary, hbuild, hsummarises⟩
    cases hbuild
    exact hsummarises
  · exact fun hsummarises => ⟨_, rfl, hsummarises⟩

/-- One path, with a server of its own. -/
def ordersElsewhere : Document where
  title := some "iris-service"
  version := some "1.0.0"
  description := none
  paths := [("/orders", some ["servers", "get"])]
  nodup := by decide
  pathItems path item hmem := by
    cases List.mem_singleton.mp hmem
    exact ⟨⟨["servers", "get"], by decide, by decide⟩, rfl⟩

/-- `servers` is listed as a verb. -/
theorem servers_taken_for_verb : ¬∀ (case : CaseMapping) (deps : Deps) (spec : Document), ∃ summary,
    buildOpenapi case deps spec.toOpenApi true = .openApiSummary summary ∧
      Summarises spec.toOpenApi summary.pathsByVerb := by
  intro h
  obtain ⟨summary, hbuild, hsummarises⟩ := h .ascii bareDeps ordersElsewhere
  cases hbuild
  have hservers := (summarises_iff _).mp hsummarises "/orders" _ List.mem_cons_self "servers" List.mem_cons_self
  exact hservers (Or.inr (Or.inl rfl))

/-! ### Keys in ASCII -/

section Ascii
variable {case : CaseMapping} {paths : List (String × Option (List String))}

theorem lowerFrom_ascii {before s : List Char} (h : ∀ c ∈ s, c.toNat < 128) :
    case.lowerFrom before s = s.map lowerChar := by
  induction s generalizing before with
  | nil => rfl
  | cons c s ih =>
    obtain ⟨hc, hs⟩ := List.forall_mem_cons.mp h
    have hsigma : c ≠ 'Σ' := by
      rintro rfl
      exact absurd hc (by decide)
    have hkelvin : c ≠ '\u212a' := by
      rintro rfl
      exact absurd hc (by decide)
    rw [CaseMapping.lowerFrom, if_neg hsigma, case.lower_ascii c hc, ih hs, List.map_cons, lowerChar, if_neg hkelvin]
    rfl

theorem lower_ascii {s : String} (h : ∀ c ∈ s.toList, c.toNat < 128) : case.lower s = Str.lower s := by
  rw [CaseMapping.lower, lowerFrom_ascii h, Str.lower]

/-- The loops of the tool's model, one after the other. -/
theorem collectVerbs_eq (paths : List (String × Option (List String))) : collectVerbs paths = collect Str.lower paths := by
  rw [collect, foldl_addPath, collectVerbs, List.filter_flatMap]
  simp only [List.filter_map]
  rfl

/-- With such keys the summary is that of the tool's model. -/
theorem buildOpenapi_ascii (case : CaseMapping) (deps : Deps) {spec : OpenApi}
    (h : ∀ path keys, (path, some keys) ∈ spec.paths → ∀ key ∈ keys, ∀ c ∈ key.toList, c.toNat < 128) (summary : Bool) :
    buildOpenapi case deps spec summary = Tools.buildOpenapi deps spec summary := by
  have hentries : entries case.lower spec.paths = entries Str.lower spec.paths := by
    refine List.flatMap_congr fun entry hmem => ?_
    obtain ⟨path, item⟩ := entry
    cases item with
    | none => rfl
    | some keys =>
      have hlower : ∀ key ∈ keys, case.lower key = Str.lower key := fun key hkey => lower_ascii (h path keys hmem key hkey)
      have hkept : keys.filter (fun key => case.lower key ∉ nonVerbKeys) =
          keys.filter fun key => Str.lower key ∉ nonVerbKeys :=
        List.filter_congr fun key hkey => by rw [hlower key hkey]
      rw [Option.getD_some, hkept]
      exact List.map_congr_left fun key hkey => by rw [hlower key (List.mem_filter.mp hkey).1]
  rw [buildOpenapi, Tools.buildOpenapi, collectVerbs_eq, pathsByVerb, collect, collect, foldl_addPath, foldl_addPath,
    hentries]

end Ascii

end IrisService.Mcp.OpenApiDoc
