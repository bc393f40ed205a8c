import ConfigFanout.Proofs.Traces
import ConfigFanout.Reconcile

-- The texts that name the same namespaces. A text is read through its entries, the pieces
-- between its commas without white space, and neither their order nor the spaces around and
-- inside them make a difference. Nothing else is lost, so a list that was read off a text is
-- read again when it is written with commas.
namespace ConfigFanout

/-! ## Texts in order -/

/-- Two lists of texts come out the same if they have the same texts, each as often. -/
theorem sortTexts_eq_iff_perm {texts others : List String} :
    sortTexts texts = sortTexts others ↔ texts.Perm others := by
  constructor
  · intro heq
    exact (sortTexts_perm texts).symm.trans (heq ▸ sortTexts_perm others)
  · intro hperm
    have hsorted : (sortTexts texts).Perm (sortTexts others) :=
      (sortTexts_perm texts).trans (hperm.trans (sortTexts_perm others).symm)
    exact hsorted.eq_of_pairwise (fun _ _ _ _ => String.le_antisymm) (sortTexts_sorted texts)
      (sortTexts_sorted others)

theorem sortTexts_eq_mergeSort (texts : List String) : sortTexts texts = texts.mergeSort := by
  have hperm : (sortTexts texts).Perm texts.mergeSort :=
    (sortTexts_perm texts).trans (List.mergeSort_perm texts _).symm
  have hsorted : texts.mergeSort.Pairwise (· ≤ ·) := by
    refine (List.pairwise_mergeSort ?_ ?_ texts).imp fun h => of_decide_eq_true h
    · intro first middle last
      simpa using String.le_trans
    · simpa using String.le_total
  exact hperm.eq_of_pairwise (fun _ _ _ _ => String.le_antisymm) (sortTexts_sorted texts) hsorted

/-! ## Texts cut at commas -/

theorem cutAtCommas_eq_splitOn (text : List Char) : cutAtCommas text = text.splitOn ',' := by
  induction text with
  | nil => rfl
  | cons c rest ih =>
    rw [List.splitOn_cons_eq_if_modifyHead, ← ih, cutAtCommas]
    by_cases hc : c = ','
    · simp [hc]
    · rw [if_neg hc, if_neg (by simpa using hc)]
      cases hcut : cutAtCommas rest with
      | nil => exact absurd hcut (NamespaceList.cutAtCommas_ne_nil rest)
      | cons first others => rfl

theorem length_cutAtCommas (text : List Char) :
    (cutAtCommas text).length = text.count ',' + 1 := by
  fun_induction cutAtCommas text with
  | case1 => rfl
  | case2 rest ih => simp [ih]
  | case3 c rest hc hcut ih => exact absurd hcut (NamespaceList.cutAtCommas_ne_nil rest)
  | case4 c rest hc first others hcut ih =>
    rw [hcut] at ih
    rw [List.count_cons_of_ne hc]
    simpa using ih

/-- A piece has no characters but those of the text, and no comma. -/
theorem mem_of_mem_cutAtCommas {text piece : List Char} {c : Char}
    (hpiece : piece ∈ cutAtCommas text) (mem : c ∈ piece) : c ∈ text ∧ c ≠ ',' := by
  fun_induction cutAtCommas text generalizing piece with
  | case1 =>
    obtain rfl := List.mem_singleton.mp hpiece
    exact absurd mem List.not_mem_nil
  | case2 rest ih =>
    rcases List.mem_cons.mp hpiece with rfl | hpiece
    · exact absurd mem List.not_mem_nil
    · exact (ih hpiece mem).imp_left (List.mem_cons_of_mem _)
  | case3 c rest hc hcut ih => exact absurd hcut (NamespaceList.cutAtCommas_ne_nil rest)
  | case4 d rest hd first others hcut ih =>
    rw [hcut] at ih
    rcases List.mem_cons.mp hpiece with rfl | hpiece
    · rcases List.mem_cons.mp mem with rfl | mem
      · exact ⟨List.mem_cons_self, hd⟩
      · exact (ih List.mem_cons_self mem).imp_left (List.mem_cons_of_mem _)
    · exact (ih (List.mem_cons_of_mem _ hpiece) mem).imp_left (List.mem_cons_of_mem _)

/-- Whatever holds of the comma and of all characters of some texts holds of all characters
of these texts in a row with commas between them. -/
theorem forall_mem_intercalate {holds : Char → Prop} (comma : holds ',') {texts : List String}
    (h : ∀ text ∈ texts, ∀ c ∈ text.toList, holds c) :
    ∀ c ∈ (",".intercalate texts).toList, holds c := by
  rw [String.toList_intercalate]
  induction texts with
  | nil => simp
  | cons text rest ih =>
    obtain ⟨htext, hrest⟩ := List.forall_mem_cons.mp h
    rcases rest with - | ⟨next, others⟩
    · simpa using htext
    · have hlater := ih hrest
      rw [List.map_cons, List.map_cons, List.intercalate_cons_cons]
      simp only [List.mem_append]
      rintro c ((mem | mem) | mem)
      · exact htext c mem
      · have hc : c = ',' := by simpa using mem
        rwa [hc]
      · exact hlater c mem

namespace NamespaceList

/-! ## Entries -/

/-- A text without its white space, wherever it stood. -/
def bare (raw : String) : String :=
  String.ofList (raw.toList.filter fun c => !Text.isBlank c)

/-- What stands between the commas of a text, without white space, in the order of the text. -/
def entries (raw : String) : List String :=
  ((bare raw).toList.splitOn ',').map String.ofList

/-- A text that may be an entry: it has no white space and no comma. -/
def IsEntry (name : String) : Prop :=
  ∀ c ∈ name.toList, Text.isBlank c = false ∧ c ≠ ','

instance (name : String) : Decidable (IsEntry name) :=
  List.decidableBAll (fun c => Text.isBlank c = false ∧ c ≠ ',') name.toList

variable {raw other : String} {names : List String}

theorem parse_eq_sortTexts (raw : String) : parse raw = sortTexts (entries raw) := by
  rw [entries, bare, String.toList_ofList, ← cutAtCommas_eq_splitOn, parse]

theorem parse_perm (raw : String) : (parse raw).Perm (entries raw) :=
  parse_eq_sortTexts raw ▸ sortTexts_perm (entries raw)

theorem length_entries (raw : String) : (entries raw).length = raw.toList.count ',' + 1 := by
  have hcount : (raw.toList.filter fun c => !Text.isBlank c).count ',' = raw.toList.count ',' :=
    List.count_filter (by decide)
  rw [entries, List.length_map, bare, String.toList_ofList, ← cutAtCommas_eq_splitOn,
    length_cutAtCommas, hcount]

theorem isEntry_of_mem_entries {name : String} (mem : name ∈ entries raw) : IsEntry name := by
  rw [entries, bare, String.toList_ofList, ← cutAtCommas_eq_splitOn] at mem
  obtain ⟨piece, hpiece, rfl⟩ := List.mem_map.mp mem
  intro c hc
  rw [String.toList_ofList] at hc
  obtain ⟨hmem, hcomma⟩ := mem_of_mem_cutAtCommas hpiece hc
  have hblank := (List.mem_filter.mp hmem).2
  exact ⟨by simpa using hblank, hcomma⟩

/-- With commas between them, the entries of a text are the text without white space. -/
theorem intercalate_entries (raw : String) : ",".intercalate (entries raw) = bare raw := by
  apply String.toList_inj.mp
  rw [String.toList_intercalate, entries, List.map_map]
  have hid : String.toList ∘ String.ofList = id := funext fun _ => String.toList_ofList
  rw [hid, List.map_id]
  exact List.intercalate_splitOn ','

theorem bare_of_forall (h : ∀ c ∈ raw.toList, Text.isBlank c = false) : bare raw = raw := by
  have hall : raw.toList.filter (fun c => !Text.isBlank c) = raw.toList :=
    List.filter_eq_self.mpr fun c mem => by simp [h c mem]
  rw [bare, hall, String.ofList_toList]

/-- Names in a row with commas between them have these names as entries. -/
theorem entries_intercalate (nonempty : names ≠ []) (plain : ∀ name ∈ names, IsEntry name) :
    entries (",".intercalate names) = names := by
  have hbare : bare (",".intercalate names) = ",".intercalate names :=
    bare_of_forall (forall_mem_intercalate (by decide) fun name mem c hc => (plain name mem c hc).1)
  have hsplit : ([','].intercalate (names.map String.toList)).splitOn ',' =
      names.map String.toList := by
    apply List.splitOn_intercalate ','
    · intro piece mem hcomma
      obtain ⟨name, hname, rfl⟩ := List.mem_map.mp mem
      exact (plain name hname ',' hcomma).2 rfl
    · simpa using nonempty
  have hid : String.ofList ∘ String.toList = id := funext fun _ => String.ofList_toList
  rw [entries, hbare, String.toList_intercalate]
  show List.map String.ofList (([','].intercalate (names.map String.toList)).splitOn ',') = names
  rw [hsplit, List.map_map, hid, List.map_id]

/-! ## The reading of a text -/

/-- What may be read off a text: entries in the order of their code points, one more than there
are commas. -/
structure IsReading (raw : String) (names : List String) : Prop where
  sorted : names.Pairwise (· ≤ ·)
  nonempty : names ≠ []
  length : names.length = raw.toList.count ',' + 1
  entries : ∀ name ∈ names, IsEntry name

theorem isReading_parse (raw : String) : IsReading raw (parse raw) where
  sorted := sortTexts_sorted _
  nonempty h := by
    have hlength := (parse_perm raw).length_eq
    rw [h, length_entries] at hlength
    simp at hlength
  length := by rw [(parse_perm raw).length_eq, length_entries]
  entries _ mem := isEntry_of_mem_entries ((parse_perm raw).mem_iff.mp mem)

theorem parse_eq_iff_perm : parse raw = parse other ↔ (entries raw).Perm (entries other) := by
  rw [parse_eq_sortTexts, parse_eq_sortTexts, sortTexts_eq_iff_perm]

theorem parse_intercalate (nonempty : names ≠ []) (plain : ∀ name ∈ names, IsEntry name) :
    parse (",".intercalate names) = sortTexts names := by
  rw [parse_eq_sortTexts, entries_intercalate nonempty plain]

theorem parse_intercalate_parse (raw : String) :
    parse (",".intercalate (parse raw)) = parse raw := by
  have hreading := isReading_parse raw
  calc parse (",".intercalate (parse raw)) = sortTexts (parse raw) :=
        parse_intercalate hreading.nonempty hreading.entries
    _ = sortTexts (entries raw) := sortTexts_eq_iff_perm.mpr (parse_perm raw)
    _ = parse raw := (parse_eq_sortTexts raw).symm

/-! ## The word for every namespace -/

theorem isEvery_parse_iff : isEvery (parse raw) = true ↔ bare raw = everyNamespace := by
  unfold isEvery
  rw [decide_eq_true_eq]
  constructor
  · intro hparse
    have hentries : entries raw = [everyNamespace] :=
      List.perm_singleton.mp (hparse ▸ (parse_perm raw).symm)
    rw [← intercalate_entries, hentries]
    rfl
  · intro hbare
    rw [parse_eq_sortTexts, entries, hbare]
    decide

end NamespaceList

open NamespaceList

theorem resolve_of_explicit {raw : String} (explicit : isEvery (parse raw) = false) :
    resolve raw = pure ⟨parse raw, false⟩ := by
  unfold resolve
  exact if_neg (Bool.eq_false_iff.mp explicit)

/-- The word for every namespace stands for those that the store then lists. -/
theorem resolve_of_every {raw : String} (every : isEvery (parse raw) = true) :
    resolve raw = .call .listNamespaces fun answer =>
      .done (answer.map fun live => ⟨sortTexts live, true⟩) := by
  unfold resolve
  dsimp only
  rw [if_pos every]
  show Program.call _ _ = Program.call _ _
  congr 1
  funext answer
  cases answer <;> rfl

/-- The store is asked for the namespaces, once, if the text is the word for every namespace, and
for nothing otherwise. -/
theorem calls_resolve {σ : Type} (store : Store σ) (state : σ) (raw : String) :
    ((resolve raw).acts store state).filterMap Act.call? =
      if bare raw = everyNamespace then [.listNamespaces] else [] := by
  cases hevery : isEvery (parse raw) with
  | true =>
    rw [if_pos (isEvery_parse_iff.mp hevery), resolve_of_every hevery]
    rfl
  | false =>
    have hbare : bare raw ≠ everyNamespace := fun hbare =>
      Bool.eq_false_iff.mp hevery (isEvery_parse_iff.mpr hbare)
    rw [if_neg hbare, resolve_of_explicit hevery]
    rfl

/-- What is read off a text is in order and never empty, with one entry more than there are
commas and nothing but entries. Two texts are read alike exactly if they have the same entries,
each as often; names that are written with commas between them are read as these names in order,
and so what was read off a text is read again as it is. The list stands for every namespace
exactly if the text is the word for them but for white space, and then alone the store is asked
which there are. -/
theorem a_list_of_namespaces_is_read_off_its_entries :
    (∀ raw, IsReading raw (parse raw)) ∧
    (∀ raw other, parse raw = parse other ↔ (entries raw).Perm (entries other)) ∧
    (∀ names ≠ [], (∀ name ∈ names, IsEntry name) →
      parse (",".intercalate names) = names.mergeSort) ∧
    (∀ raw, parse (",".intercalate (parse raw)) = parse raw) ∧
    ∀ raw, (isEvery (parse raw) = true ↔ bare raw = "all") ∧
      ∀ {σ : Type} (store : Store σ) (state : σ),
        StoreCall.listNamespaces ∈ ((resolve raw).acts store state).filterMap Act.call? ↔
          bare raw = "all" := by
  refine ⟨isReading_parse, fun _ _ => parse_eq_iff_perm, ?_, parse_intercalate_parse, ?_⟩
  · intro names nonempty plain
    rw [parse_intercalate nonempty plain, sortTexts_eq_mergeSort]
  · intro raw
    refine ⟨isEvery_parse_iff, fun store state => ?_⟩
    rw [calls_resolve]
    by_cases hbare : bare raw = everyNamespace
    · rw [if_pos hbare]
      exact iff_of_true List.mem_cons_self hbare
    · rw [if_neg hbare]
      exact iff_of_false List.not_mem_nil hbare

/-- Neither the order of the entries nor white space in and around them counts, but how often
each of them stands there does. -/
theorem entries_may_stand_in_any_order :
    parse "b,a,,b" = ["", "a", "b", "b"] ∧ parse "\t a,b ,b\u2003, " = parse "b,a,,b" ∧
      parse "a,b," ≠ parse "b,a,,b" := by
  obtain ⟨-, hsame, hjoined, -⟩ := a_list_of_namespaces_is_read_off_its_entries
  refine ⟨?_, (hsame _ _).mpr (by decide), fun heq => ?_⟩
  · have hread : parse (",".intercalate ["b", "a", "", "b"]) = ["b", "a", "", "b"].mergeSort :=
      hjoined _ (by decide) (by decide)
    rw [← sortTexts_eq_mergeSort] at hread
    exact hread
  · exact absurd ((hsame _ _).mp heq) (by decide)

end ConfigFanout
