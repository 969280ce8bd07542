import LiveData.Frontend.Workspace

/-!
# One promise at a time

The buttons of the workspace are disabled while a handler runs. In every run at most one
promise is awaited, so that no reply can overtake another, and the status tells whether there
is one.
-/

namespace LiveData.Workspace

open Analytics

namespace AnalyticsWorkspace

variable {R : Type} {s t : AnalyticsWorkspace R}

/-- The status, the flags and the promises belong together. -/
def Serial (s : AnalyticsWorkspace R) : Prop :=
  match s.awaited with
  | [] => s.bootLoading = false ∧ s.queryStatus ≠ .loading ∧ s.deletingViewTableName = none
  | [.initialData] => s.bootLoading = true ∧ s.queryStatus ≠ .loading ∧
    s.deletingViewTableName = none ∧ s.viewTables = []
  | [.query _] | [.create _] | [.reload _ _ true] =>
    s.bootLoading = false ∧ s.queryStatus = .loading ∧ s.deletingViewTableName = none
  | [.delete name _] => s.bootLoading = false ∧ s.queryStatus = .loading ∧
    s.deletingViewTableName = some name
  | [.reload _ _ false] => s.bootLoading = false ∧ s.queryStatus = .loading ∧
    s.deletingViewTableName.isSome = true
  | _ => False

/-- What a control does not change. -/
structure SameHandlers (s t : AnalyticsWorkspace R) : Prop where
  datasets : t.datasets = s.datasets
  viewTables : t.viewTables = s.viewTables
  queryStatus : t.queryStatus = s.queryStatus
  bootLoading : t.bootLoading = s.bootLoading
  deleting : t.deletingViewTableName = s.deletingViewTableName
  awaited : t.awaited = s.awaited

theorem SameHandlers.refl (s : AnalyticsWorkspace R) : s.SameHandlers s :=
  ⟨rfl, rfl, rfl, rfl, rfl, rfl⟩

theorem SameHandlers.trans {u : AnalyticsWorkspace R} (h : s.SameHandlers t)
    (h' : t.SameHandlers u) : s.SameHandlers u :=
  ⟨h'.datasets.trans h.datasets, h'.viewTables.trans h.viewTables,
    h'.queryStatus.trans h.queryStatus, h'.bootLoading.trans h.bootLoading,
    h'.deleting.trans h.deleting, h'.awaited.trans h.awaited⟩

theorem SameHandlers.serial (h : s.SameHandlers t) (hs : s.Serial) : t.Serial := by
  unfold Serial at hs ⊢
  rwa [h.awaited, h.bootLoading, h.queryStatus, h.deleting, h.viewTables]

theorem sameHandlers_applyDatasetDefaults (s : AnalyticsWorkspace R)
    (dataset : AnalyticsDataset) : s.SameHandlers (s.applyDatasetDefaults dataset) :=
  ⟨rfl, rfl, rfl, rfl, rfl, rfl⟩

theorem sameHandlers_resetJoinControls (s : AnalyticsWorkspace R)
    (dataset : Option AnalyticsDataset) : s.SameHandlers (s.resetJoinControls dataset) := by
  cases dataset <;> exact ⟨rfl, rfl, rfl, rfl, rfl, rfl⟩

theorem sameHandlers_applyJoinTarget (s : AnalyticsWorkspace R)
    (joinDataset : AnalyticsDataset) : s.SameHandlers (s.applyJoinTarget joinDataset) := by
  unfold applyJoinTarget
  split <;> exact ⟨rfl, rfl, rfl, rfl, rfl, rfl⟩

theorem sameHandlers_enableDefaultJoin (s : AnalyticsWorkspace R) :
    s.SameHandlers s.enableDefaultJoin := by
  unfold enableDefaultJoin
  split
  · exact SameHandlers.refl s
  · exact ⟨rfl, rfl, rfl, rfl, rfl, rfl⟩
  · exact sameHandlers_applyJoinTarget s _

theorem sameHandlers_applyRecommendedJoinKeys (s : AnalyticsWorkspace R) :
    s.SameHandlers s.applyRecommendedJoinKeys := by
  unfold applyRecommendedJoinKeys
  split <;> exact ⟨rfl, rfl, rfl, rfl, rfl, rfl⟩

/-! ## What an action does -/

/-- How a control changes the choices of the chart builder. -/
inductive Edit (s : AnalyticsWorkspace R) : AnalyticsWorkspace R → Prop where
  | mode (mode : WorkspaceMode) : Edit s { s with mode := mode }
  | dataset (dataset : AnalyticsDataset) (mode : WorkspaceMode)
    (h : dataset ∈ s.datasets) : Edit s { s.applyDatasetDefaults dataset with mode := mode }
  | column (value : Str) : Edit s (s.handleColumnToggle value)
  | resetJoin : Edit s (s.resetJoinControls s.selectedDataset)
  | enableJoin : Edit s s.enableDefaultJoin
  | joinDataset (joinDataset : AnalyticsDataset) (h : joinDataset ∈ s.joinTargetOptions) :
    Edit s (applyJoinTarget { s with joinDatasetName := joinDataset.name } joinDataset)
  | joinType (joinType : ExploreJoinType) : Edit s { s with joinType := joinType }
  | joinLeft (columnName : Str) (dataset : AnalyticsDataset)
    (hd : s.selectedDataset = some dataset) (hc : columnName ∈ datasetColumnNames dataset) :
    Edit s { s with joinLeftColumn := columnName }
  | joinRight (columnName : Str) (dataset : AnalyticsDataset)
    (hd : s.datasetNamed s.joinDatasetName = some dataset)
    (hc : columnName ∈ datasetColumnNames dataset) :
    Edit s { s with joinRightColumn := columnName }
  | recommendedKeys : Edit s s.applyRecommendedJoinKeys
  | chartKind (chartKind : ChartKind) : Edit s { s with selectedChartKind := chartKind }
  | order (value : Str)
    (h : value = [] ∨ value ∈ s.chartColumnOptions.map ChartColumn.value) :
    Edit s { s with orderBy := value }
  | direction (direction : ExploreSortDirection) : Edit s { s with orderDirection := direction }
  | limit (limit : Int) (h : limit ∈ rowLimitOptions) : Edit s { s with rowLimit := limit }

/-- How a handler starts. -/
inductive Started (s : AnalyticsWorkspace R) : AnalyticsWorkspace R → Prop where
  | refused (hr : s.ready = true) (h : s.controls = none) : Started s s.runExplore
  | explore (hr : s.ready = true) (controls : ExploreControls) (h : s.controls = some controls) :
    Started s (s.start (.query (.explore controls)))
  | sql (hr : s.ready = true) (text : Str) : Started s (s.start (.query (.sql text)))
  | preview (hr : s.ready = true) (sourceSql : Str) :
    Started s (s.start (.query (.preview sourceSql)))
  | create (hr : s.ready = true) : Started s (s.start (.create s.closure))
  | delete (name : Str) (hv : name ∈ s.viewTables) (hd : s.deletingViewTableName = none)
    (hq : s.queryStatus ≠ .loading) : Started s (s.deleteSavedViewTable name)

/-- How a promise is settled. -/
inductive Settled (s : AnalyticsWorkspace R) (reply : Reply R) : AnalyticsWorkspace R → Prop where
  | resumed (index : Nat) (awaited : Awaited) (t : AnalyticsWorkspace R)
    (ha : s.awaited[index]? = some awaited)
    (h : resume { s with awaited := s.awaited.eraseIdx index } awaited reply = some t) :
    Settled s reply t

theorem mem_of_datasetNamed {name : Str} {dataset : AnalyticsDataset}
    (h : s.datasetNamed name = some dataset) : dataset ∈ s.datasets ∧ dataset.name = name :=
  ⟨List.mem_of_find?_eq_some h, by simpa using List.find?_some h⟩

theorem exists_datasetNamed {dataset : AnalyticsDataset} (h : dataset ∈ s.datasets) :
    ∃ found, s.datasetNamed dataset.name = some found :=
  Option.isSome_iff_exists.mp (List.find?_isSome.mpr ⟨dataset, h, decide_eq_true rfl⟩)

/-- A user edits the choices or starts a handler. -/
theorem edit_or_started {a : WorkspaceAction R} (ha : ∀ index reply, a ≠ .settle index reply)
    (h : s.step a = some t) : Edit s t ∨ Started s t := by
  cases a with
  | setMode mode => exact Or.inl (Option.some.inj h ▸ .mode mode)
  | selectDataset name =>
    obtain ⟨-, h⟩ := Option.ite_none_right_eq_some.mp h
    obtain ⟨dataset, hd, rfl⟩ := Option.map_eq_some_iff.mp h
    exact Or.inl (.dataset dataset s.mode (mem_of_datasetNamed hd).1)
  | toggleColumn value =>
    obtain ⟨-, h⟩ := Option.ite_none_right_eq_some.mp h
    exact Or.inl (Option.some.inj h ▸ .column value)
  | toggleJoin =>
    obtain ⟨-, h⟩ := Option.ite_none_right_eq_some.mp h
    obtain rfl := Option.some.inj h
    split
    · exact Or.inl .resetJoin
    · exact Or.inl .enableJoin
  | selectJoinDataset name =>
    obtain ⟨⟨-, -, hname⟩, h⟩ := Option.ite_none_right_eq_some.mp h
    obtain rfl := Option.some.inj h
    obtain ⟨target, htarget, rfl⟩ := List.mem_map.mp hname
    obtain ⟨hmem, hother⟩ := List.mem_filter.mp htarget
    obtain ⟨joinDataset, hfound⟩ := exists_datasetNamed hmem
    obtain ⟨hjoined, hname⟩ := mem_of_datasetNamed hfound
    rw [hfound, Option.map_some, Option.getD_some, ← hname]
    exact Or.inl (.joinDataset joinDataset (List.mem_filter.mpr ⟨hjoined, hname ▸ hother⟩))
  | selectJoinType joinType =>
    obtain ⟨-, h⟩ := Option.ite_none_right_eq_some.mp h
    exact Or.inl (Option.some.inj h ▸ .joinType joinType)
  | selectJoinLeft columnName =>
    obtain ⟨⟨-, -, dataset, hd, hc⟩, h⟩ := Option.ite_none_right_eq_some.mp h
    exact Or.inl (Option.some.inj h ▸ .joinLeft columnName dataset hd hc)
  | selectJoinRight columnName =>
    obtain ⟨⟨-, -, dataset, hd, hc⟩, h⟩ := Option.ite_none_right_eq_some.mp h
    exact Or.inl (Option.some.inj h ▸ .joinRight columnName dataset hd hc)
  | useRecommendedKeys =>
    obtain ⟨-, h⟩ := Option.ite_none_right_eq_some.mp h
    exact Or.inl (Option.some.inj h ▸ .recommendedKeys)
  | selectChartKind chartKind =>
    obtain ⟨-, h⟩ := Option.ite_none_right_eq_some.mp h
    exact Or.inl (Option.some.inj h ▸ .chartKind chartKind)
  | selectOrderBy value =>
    obtain ⟨⟨-, hvalue⟩, h⟩ := Option.ite_none_right_eq_some.mp h
    exact Or.inl (Option.some.inj h ▸ .order value hvalue)
  | selectOrderDirection direction =>
    obtain ⟨-, h⟩ := Option.ite_none_right_eq_some.mp h
    exact Or.inl (Option.some.inj h ▸ .direction direction)
  | selectRowLimit limit =>
    obtain ⟨⟨-, hlimit⟩, h⟩ := Option.ite_none_right_eq_some.mp h
    exact Or.inl (Option.some.inj h ▸ .limit limit hlimit)
  | runExplore =>
    obtain ⟨⟨-, hready⟩, h⟩ := Option.ite_none_right_eq_some.mp h
    obtain rfl := Option.some.inj h
    refine Or.inr ?_
    cases hc : s.controls with
    | none => exact .refused hready hc
    | some controls =>
      have hrun : s.runExplore = s.start (.query (.explore controls)) := by
        simp only [AnalyticsWorkspace.runExplore, hc]
      exact hrun ▸ .explore hready controls hc
  | runSql text =>
    obtain ⟨⟨-, hready⟩, h⟩ := Option.ite_none_right_eq_some.mp h
    exact Or.inr (Option.some.inj h ▸ .sql hready text)
  | runViewTablePreview sourceSql =>
    obtain ⟨⟨-, hready⟩, h⟩ := Option.ite_none_right_eq_some.mp h
    exact Or.inr (Option.some.inj h ▸ .preview hready sourceSql)
  | saveViewTable =>
    obtain ⟨⟨-, hready⟩, h⟩ := Option.ite_none_right_eq_some.mp h
    exact Or.inr (Option.some.inj h ▸ .create hready)
  | deleteSavedViewTable name =>
    obtain ⟨⟨-, hv, hd, hq⟩, h⟩ := Option.ite_none_right_eq_some.mp h
    exact Or.inr (Option.some.inj h ▸ .delete name hv hd hq)
  | openInCharts name =>
    obtain ⟨-, h⟩ := Option.ite_none_right_eq_some.mp h
    obtain rfl := Option.some.inj h
    cases hd : s.datasetNamed name with
    | none => exact Or.inl (.mode s.mode)
    | some dataset => exact Or.inl (.dataset dataset .explore (mem_of_datasetNamed hd).1)
  | settle index reply => exact absurd rfl (ha index reply)

/-- An action of a user is one of these, and the other actions settle a promise. -/
theorem step_cases {a : WorkspaceAction R} (h : s.step a = some t) :
    (∀ index reply, a ≠ .settle index reply) ∧ (Edit s t ∨ Started s t) ∨
      ∃ index reply, a = .settle index reply ∧ Settled s reply t := by
  by_cases ha : ∃ index reply, a = .settle index reply
  · obtain ⟨index, reply, rfl⟩ := ha
    obtain ⟨awaited, ha, h⟩ := Option.bind_eq_some_iff.mp h
    exact Or.inr ⟨index, reply, rfl, .resumed index awaited t ha h⟩
  · have huser : ∀ index reply, a ≠ .settle index reply := fun index reply he =>
      ha ⟨index, reply, he⟩
    exact Or.inl ⟨huser, edit_or_started huser h⟩

/-! ## Runs -/

theorem Edit.sameHandlers (h : Edit s t) : s.SameHandlers t := by
  cases h with
  | dataset dataset mode => exact ⟨rfl, rfl, rfl, rfl, rfl, rfl⟩
  | resetJoin => exact sameHandlers_resetJoinControls s _
  | enableJoin => exact sameHandlers_enableDefaultJoin s
  | joinDataset joinDataset =>
    have hset : s.SameHandlers { s with joinDatasetName := joinDataset.name } :=
      ⟨rfl, rfl, rfl, rfl, rfl, rfl⟩
    obtain ⟨h1, h2, h3, h4, h5, h6⟩ := sameHandlers_applyJoinTarget
      ({ s with joinDatasetName := joinDataset.name } : AnalyticsWorkspace R) joinDataset
    exact ⟨h1, h2, h3, h4, h5, h6⟩
  | recommendedKeys => exact sameHandlers_applyRecommendedJoinKeys s
  | mode | column | joinType | joinLeft | joinRight | chartKind | order | direction | limit =>
    exact ⟨rfl, rfl, rfl, rfl, rfl, rfl⟩

/-- Nothing is awaited when the buttons are enabled. -/
theorem Serial.awaited_eq_nil (hs : s.Serial) (hr : s.ready = true) : s.awaited = [] := by
  simp only [ready, Bool.and_eq_true, Bool.not_eq_true', decide_eq_true_eq] at hr
  unfold Serial at hs
  split at hs <;> simp_all

/-- Nor when a view table can be deleted. -/
theorem Serial.awaited_eq_nil_of_delete (hs : s.Serial) {name : Str} (hv : name ∈ s.viewTables)
    (hq : s.queryStatus ≠ .loading) : s.awaited = [] := by
  unfold Serial at hs
  split at hs <;> simp_all

/-- The only promise is the one that is settled. -/
theorem Serial.awaited_eq (hs : s.Serial) {index : Nat} {awaited : Awaited}
    (h : s.awaited[index]? = some awaited) :
    s.awaited = [awaited] ∧ s.awaited.eraseIdx index = [] := by
  have hlength : s.awaited.length ≤ 1 := by
    unfold Serial at hs
    split at hs <;> simp_all
  obtain ⟨only, honly⟩ : ∃ only, s.awaited = [only] :=
    List.length_eq_one_iff.mp (by have := (List.getElem?_eq_some_iff.mp h).1; omega)
  rw [honly] at h ⊢
  obtain ⟨hindex, rfl⟩ := List.getElem?_eq_some_iff.mp h
  obtain rfl : index = 0 := by simpa using hindex
  exact ⟨rfl, rfl⟩

/-- A handler starts when nothing is awaited. -/
theorem Started.serial (h : Started s t) (hs : s.Serial) : t.Serial := by
  have hready : s.ready = true → s.bootLoading = false ∧ s.deletingViewTableName = none := by
    intro hr
    have hnil := hs.awaited_eq_nil hr
    rw [Serial, hnil] at hs
    exact ⟨hs.1, hs.2.2⟩
  cases h with
  | refused hr hc =>
    have hnil := hs.awaited_eq_nil hr
    obtain ⟨hboot, hdeleting⟩ := hready hr
    simp [Serial, runExplore, hc, hnil, hboot, hdeleting]
  | explore hr | sql hr | preview hr | create hr =>
    have hnil := hs.awaited_eq_nil hr
    obtain ⟨hboot, hdeleting⟩ := hready hr
    simp [Serial, start, hnil, hboot, hdeleting]
  | delete name hv hd hq =>
    have hnil := hs.awaited_eq_nil_of_delete hv hq
    rw [Serial, hnil] at hs
    simp [Serial, deleteSavedViewTable, start, hnil, hs.1]

theorem sameHandlers_chooseReloaded (s : AnalyticsWorkspace R) (closure : Closure)
    (preferred currentDataset activeDataset : Option AnalyticsDataset) :
    s.SameHandlers (s.chooseReloaded closure preferred currentDataset activeDataset) := by
  unfold chooseReloaded
  cases preferred with
  | some dataset => exact sameHandlers_applyDatasetDefaults s dataset
  | none =>
    split_ifs
    · cases activeDataset with
      | some dataset => exact sameHandlers_applyDatasetDefaults s dataset
      | none => exact sameHandlers_resetJoinControls s none
    · exact SameHandlers.refl s

theorem sameHandlers_reloadMetadata (s : AnalyticsWorkspace R) (datasets : List AnalyticsDataset)
    (viewTables : List Str) (preferred : Option Str) (closure : Closure) :
    SameHandlers { s with datasets := datasets, viewTables := viewTables }
      (s.reloadMetadata datasets viewTables preferred closure) := by
  unfold reloadMetadata
  split_ifs
  · exact (sameHandlers_chooseReloaded _ _ _ _ _).trans (sameHandlers_resetJoinControls _ _)
  · exact sameHandlers_chooseReloaded _ _ _ _ _

/-- A promise that is settled leaves none, or the one its handler awaits next. -/
theorem Settled.serial {reply : Reply R} (h : Settled s reply t) (hs : s.Serial) : t.Serial := by
  obtain ⟨index, awaited, t, ha, h⟩ := h
  obtain ⟨honly, hnone⟩ := hs.awaited_eq ha
  rw [hnone] at h
  rw [Serial, honly] at hs
  cases awaited with
  | initialData =>
    cases reply with
    | loaded datasets viewTables =>
      obtain rfl := Option.some.inj h
      cases preferredDataset datasets with
      | none => exact ⟨rfl, hs.2.1, hs.2.2.1⟩
      | some dataset => exact ⟨rfl, hs.2.1, hs.2.2.1⟩
    | rejected message =>
      obtain rfl := Option.some.inj h
      exact ⟨rfl, by simp [fail], hs.2.2.1⟩
    | result | saved | deleted => exact absurd h nofun
  | query query =>
    cases reply with
    | result result =>
      obtain rfl := Option.some.inj h
      exact ⟨hs.1, by simp [succeed], hs.2.2⟩
    | rejected message =>
      obtain rfl := Option.some.inj h
      exact ⟨hs.1, by simp [fail], hs.2.2⟩
    | loaded | saved | deleted => exact absurd h nofun
  | create closure =>
    cases reply with
    | saved name =>
      obtain rfl := Option.some.inj h
      exact hs
    | rejected message =>
      obtain rfl := Option.some.inj h
      exact ⟨hs.1, by simp [fail], hs.2.2⟩
    | loaded | result | deleted => exact absurd h nofun
  | delete name closure =>
    cases reply with
    | deleted =>
      obtain rfl := Option.some.inj h
      exact ⟨hs.1, hs.2.1, by simp [hs.2.2]⟩
    | rejected message =>
      obtain rfl := Option.some.inj h
      exact ⟨hs.1, by simp [fail], rfl⟩
    | loaded | result | saved => exact absurd h nofun
  | reload preferred closure saved =>
    cases reply with
    | loaded datasets viewTables =>
      obtain rfl := Option.some.inj h
      have hsame := sameHandlers_reloadMetadata ({ s with awaited := [] } : AnalyticsWorkspace R)
        datasets viewTables preferred closure
      cases saved with
      | true =>
        simp only [Serial, succeed, if_true, hsame.awaited, hsame.bootLoading, hsame.deleting]
        exact ⟨hs.1, nofun, hs.2.2⟩
      | false =>
        simp only [Serial, succeed, Bool.false_eq_true, if_false, hsame.awaited,
          hsame.bootLoading]
        exact ⟨hs.1, nofun, trivial⟩
    | rejected message =>
      cases saved with
      | true =>
        obtain rfl := Option.some.inj h
        exact ⟨hs.1, by simp [fail], hs.2.2⟩
      | false =>
        obtain rfl := Option.some.inj h
        exact ⟨hs.1, by simp [fail], rfl⟩
    | result | saved | deleted => cases saved <;> exact absurd h nofun

/-- Every action keeps the handlers serial. -/
theorem serial_step {a : WorkspaceAction R} (hs : s.Serial) (h : s.step a = some t) :
    t.Serial := by
  rcases step_cases h with ⟨-, hedit | hstart⟩ | ⟨index, reply, -, hsettled⟩
  · exact hedit.sameHandlers.serial hs
  · exact hstart.serial hs
  · exact hsettled.serial hs

theorem serial_init : Serial ({} : AnalyticsWorkspace R) := ⟨rfl, nofun, rfl, rfl⟩

theorem serial_of_run {actions : List (WorkspaceAction R)}
    (h : run step ({} : AnalyticsWorkspace R) actions = some s) : s.Serial :=
  invariant_of_run (fun _ _ _ hs ht => serial_step hs ht) serial_init h

/-! ## What is shown -/

/-- The result that a reply brings. -/
def replyResult : WorkspaceAction R → Option R
  | .settle _ (.result result) => some result
  | _ => none

theorem replyResult_eq_none {a : WorkspaceAction R}
    (ha : ∀ index reply, a ≠ .settle index reply) : replyResult a = none := by
  cases a with
  | settle index reply => exact absurd rfl (ha index reply)
  | _ => rfl

/-- A control leaves the result. -/
theorem Edit.result_eq (h : Edit s t) : t.result = s.result := by
  cases h with
  | resetJoin =>
    unfold resetJoinControls
    split <;> rfl
  | enableJoin =>
    unfold enableDefaultJoin applyJoinTarget
    split <;> (try split) <;> rfl
  | joinDataset =>
    unfold applyJoinTarget
    split <;> rfl
  | recommendedKeys =>
    unfold applyRecommendedJoinKeys
    split <;> rfl
  | mode | dataset | column | joinType | joinLeft | joinRight | chartKind | order | direction
  | limit => rfl

theorem Started.result_eq (h : Started s t) : t.result = s.result ∨ t.result = none := by
  cases h with
  | refused hr hc => exact Or.inr (by simp [runExplore, hc])
  | explore | sql | preview | create | delete => exact Or.inl rfl

/-- What is shown after a reply was brought by it or was there before. -/
theorem Settled.result_eq {reply : Reply R} (h : Settled s reply t) :
    t.result = none ∨ (∃ result, reply = .result result ∧ t.result = some result) ∨
      ((∀ result, reply ≠ .result result) ∧ t.result = s.result) := by
  obtain ⟨index, awaited, t, -, h⟩ := h
  unfold resume at h
  split at h
  · next datasets viewTables =>
    obtain rfl := Option.some.inj h
    refine Or.inr (Or.inr ⟨nofun, ?_⟩)
    cases preferredDataset datasets <;> rfl
  · obtain rfl := Option.some.inj h
    exact Or.inr (Or.inr ⟨nofun, rfl⟩)
  · next query result =>
    obtain rfl := Option.some.inj h
    exact Or.inr (Or.inl ⟨result, rfl, rfl⟩)
  · exact Or.inl (Option.some.inj h ▸ rfl)
  · exact Or.inr (Or.inr ⟨nofun, Option.some.inj h ▸ rfl⟩)
  · exact Or.inl (Option.some.inj h ▸ rfl)
  · exact Or.inr (Or.inr ⟨nofun, Option.some.inj h ▸ rfl⟩)
  · exact Or.inr (Or.inr ⟨nofun, Option.some.inj h ▸ rfl⟩)
  · next preferred closure saved datasets viewTables =>
    obtain rfl := Option.some.inj h
    left
    cases saved <;> rfl
  · exact Or.inl (Option.some.inj h ▸ rfl)
  · exact Or.inr (Or.inr ⟨nofun, Option.some.inj h ▸ rfl⟩)
  · cases h

/-- A result that is shown is the last one that was received. -/
theorem result_of_run {actions : List (WorkspaceAction R)} {result : R}
    (h : run step ({} : AnalyticsWorkspace R) actions = some s) (hs : s.result = some result) :
    (actions.filterMap replyResult).getLast? = some result := by
  induction actions using List.reverseRecOn generalizing s result with
  | nil =>
    obtain rfl := Option.some.inj h
    cases hs
  | append_singleton actions a ih =>
    obtain ⟨t, ht, h⟩ := run_append_eq_some.mp h
    obtain ⟨u, hu, h⟩ := run_cons_eq_some.mp h
    obtain rfl := Option.some.inj h
    have hkept : t.result = some result → replyResult a = none →
        ((actions ++ [a]).filterMap replyResult).getLast? = some result := by
      intro hresult hnone
      rw [List.filterMap_append, List.filterMap_cons_none hnone, List.filterMap_nil,
        List.append_nil]
      exact ih ht hresult
    rcases step_cases hu with ⟨huser, hedit | hstart⟩ | ⟨index, reply, rfl, hsettled⟩
    · exact hkept (hedit.result_eq.symm.trans hs) (replyResult_eq_none huser)
    · rcases hstart.result_eq with hsame | hnone
      · exact hkept (hsame.symm.trans hs) (replyResult_eq_none huser)
      · exact absurd (hs.symm.trans hnone) nofun
    · rcases hsettled.result_eq with hnone | ⟨found, rfl, hfound⟩ | ⟨hother, hsame⟩
      · exact absurd (hs.symm.trans hnone) nofun
      · obtain rfl := Option.some.inj (hs.symm.trans hfound)
        have hresult : [WorkspaceAction.settle index (.result result)].filterMap replyResult =
            [result] := rfl
        rw [List.filterMap_append, hresult, List.getLast?_concat]
      · refine hkept (hsame.symm.trans hs) ?_
        cases reply with
        | result found => exact absurd rfl (hother found)
        | loaded | saved | deleted | rejected => rfl

/-- The promises of a handler that deletes. -/
def deletes : Awaited → Bool
  | .delete _ _ | .reload _ _ false => true
  | _ => false

/-- In every run of the workspace at most one promise is awaited. The buttons are enabled exactly
when there is none, the flags and the status tell which one there is, and a result that is
shown is the last one that was received. -/
theorem one_promise_at_a_time {actions : List (WorkspaceAction R)}
    (h : run step ({} : AnalyticsWorkspace R) actions = some s) :
    s.awaited.length ≤ 1 ∧ (s.ready = true ↔ s.awaited = []) ∧
      (s.bootLoading = true ↔ .initialData ∈ s.awaited) ∧
      (s.queryStatus = .loading ↔ ∃ awaited ∈ s.awaited, awaited ≠ .initialData) ∧
      (s.deletingViewTableName.isSome = true ↔ ∃ awaited ∈ s.awaited, deletes awaited = true) ∧
      ∀ result ∈ s.result, (actions.filterMap replyResult).getLast? = some result := by
  refine ⟨?_, ?_, ?_, ?_, ?_, fun result hresult => result_of_run h hresult⟩
  all_goals
    have hs := serial_of_run h
    unfold Serial at hs
    split at hs <;> simp_all [ready, deletes]

/-- A chart is run after the metadata was loaded. -/
def chartRun : List (WorkspaceAction Nat) :=
  [.settle 0 (.loaded getDatasets []), .toggleJoin, .runExplore, .settle 0 (.result 5)]

/-- Where it leads. -/
def chartState : AnalyticsWorkspace Nat := (run step {} chartRun).getD {}

theorem run_chartRun : run step ({} : AnalyticsWorkspace Nat) chartRun = some chartState :=
  run_eq_some_getD (by decide +kernel) _

/-- The result of the chart is shown, and nothing is awaited. -/
theorem chartState_shown : chartState.result = some 5 ∧ chartState.awaited.length ≤ 1 ∧
    (chartState.ready = true ↔ chartState.awaited = []) ∧
      (chartState.bootLoading = true ↔ .initialData ∈ chartState.awaited) ∧
      (chartState.queryStatus = .loading ↔
        ∃ awaited ∈ chartState.awaited, awaited ≠ .initialData) ∧
      (chartState.deletingViewTableName.isSome = true ↔
        ∃ awaited ∈ chartState.awaited, deletes awaited = true) ∧
      ∀ result ∈ chartState.result,
        (chartRun.filterMap replyResult).getLast? = some result :=
  ⟨by decide +kernel, one_promise_at_a_time run_chartRun⟩

end AnalyticsWorkspace

end LiveData.Workspace
