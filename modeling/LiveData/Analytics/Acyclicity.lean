import LiveData.Analytics.ViewTableEffects
import LiveData.Core.Rewiring

/-!
# Cycles among saved views

The sources of the saved views make a graph over relation names. A returning call keeps
it acyclic exactly when no relation the new source reads leads back to the saved name;
the service does not look for such a relation.
-/

namespace LiveData.Analytics

open Sql Rewiring Relation

/-- The stored source of the saved view `a` reads the relation `b`. -/
def Edge (host : ViewTableHost) (db : Database) (a b : Str) : Prop :=
  ∃ row, db.viewTables.lookup a = some row ∧ b ∈ sourceRelations host.sqlglot row.sourceSql

/-- The events table and the built-in views. -/
def IsBase (name : Str) : Prop := name ∈ viewTableSourceRelationNames ++ allowedDatasetNames

/-- The relation can be expanded through saved views down to base relations. -/
def Expandable (host : ViewTableHost) (db : Database) (name : Str) : Prop :=
  Expands (· ∈ Dict.keys db.viewTables) IsBase (Edge host db) name

/-- The sources of the saved views read base relations and saved views, the database knows
what they read, and every saved view can be expanded. -/
structure Traced (host : ViewTableHost) (db : Database) : Prop where
  view : ∀ name row, db.viewTables.lookup name = some row → ∃ relation body,
    db.relations.lookup name = some relation ∧ relation.body = some body ∧
      body.reads = sourceRelations host.sqlglot row.sourceSql
  reads : ∀ a b, Edge host db a b → IsBase b ∨ b ∈ Dict.keys db.viewTables
  expands : ∀ name ∈ Dict.keys db.viewTables, Expandable host db name

namespace ViewTableService

/-- If the call saves a view, no relation its source reads leads back to the saved name. -/
def NoReturn (host : ViewTableHost) (db : Database) (call : Call) : Prop :=
  (execute host db call).1 = none →
    match call with
    | .create rawName rawDescription rawSql faults => ∀ name description query,
        checkedCreate host faults db rawName rawDescription rawSql =
          .ok (name, description, query) →
        ∀ relation ∈ sourceRelations host.sqlglot query.sql,
          ¬ReflTransGen (Edge host db) relation name
    | .delete _ _ => True

/-- If the call saves a view, its source reads base relations and saved views only, and
reads the same as it is executed. -/
def ReadsDatasets (host : ViewTableHost) (db : Database) (call : Call) : Prop :=
  (execute host db call).1 = none →
    match call with
    | .create rawName rawDescription rawSql faults => ∀ name description query,
        checkedCreate host faults db rawName rawDescription rawSql =
          .ok (name, description, query) →
        (∀ relation ∈ sourceRelations host.sqlglot query.sql,
          IsBase relation ∨ relation ∈ Dict.keys db.viewTables) ∧
        ∀ definition, sentText host.wide query.sql = some definition →
          sourceRelations host.sqlglot definition = sourceRelations host.sqlglot query.sql
    | .delete _ _ => True

variable {host : ViewTableHost} {db t : Database} {name : Str}

/-- Saving a view redirects its edges to what its source reads. -/
theorem edge_created {description sourceSql : Str}
    (hrows : t.viewTables = Dict.set db.viewTables name ⟨description, sourceSql⟩) :
    Edge host t = redirect (Edge host db) name (· ∈ sourceRelations host.sqlglot sourceSql) := by
  ext a b
  simp only [Edge, hrows, Dict.lookup_set, redirect]
  by_cases ha : a = name <;> simp [ha]

/-- Removing a view removes its edges. -/
theorem edge_deleted (hrows : t.viewTables = Dict.erase db.viewTables name) (a b : Str) :
    Edge host t a b ↔ a ≠ name ∧ Edge host db a b := by
  simp only [Edge, hrows, Dict.lookup_erase]
  by_cases ha : a = name <;> simp [ha]

/-- An effect keeps the graph acyclic exactly when its call has no way back. -/
theorem Effect.acyclic_iff {call : Call} (h : Effect host db call t)
    (hreturns : (execute host db call).1 = none) (hs : Acyclic (Edge host db)) :
    Acyclic (Edge host t) ↔ NoReturn host db call := by
  cases h with
  | @created rawName rawDescription rawSql faults name description query definition grantee saved
      _ hchecked hdefinition hgrantee hreads hview hbody hgranted hrelations hrows =>
    rw [edge_created hrows, acyclic_redirect_iff hs]
    constructor
    · intro h _ name' description' query' hc
      obtain ⟨rfl, rfl, rfl⟩ : name = name' ∧ description = description' ∧ query = query' := by
        simpa using hchecked.symm.trans hc
      exact h
    · exact fun h => h hreturns name description query hchecked
  | deleted hchecked hview hrelations hrows =>
    refine ⟨fun _ _ => trivial, fun _ => hs.mono fun a b h => ?_⟩
    exact ((edge_deleted hrows a b).mp h).2

theorem traced_migrated (h : Migrated db) : Traced host db where
  view := fun name row hrow => by simp [h.rows] at hrow
  reads := by
    rintro a b ⟨row, hrow, -⟩
    simp [h.rows] at hrow
  expands := fun name hn => by simp [h.rows] at hn

theorem acyclic_migrated (h : Migrated db) : Acyclic (Edge host db) := by
  intro a ha
  cases ha with
  | single hab => obtain ⟨row, hrow, -⟩ := hab; simp [h.rows] at hrow
  | tail _ hab => obtain ⟨row, hrow, -⟩ := hab; simp [h.rows] at hrow

/-- An unreserved name is no base relation. -/
theorem not_isBase (h : Unreserved name) : ¬IsBase name := by
  intro hb
  rcases List.mem_append.mp hb with hb | hb
  · exact h.2 hb
  · exact h.1 hb

/-- No saved view reads a view that can be removed. -/
theorem not_edge_of_traced (hs : Traced host db) (hu : Unreserved name)
    (hview : ∀ relation, db.relations.lookup name = some relation →
      relation.body.isSome ∧ ¬db.HasDependents name) {a : Str} (ha : a ≠ name) :
    ¬Edge host db a name := by
  intro he
  obtain ⟨row, hrow, hread⟩ := he
  have hsaved := (hs.reads a name ⟨row, hrow, hread⟩).resolve_left (not_isBase hu)
  obtain ⟨row', hrow'⟩ := Dict.mem_keys_iff.mp hsaved
  obtain ⟨removed, -, hremoved, -⟩ := hs.view name row' hrow'
  obtain ⟨relation, body, hrelation, hbody, hreads⟩ := hs.view a row hrow
  refine (hview removed hremoved).2
    ⟨(a, relation), Dict.mem_of_lookup hrelation, ha, body, hbody, ?_⟩
  rw [hreads]
  exact hread

/-- A saved view over datasets that do not lead back to it keeps the views traced. -/
theorem traced_created (hs : Traced host db) {description sourceSql definition : Str}
    {saved : StoredRelation}
    (hback : ∀ b ∈ sourceRelations host.sqlglot sourceSql, ¬ReflTransGen (Edge host db) b name)
    (hbase : ∀ b ∈ sourceRelations host.sqlglot sourceSql,
      IsBase b ∨ b ∈ Dict.keys db.viewTables)
    (hbody : saved.body = some ⟨definition, sourceRelations host.sqlglot sourceSql⟩)
    (hrelations : ∀ other, t.relations.lookup other =
      if other = name then some saved else db.relations.lookup other)
    (hrows : t.viewTables = Dict.set db.viewTables name ⟨description, sourceSql⟩) :
    Traced host t := by
  have hkeys : ∀ a, a ∈ Dict.keys db.viewTables → a ∈ Dict.keys t.viewTables := by
    intro a ha
    rw [hrows]
    exact Dict.mem_keys_set.mpr (Or.inr ha)
  have hname : name ∈ Dict.keys t.viewTables := by
    rw [hrows]
    exact Dict.mem_keys_set.mpr (Or.inl rfl)
  have htargets : ∀ b ∈ sourceRelations host.sqlglot sourceSql,
      Expandable host db b ∧ ¬ReflTransGen (Edge host db) b name := by
    intro b hb
    exact ⟨(hbase b hb).elim .leaf (hs.expands b), hback b hb⟩
  refine ⟨fun other row hrow => ?_, fun a b hab => ?_, fun other ho => ?_⟩
  · rw [hrows, Dict.lookup_set] at hrow
    split at hrow
    · next ho =>
      subst ho
      obtain rfl := Option.some.inj hrow
      exact ⟨saved, _, by rw [hrelations, if_pos rfl], hbody, rfl⟩
    · next ho =>
      obtain ⟨relation, body, hrelation, hb, hr⟩ := hs.view other row hrow
      exact ⟨relation, body, by rw [hrelations, if_neg ho, hrelation], hb, hr⟩
  · rw [edge_created hrows] at hab
    rcases hab with ⟨-, hb⟩ | ⟨-, hab⟩
    · exact (hbase b hb).imp id (hkeys b)
    · exact (hs.reads a b hab).imp id (hkeys b)
  · rw [Expandable, edge_created hrows]
    rw [hrows, Dict.mem_keys_set] at ho
    rcases ho with rfl | ho
    · exact expands_redirect_self hkeys hname htargets
    · exact (hs.expands other ho).redirect hkeys hname htargets

/-- Removing a view that no view reads keeps the others traced. -/
theorem traced_deleted (hs : Traced host db) (hu : Unreserved name)
    (hview : ∀ relation, db.relations.lookup name = some relation →
      relation.body.isSome ∧ ¬db.HasDependents name)
    (hrelations : ∀ other, t.relations.lookup other =
      if other = name then none else db.relations.lookup other)
    (hrows : t.viewTables = Dict.erase db.viewTables name) : Traced host t := by
  have hkeys : ∀ a, a ∈ Dict.keys db.viewTables → a ≠ name → a ∈ Dict.keys t.viewTables := by
    intro a ha hne
    rw [hrows]
    exact Dict.mem_keys_erase.mpr ⟨ha, hne⟩
  refine ⟨fun other row hrow => ?_, fun a b hab => ?_, fun other ho => ?_⟩
  · rw [hrows, Dict.lookup_erase] at hrow
    split at hrow
    · simp at hrow
    · next ho =>
      obtain ⟨relation, body, hrelation, hb, hr⟩ := hs.view other row hrow
      exact ⟨relation, body, by rw [hrelations, if_neg ho, hrelation], hb, hr⟩
  · obtain ⟨ha, hab⟩ := (edge_deleted hrows a b).mp hab
    apply (hs.reads a b hab).imp id
    intro hb
    apply hkeys b hb
    rintro rfl
    exact not_edge_of_traced hs hu hview ha hab
  · rw [hrows, Dict.mem_keys_erase] at ho
    apply (hs.expands other ho.1).remove hkeys
    · exact fun a b ha hab => ((edge_deleted hrows a b).mp hab).2
    · exact fun a _ ha => not_edge_of_traced hs hu hview ha
    · exact ho.2

/-- Every effect whose call reads datasets and has no way back keeps the views traced. -/
theorem Effect.traced {call : Call} (h : Effect host db call t)
    (hreturns : (execute host db call).1 = none) (hs : Traced host db)
    (hback : NoReturn host db call) (hdata : ReadsDatasets host db call) : Traced host t := by
  cases h with
  | @created rawName rawDescription rawSql faults name description query definition grantee saved
      _ hchecked hdefinition hgrantee hreads hview hbody hgranted hrelations hrows =>
    obtain ⟨hbase, hsame⟩ := hdata hreturns name description query hchecked
    rw [hsame definition hdefinition] at hbody
    exact traced_created hs (hback hreturns name description query hchecked) hbase hbody
      hrelations hrows
  | deleted hchecked hview hrelations hrows =>
    exact traced_deleted hs (checkedDelete_eq_ok hchecked).2 hview hrelations hrows

/-- The graph is acyclic in every state of a run exactly when no call that saves a view has
a way back to it. If such calls also read datasets only, every dataset of the catalog can
be expanded down to the events table and the built-in views. -/
theorem acyclic_iff_noReturn (host : ViewTableHost) (initial : Database) (hm : Migrated initial)
    (calls : List Call) :
    ((∀ before after db, calls = before ++ after → run (step host) initial before = some db →
        Acyclic (Edge host db)) ↔
      ∀ before call after db, calls = before ++ call :: after →
        run (step host) initial before = some db → NoReturn host db call) ∧
    ((∀ before call after db, calls = before ++ call :: after →
        run (step host) initial before = some db →
          NoReturn host db call ∧ ReadsDatasets host db call) →
      ∀ db, run (step host) initial calls = some db → ∀ faults,
        ∀ name ∈ AnalyticsCatalogService.allowedDatasetNames host faults db,
          Expandable host db name) := by
  refine ⟨⟨fun hall before call after db hb hr => ?_, fun hc before after db hb hr => ?_⟩, ?_⟩
  · rcases execute_cases host db call with ⟨e, he⟩ | ⟨hn, he⟩
    · exact fun hreturns => by simp [he] at hreturns
    · have hafter : run (step host) initial (before ++ [call]) = some (execute host db call).2 :=
        run_append_eq_some.mpr ⟨db, hr, rfl⟩
      have hacyclic := hall before (call :: after) db hb hr
      refine (he.acyclic_iff hn hacyclic).mp (hall (before ++ [call]) after _ ?_ hafter)
      rw [hb, List.append_assoc, List.singleton_append]
  · have hstep : ∀ s call t, Acyclic (Edge host s) → NoReturn host s call →
        step host s call = some t → Acyclic (Edge host t) := fun s call t hs hallowed ht =>
      step_induct hs (fun t hn he => (he.acyclic_iff hn hs).mpr hallowed) ht
    refine invariant_of_run_of_forall hstep (acyclic_migrated hm)
      (fun front call rest s hf hs => hc front call (rest ++ after) s ?_ hs) hr
    rw [hb, hf, List.append_assoc, List.cons_append]
  · intro hc db hr faults name hn
    have hs : Traced host db := by
      refine invariant_of_run_of_forall (fun s call t hs hallowed ht => ?_) (traced_migrated hm)
        hc hr
      exact step_induct hs (fun t hn he => he.traced hn hs hallowed.1 hallowed.2) ht
    rcases mem_allowedDatasetNames hn with hn | hn
    · exact .leaf (List.mem_append_right _ hn)
    · exact hs.expands name hn

/-- The name of the view. -/
def totalsName : Str := str "user_totals"

/-- `SELECT user_id FROM user_event_counts`. -/
def totalsSource : Str := str "SELECT user_id FROM " ++ str "user_event_counts"

/-- `SELECT user_id FROM user_totals`. -/
def selfSource : Str := str "SELECT user_id FROM " ++ totalsName

/-- A host that reads and writes the two sources. -/
def totalsHost : ViewTableHost where
  sqlglot :=
    { lower := asciiLower
      eq_nil_of_lower := eq_nil_of_asciiLower
      parse := fun sql =>
        if sql = selfSource then .ok [some (selectTree totalsName)]
        else if sql = totalsSource then .ok [some (selectTree (str "user_event_counts"))]
        else .error .parseError
      generate := fun expression =>
        .ok (if relationsRead expression = [totalsName] then selfSource else totalsSource) }
  strip := id
  wide := fun _ => false
  policy := {}
  readerRole := str "analytics_reader"
  outputColumns := fun _ _ => some [(str "user_id", str "text")]

/-- A call in which nothing fails. -/
def saveTotals (source : Str) : Call := .create totalsName [] source fun _ => false

/-- The database after the view was replaced by a query over itself. -/
def selfReadingDatabase : Database :=
  (execute totalsHost (execute totalsHost migratedDatabase (saveTotals totalsSource)).2
    (saveTotals selfSource)).2

/-- A view can be replaced by a query over itself. -/
theorem replaced_view_reads_itself :
    ¬∀ (host : ViewTableHost) (initial : Database) (calls : List Call) (db : Database),
      Migrated initial → run (step host) initial calls = some db → Acyclic (Edge host db) := by
  intro h
  have hacyclic := h totalsHost migratedDatabase [saveTotals totalsSource, saveTotals selfSource]
    selfReadingDatabase migrated_migratedDatabase rfl
  have hrow : selfReadingDatabase.viewTables.lookup totalsName = some ⟨[], selfSource⟩ := by
    decide +kernel
  exact hacyclic totalsName (.single ⟨_, hrow, by decide +kernel⟩)

/-- The equivalence for the run that saves the view and replaces it. -/
theorem totals_acyclic_iff_noReturn :
    ((∀ before after db, [saveTotals totalsSource, saveTotals selfSource] = before ++ after →
        run (step totalsHost) migratedDatabase before = some db → Acyclic (Edge totalsHost db)) ↔
      ∀ before call after db,
        [saveTotals totalsSource, saveTotals selfSource] = before ++ call :: after →
          run (step totalsHost) migratedDatabase before = some db → NoReturn totalsHost db call) ∧
    ((∀ before call after db,
        [saveTotals totalsSource, saveTotals selfSource] = before ++ call :: after →
          run (step totalsHost) migratedDatabase before = some db →
            NoReturn totalsHost db call ∧ ReadsDatasets totalsHost db call) →
      ∀ db, run (step totalsHost) migratedDatabase
          [saveTotals totalsSource, saveTotals selfSource] = some db → ∀ faults,
        ∀ name ∈ AnalyticsCatalogService.allowedDatasetNames totalsHost faults db,
          Expandable totalsHost db name) :=
  acyclic_iff_noReturn totalsHost migratedDatabase migrated_migratedDatabase _

end ViewTableService

end LiveData.Analytics
