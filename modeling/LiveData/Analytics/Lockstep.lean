import LiveData.Analytics.ViewTableEffects

/-!
# Metadata and views in lockstep

As long as no escaped colon is rewritten on the way to the database, the rows of
`analytics_view_tables` and the user views describe each other after every sequence of
calls, whichever statements fail.
-/

namespace LiveData.Analytics

open Sql

/-- A view that is not a built-in one. -/
def Database.IsUserView (db : Database) (name : Str) : Prop :=
  name ∉ allowedDatasetNames ∧
    ∃ relation, db.relations.lookup name = some relation ∧ relation.body.isSome

/-- The view of a row: defined by its source, over relations that exist, and granted. -/
structure RowView (host : ViewTableHost) (db : Database) (name : Str)
    (row : AnalyticsViewTableRecord) (relation : StoredRelation) : Prop where
  stored : db.relations.lookup name = some relation
  definition : relation.body = some ⟨row.sourceSql, sourceRelations host.sqlglot row.sourceSql⟩
  reads : ∀ other ∈ sourceRelations host.sqlglot row.sourceSql, other ∈ Dict.keys db.relations
  granted : quotedIdentifier host.readerRole ∈ relation.grantees

/-- Rows and views describe each other and everything else is as it was. -/
structure Lockstep (host : ViewTableHost) (initial db : Database) : Prop where
  distinct : (Dict.keys db.viewTables).Nodup
  saved : ∀ name, name ∈ Dict.keys db.viewTables ↔ db.IsUserView name
  view : ∀ name row, db.viewTables.lookup name = some row →
    ∃ relation, RowView host db name row relation
  unchanged : ∀ name ∈ protectedRelations,
    db.relations.lookup name = initial.relations.lookup name

namespace ViewTableService

/-- If the call creates a view, neither its accepted source nor the quoted role of the
reader has an escaped colon. -/
def EscapeFree (host : ViewTableHost) (db : Database) (call : Call) : Prop :=
  (execute host db call).1 = none →
    match call with
    | .create _ _ rawSql faults =>
      ∀ query, validateSourceSql host faults db rawSql 1 = .ok query →
        ¬HasEscape host.wide query.sql ∧ ¬HasEscape host.wide (quotedIdentifier host.readerRole)
    | .delete _ _ => True

variable {host : ViewTableHost} {initial db t : Database}

/-- The migrated database is in lockstep with itself. -/
theorem lockstep_migrated (h : Migrated initial) : Lockstep host initial initial where
  distinct := by rw [h.rows]; exact List.nodup_nil
  saved := by
    intro name
    rw [h.rows]
    refine ⟨fun hn => by simp at hn, ?_⟩
    rintro ⟨hb, relation, hr, hs⟩
    exact absurd ((h.views name relation hr).mp hs) hb
  view := fun name row hrow => by simp [h.rows] at hrow
  unchanged := fun _ _ => rfl

/-- A name that may be written is none of the protected relations. -/
theorem notMem_protectedRelations (hm : Migrated initial) (hs : Lockstep host initial db)
    {name : Str} (hu : Unreserved name)
    (hview : ∀ relation, db.relations.lookup name = some relation → relation.body.isSome) :
    name ∉ protectedRelations := by
  intro hp
  obtain ⟨relation, hr⟩ := Dict.mem_keys_iff.mp (hm.present name hp)
  have hbody := (hm.views name relation hr).mp (hview relation ((hs.unchanged name hp).trans hr))
  exact hu.1 hbody

/-- What exists before a view is saved exists after it. -/
theorem mem_keys_of_created {name other : Str} {saved : StoredRelation}
    (hrelations : ∀ other, t.relations.lookup other =
      if other = name then some saved else db.relations.lookup other)
    (h : other ∈ Dict.keys db.relations) : other ∈ Dict.keys t.relations := by
  obtain ⟨relation, hr⟩ := Dict.mem_keys_iff.mp h
  apply Dict.mem_keys_iff.mpr
  rw [hrelations]
  split
  · exact ⟨saved, rfl⟩
  · exact ⟨relation, hr⟩

/-- A view saved with its row under a name of its own keeps the lockstep. -/
theorem lockstep_created (hs : Lockstep host initial db) {name description sourceSql : Str}
    {saved : StoredRelation} (hprotected : name ∉ protectedRelations)
    (hname : name ∉ Analytics.allowedDatasetNames)
    (hreads : ∀ relation ∈ sourceRelations host.sqlglot sourceSql,
      relation ∈ Dict.keys db.relations)
    (hbody : saved.body = some ⟨sourceSql, sourceRelations host.sqlglot sourceSql⟩)
    (hgranted : quotedIdentifier host.readerRole ∈ saved.grantees)
    (hrelations : ∀ other, t.relations.lookup other =
      if other = name then some saved else db.relations.lookup other)
    (hrows : t.viewTables = Dict.set db.viewTables name ⟨description, sourceSql⟩) :
    Lockstep host initial t := by
  refine ⟨?_, fun other => ?_, fun other row hrow => ?_, fun other ho => ?_⟩
  · rw [hrows]
    exact Dict.nodup_keys_set hs.distinct _ _
  · rw [hrows, Dict.mem_keys_set, hs.saved, Database.IsUserView, Database.IsUserView, hrelations]
    by_cases ho : other = name
    · subst ho
      simp [hname, hbody]
    · simp [ho]
  · rw [hrows, Dict.lookup_set] at hrow
    split at hrow
    · next ho =>
      subst ho
      obtain rfl := Option.some.inj hrow
      exact ⟨saved, by rw [hrelations, if_pos rfl], hbody,
        fun other ho => mem_keys_of_created hrelations (hreads other ho), hgranted⟩
    · next ho =>
      obtain ⟨relation, hv⟩ := hs.view other row hrow
      exact ⟨relation, by rw [hrelations, if_neg ho, hv.stored], hv.definition,
        fun other ho => mem_keys_of_created hrelations (hv.reads other ho), hv.granted⟩
  · have hne : other ≠ name := fun he => hprotected (he ▸ ho)
    rw [hrelations, if_neg hne, hs.unchanged other ho]

/-- A view that no view reads, removed with its row, keeps the lockstep. -/
theorem lockstep_deleted (hs : Lockstep host initial db) {name : Str}
    (hprotected : name ∉ protectedRelations)
    (hview : ∀ relation, db.relations.lookup name = some relation → ¬db.HasDependents name)
    (hrelations : ∀ other, t.relations.lookup other =
      if other = name then none else db.relations.lookup other)
    (hrows : t.viewTables = Dict.erase db.viewTables name) : Lockstep host initial t := by
  refine ⟨?_, fun other => ?_, fun other row hrow => ?_, fun other ho => ?_⟩
  · rw [hrows]
    exact Dict.nodup_keys_erase hs.distinct _
  · rw [hrows, Dict.mem_keys_erase, hs.saved, Database.IsUserView, Database.IsUserView, hrelations]
    by_cases ho : other = name <;> simp [ho]
  · rw [hrows, Dict.lookup_erase] at hrow
    split at hrow
    · simp at hrow
    · next ho =>
      obtain ⟨relation, hv⟩ := hs.view other row hrow
      refine ⟨relation, by rw [hrelations, if_neg ho, hv.stored], hv.definition, fun r hr => ?_,
        hv.granted⟩
      obtain ⟨read, hread⟩ := Dict.mem_keys_iff.mp (hv.reads r hr)
      refine Dict.mem_keys_iff.mpr ⟨read, ?_⟩
      rw [hrelations, if_neg, hread]
      rintro rfl
      apply hview read hread
      exact ⟨(other, relation), Dict.mem_of_lookup hv.stored, ho, _, hv.definition, hr⟩
  · have hne : other ≠ name := fun he => hprotected (he ▸ ho)
    rw [hrelations, if_neg hne, hs.unchanged other ho]

/-- Every effect keeps the lockstep. -/
theorem Effect.lockstep {call : Call} (h : Effect host db call t) (hm : Migrated initial)
    (hs : Lockstep host initial db) (hreturns : (execute host db call).1 = none)
    (hc : EscapeFree host db call) : Lockstep host initial t := by
  cases h with
  | @created rawName rawDescription rawSql faults name description query definition grantee saved
      _ hchecked hdefinition hgrantee hreads hview hbody hgranted hrelations hrows =>
    obtain ⟨-, hu, hq⟩ := checkedCreate_eq_ok hchecked
    obtain ⟨hsource, hrole⟩ := hc hreturns query hq
    obtain rfl := eq_of_textClause (sentText_eq_some_iff.mp hdefinition).1 hsource
    obtain rfl := eq_of_textClause (sentText_eq_some_iff.mp hgrantee).1 hrole
    exact lockstep_created hs (notMem_protectedRelations hm hs hu hview) hu.1 hreads hbody hgranted
      hrelations hrows
  | deleted hchecked hview hrelations hrows =>
    have hprotected := notMem_protectedRelations hm hs (checkedDelete_eq_ok hchecked).2
      fun relation hr => (hview relation hr).1
    exact lockstep_deleted hs hprotected (fun relation hr => (hview relation hr).2) hrelations hrows

/-- Rows and views are in lockstep after every sequence of calls without escaped colons,
whichever statements fail, and a call that raises leaves the database as it was. -/
theorem lockstep_of_escapeFree (host : ViewTableHost) (initial : Database) (hm : Migrated initial)
    (calls : List Call) (db : Database) (hr : run (step host) initial calls = some db)
    (hc : ∀ before call after s, calls = before ++ call :: after →
      run (step host) initial before = some s → EscapeFree host s call) :
    Lockstep host initial db ∧
      ∀ call e, (execute host db call).1 = some e → (execute host db call).2 = db := by
  refine ⟨?_, fun call e => execute_of_raises⟩
  refine invariant_of_run_of_forall (fun s call t hs hallowed ht => ?_) (lockstep_migrated hm) hc hr
  exact step_induct hs (fun t hn he => he.lockstep hm hs hn hallowed) ht

/-- A host that reads and writes one query text over the events table. -/
def eventsHost (source : Str) : ViewTableHost where
  sqlglot :=
    { lower := asciiLower
      eq_nil_of_lower := eq_nil_of_asciiLower
      parse := fun _ => .ok [some (selectTree (str "events"))]
      generate := fun _ => .ok source }
  strip := id
  wide := fun _ => false
  policy := {}
  readerRole := str "analytics_reader"
  outputColumns := fun _ _ => some [(str "c", str "text"), (str "event_type", str "text")]

/-- The name of the view. -/
def labelledName : Str := str "labelled_events"

/-- A call in which nothing fails. -/
def saveLabelled (source : Str) : Call := .create labelledName [] source fun _ => false

/-- `SELECT '\:abc' AS c, event_type FROM events`. -/
def escapedSource : Str := str "SELECT '\\:abc' AS c, event_type FROM events"

/-- The database that defines its view by another text than the row stores. -/
def escapedDatabase : Database :=
  (execute (eventsHost escapedSource) migratedDatabase (saveLabelled escapedSource)).2

/-- An escaped colon in a literal drives the view and its row apart. -/
theorem escapedColon_breaks_lockstep :
    ¬∀ (host : ViewTableHost) (initial : Database) (calls : List Call) (db : Database),
      Migrated initial → run (step host) initial calls = some db → Lockstep host initial db := by
  intro h
  have hs := h (eventsHost escapedSource) migratedDatabase [saveLabelled escapedSource]
    escapedDatabase migrated_migratedDatabase rfl
  have hrow : escapedDatabase.viewTables.lookup labelledName = some ⟨[], escapedSource⟩ := by
    decide +kernel
  have hview : ((escapedDatabase.relations.lookup labelledName).bind StoredRelation.body).map
      ViewBody.definition = some (str "SELECT ':abc' AS c, event_type FROM events") := by
    decide +kernel
  obtain ⟨relation, hv⟩ := hs.view labelledName _ hrow
  rw [hv.stored, Option.bind_some, hv.definition] at hview
  exact absurd hview (by decide)

/-- `SELECT 'abc' AS c, event_type FROM events`. -/
def plainSource : Str := str "SELECT 'abc' AS c, event_type FROM events"

theorem escapeFree_plainSource (db : Database) (call : Call) :
    EscapeFree (eventsHost plainSource) db call := by
  have hnone : ∀ s : Str, 58 ∉ s → ¬HasEscape (eventsHost plainSource).wide s := by
    rintro s hs ⟨before, word, after, rfl, -⟩
    simp at hs
  intro _
  cases call with
  | delete name faults => trivial
  | create name description rawSql faults =>
    intro query hq
    obtain ⟨expression, hg⟩ := generate_of_validate (mapError_eq_ok.mp hq)
    rw [← Except.ok.inj hg]
    exact ⟨hnone _ (by decide), hnone _ (by decide)⟩

/-- Saving a view, a replacement whose grant fails, and the removal. -/
def plainCalls : List Call :=
  [saveLabelled plainSource,
    .create labelledName (str "again") plainSource fun statement => statement = .grant,
    .delete labelledName fun _ => false]

/-- The view of the plain source comes and goes with its row. -/
theorem lockstep_plainCalls :
    Lockstep (eventsHost plainSource) migratedDatabase
        ((run (step (eventsHost plainSource)) migratedDatabase plainCalls).getD migratedDatabase) ∧
      ∀ call e, (execute (eventsHost plainSource) ((run (step (eventsHost plainSource))
          migratedDatabase plainCalls).getD migratedDatabase) call).1 = some e →
        (execute (eventsHost plainSource) ((run (step (eventsHost plainSource))
          migratedDatabase plainCalls).getD migratedDatabase) call).2 =
          (run (step (eventsHost plainSource)) migratedDatabase plainCalls).getD migratedDatabase :=
  lockstep_of_escapeFree (eventsHost plainSource) migratedDatabase migrated_migratedDatabase
    plainCalls _ rfl fun _ call _ s _ _ => escapeFree_plainSource s call

end ViewTableService

end LiveData.Analytics
