import LiveData.Analytics.Migrations

/-!
# What one revision does

The relations of the migrations are those of the applied revisions, whatever was saved beside
them. The next revision adds its own, unless the server refuses; the last one is undone unless a
saved view reads what it created.
-/

namespace LiveData.Analytics

open Sql

/-! ## Outlines -/

/-- What a relation is, but for its grantees. -/
def StoredRelation.shape (relation : StoredRelation) : List (Str × Str) × Option ViewBody :=
  (relation.columns, relation.body)

/-- The relations without their grantees. -/
def outline (relations : List (Str × StoredRelation)) :
    List (Str × (List (Str × Str) × Option ViewBody)) :=
  relations.map fun item => (item.1, item.2.shape)

@[simp] theorem outline_append (relations relations' : List (Str × StoredRelation)) :
    outline (relations ++ relations') = outline relations ++ outline relations' :=
  List.map_append

@[simp] theorem keys_outline (relations : List (Str × StoredRelation)) :
    Dict.keys (outline relations) = Dict.keys relations := by
  simp [outline, Dict.keys, Function.comp_def]

theorem lookup_outline (relations : List (Str × StoredRelation)) (name : Str) :
    (outline relations).lookup name = (relations.lookup name).map StoredRelation.shape :=
  Dict.lookup_map_value (fun _ => StoredRelation.shape) relations name

theorem outline_filter (keep : Str → Bool) (relations : List (Str × StoredRelation)) :
    outline (relations.filter fun item => keep item.1) =
      (outline relations).filter fun item => keep item.1 := by
  rw [outline, outline, List.filter_map]
  rfl

/-! ## Statements -/

namespace Schema

variable {s t : Schema}

@[simp] theorem relations_withRelations (relations : List (Str × StoredRelation)) :
    (s.withRelations relations).database.relations = relations := rfl

@[simp] theorem indexes_withRelations (relations : List (Str × StoredRelation)) :
    (s.withRelations relations).indexes = s.indexes := rfl

/-- Statements that the server does not refuse run; otherwise nothing does. -/
theorem run_perform (refuses : MigrationStatement → Bool) (statements : List MigrationStatement) :
    run (perform refuses) s statements =
      if ∀ statement ∈ statements, refuses statement = false then run execute s statements
      else none := by
  induction statements generalizing s with
  | nil => simp
  | cons statement statements ih =>
    rw [run, perform]
    by_cases hr : refuses statement = true
    · simp [hr]
    · simp only [hr, Bool.false_eq_true, if_false, ih, List.forall_mem_cons, true_and, run]
      split
      · rfl
      · exact Option.bind_fun_none _

/-- New indexes of a table that exists. -/
theorem run_createIndexes {table : Str} (htable : table ∈ Dict.keys s.database.relations)
    {names : List Str} (hn : (Dict.keys s.indexes ++ names).Nodup) :
    run execute s (names.map fun name => .createIndex name table) =
      some { s with indexes := s.indexes ++ names.map fun name => (name, table) } := by
  induction names generalizing s with
  | nil => simp
  | cons name names ih =>
    have hname : name ∉ Dict.keys s.indexes := fun h =>
      List.disjoint_of_nodup_append hn h List.mem_cons_self
    rw [List.map_cons, run, execute, if_neg (by simp [hname, htable]), Option.bind_some, ih]
    · simp
    · exact htable
    · simpa using hn

/-- Indexes that exist are dropped. -/
theorem run_dropIndexes {names : List Str} (hn : names.Nodup)
    (hkeys : ∀ name ∈ names, name ∈ Dict.keys s.indexes) :
    run execute s (names.map .dropIndex) =
      some { s with indexes := s.indexes.filter fun index => index.1 ∉ names } := by
  induction names generalizing s with
  | nil => simp
  | cons name names ih =>
    obtain ⟨hname, hnames⟩ := List.nodup_cons.mp hn
    rw [List.map_cons, run, execute, if_pos (hkeys name List.mem_cons_self), Option.bind_some,
      ih hnames]
    · simp [Dict.erase, List.filter_filter, Bool.and_comm]
    · intro other hother
      refine Dict.mem_keys_erase.mpr ⟨hkeys other (List.mem_cons_of_mem _ hother), ?_⟩
      exact fun he => hname (he ▸ hother)

/-- New views of relations that exist. -/
theorem run_createViews {body : ViewBody}
    (hreads : ∀ relation ∈ body.reads, relation ∈ Dict.keys s.database.relations)
    {views : List (Str × List (Str × Str))}
    (hn : (Dict.keys s.database.relations ++ Dict.keys views).Nodup) :
    run execute s (views.map fun view => .createOrReplaceView view.1 body view.2) =
      some (s.withRelations
        (s.database.relations ++ views.map fun view => (view.1, ⟨view.2, [], some body⟩))) := by
  induction views generalizing s with
  | nil => simp [withRelations]
  | cons view views ih =>
    have hname : view.1 ∉ Dict.keys s.database.relations := fun h =>
      List.disjoint_of_nodup_append hn h List.mem_cons_self
    rw [List.map_cons, run, execute, Database.createOrReplaceView, if_pos hreads,
      (Dict.lookup_eq_none_iff _ _).mpr hname]
    simp only [Option.map_some, Option.bind_some, Dict.set_of_notMem hname]
    rw [ih]
    · simp [withRelations]
    · intro relation hr
      simp [hreads relation hr]
    · simpa using hn

/-- A view is dropped unless another view reads it. -/
theorem dropViewIfExists_of_view {db : Database} {name : Str} {relation : StoredRelation}
    (h : db.relations.lookup name = some relation) (hv : relation.body.isSome = true) :
    db.dropViewIfExists name =
      if db.HasDependents name then none
      else some { db with relations := Dict.erase db.relations name } := by
  obtain ⟨columns, grantees, body⟩ := relation
  obtain ⟨body, rfl⟩ := Option.isSome_iff_exists.mp hv
  simp [Database.dropViewIfExists, h]

/-- Dropping a view that does not read a relation leaves its dependents. -/
theorem hasDependents_erase {db : Database} {name other : Str}
    (h : ∀ item ∈ db.relations, item.1 = name → ∀ body ∈ item.2.body, other ∉ body.reads) :
    Database.HasDependents { db with relations := Dict.erase db.relations name } other ↔
      db.HasDependents other := by
  simp only [Database.HasDependents, Dict.erase, List.mem_filter, decide_eq_true_eq]
  constructor
  · rintro ⟨item, ⟨hm, -⟩, hd⟩
    exact ⟨item, hm, hd⟩
  · rintro ⟨item, hm, hne, body, hb, hr⟩
    exact ⟨item, ⟨hm, fun he => h item hm he body hb hr⟩, hne, body, hb, hr⟩

/-- Views that do not read each other are dropped unless another view reads one of them. -/
theorem run_dropViews {names : List Str} (hn : names.Nodup)
    (hviews : ∀ name ∈ names, ∃ relation,
      s.database.relations.lookup name = some relation ∧ relation.body.isSome = true)
    (hreads : ∀ item ∈ s.database.relations, item.1 ∈ names → ∀ body ∈ item.2.body,
      ∀ name ∈ names, name ∉ body.reads) :
    run execute s (names.map .dropViewIfExists) =
      if ∀ name ∈ names, ¬s.database.HasDependents name then
        some (s.withRelations (s.database.relations.filter fun item => item.1 ∉ names))
      else none := by
  induction names generalizing s with
  | nil => simp [withRelations]
  | cons name names ih =>
    obtain ⟨hname, hnames⟩ := List.nodup_cons.mp hn
    obtain ⟨relation, hl, hv⟩ := hviews name List.mem_cons_self
    rw [List.map_cons, run, execute, dropViewIfExists_of_view hl hv]
    by_cases hd : s.database.HasDependents name
    · simp [hd]
    · have hothers : ∀ other ∈ names, Database.HasDependents
          { s.database with relations := Dict.erase s.database.relations name } other ↔
            s.database.HasDependents other := fun other ho =>
        hasDependents_erase fun item hi he body hb =>
          hreads item hi (List.mem_cons.mpr (Or.inl he)) body hb other
            (List.mem_cons_of_mem _ ho)
      rw [if_neg hd, Option.map_some, Option.bind_some, ih hnames]
      · simp only [List.forall_mem_cons, hd, not_false_eq_true, true_and]
        refine if_congr (forall₂_congr fun other ho => not_congr (hothers other ho)) ?_ rfl
        simp [withRelations, Dict.erase, List.filter_filter, Bool.and_comm]
      · intro other ho
        obtain ⟨read, hread, hbody⟩ := hviews other (List.mem_cons_of_mem _ ho)
        refine ⟨read, ?_, hbody⟩
        have hne : other ≠ name := fun he => hname (he ▸ ho)
        exact (Dict.lookup_erase _ name other).trans ((if_neg hne).trans hread)
      · intro item hi hin body hb other ho
        exact hreads item (List.mem_of_mem_filter hi) (List.mem_cons_of_mem _ hin) body hb other
          (List.mem_cons_of_mem _ ho)

/-- A table is dropped unless a view reads it. -/
theorem dropTable_of_table {name : Str} {relation : StoredRelation}
    (h : s.database.relations.lookup name = some relation) (hv : relation.body = none) :
    s.dropTable name =
      if s.database.HasDependents name then none else some (s.withoutTable name) := by
  obtain ⟨columns, grantees, body⟩ := relation
  obtain rfl := hv
  simp [dropTable, h]

/-- The schema up to the grantees of the named relations. -/
structure Regranted (names : List Str) (s t : Schema) : Prop where
  outline_eq : outline t.database.relations = outline s.database.relations
  kept : ∀ name ∉ names,
    t.database.relations.lookup name = s.database.relations.lookup name
  rows : t.database.viewTables = s.database.viewTables
  indexes : t.indexes = s.indexes
  roles : t.roles = s.roles

theorem Regranted.refl {names : List Str} (s : Schema) : Regranted names s s :=
  ⟨rfl, fun _ _ => rfl, rfl, rfl, rfl⟩

theorem Regranted.trans {names : List Str} {u : Schema} (h : Regranted names s t)
    (h' : Regranted names t u) : Regranted names s u where
  outline_eq := h'.outline_eq.trans h.outline_eq
  kept name hn := (h'.kept name hn).trans (h.kept name hn)
  rows := h'.rows.trans h.rows
  indexes := h'.indexes.trans h.indexes
  roles := h'.roles.trans h.roles

/-- The grantees of relations that exist are changed, and nothing else is. -/
theorem exists_mapGrantees (f : List Str → List Str) {names names' : List Str}
    (hn : ∀ name ∈ names, name ∈ Dict.keys s.database.relations) (hsub : names ⊆ names') :
    ∃ t, s.mapGrantees f names = some t ∧ Regranted names' s t := by
  refine ⟨_, if_pos hn, ?_, fun name hname => ?_, rfl, rfl, rfl⟩
  · simp only [relations_withRelations, outline, List.map_map]
    refine List.map_congr_left fun item _ => ?_
    by_cases hi : item.1 ∈ names <;> simp [hi, StoredRelation.shape]
  · have hmap : (s.database.relations.map fun item =>
        if item.1 ∈ names then (item.1, { item.2 with grantees := f item.2.grantees }) else item) =
          s.database.relations.map fun item => (item.1,
            if item.1 ∈ names then { item.2 with grantees := f item.2.grantees } else item.2) := by
      refine List.map_congr_left fun item _ => ?_
      by_cases hi : item.1 ∈ names <;> simp [hi]
    have hnot : name ∉ names := fun h => hname (hsub h)
    have hlookup := Dict.lookup_map_value (fun other (relation : StoredRelation) =>
      if other ∈ names then { relation with grantees := f relation.grantees } else relation)
      s.database.relations name
    rw [relations_withRelations, hmap, hlookup]
    simp [hnot]

/-- Statements about a role that exists change nothing else. -/
theorem run_alterRoles {role : Str} (hrole : role ∈ s.roles) (clauses : List Str) :
    run execute s (clauses.map fun clause => .alterRole role clause) = some s := by
  induction clauses with
  | nil => rfl
  | cons clause clauses ih => rw [List.map_cons, run, execute, if_pos hrole, Option.bind_some, ih]

/-- A role that exists is granted the views and nothing more. -/
theorem exists_run_grants {role : Str} (clause : Str) (hrole : role ∈ s.roles)
    (hevents : str "events" ∈ Dict.keys s.database.relations)
    (hviews : ∀ name ∈ analyticsViewNames, name ∈ Dict.keys s.database.relations) :
    ∃ t, run execute s [.revokeCreate, .alterRole role clause,
        .revokeAllFromPublic (str "events"), .revokeAll (str "events") role,
        .grantSelect analyticsViewNames role] = some t ∧ Regranted protectedRelations s t := by
  obtain ⟨t, ht, hst⟩ := exists_mapGrantees (·.erase role) (List.forall_mem_singleton.mpr hevents)
    (by decide : [str "events"] ⊆ protectedRelations)
  have hviews' : ∀ name ∈ analyticsViewNames, name ∈ Dict.keys t.database.relations := by
    intro name hn
    rw [← keys_outline, hst.outline_eq, keys_outline]
    exact hviews name hn
  obtain ⟨u, hu, htu⟩ := exists_mapGrantees (·.insert role) hviews'
    (by decide : analyticsViewNames ⊆ protectedRelations)
  have hrole' : role ∈ t.roles := hst.roles ▸ hrole
  refine ⟨u, ?_, hst.trans htu⟩
  refine run_cons_eq_some.mpr ⟨s, rfl, run_cons_eq_some.mpr ⟨s, if_pos hrole, ?_⟩⟩
  refine run_cons_eq_some.mpr ⟨s, if_pos hevents, run_cons_eq_some.mpr ⟨t, ?_, ?_⟩⟩
  · rw [execute, if_pos hrole, ht]
  · refine run_cons_eq_some.mpr ⟨u, ?_, rfl⟩
    rw [execute, if_pos hrole', hu]

/-- The reader role is prepared when the tables of the grants exist. -/
theorem exists_run_readerRole (host : MigrationHost) (role : AnalyticsReaderRole)
    (hevents : str "events" ∈ Dict.keys s.database.relations)
    (hviews : ∀ name ∈ analyticsViewNames, name ∈ Dict.keys s.database.relations) :
    ∃ t, run execute s (readerRoleStatements host role) = some t ∧
      Regranted protectedRelations
        { s with roles := s.roles.insert (quoteIdent host.keyword role.name) } t := by
  have hrole : quoteIdent host.keyword role.name ∈
      ({ s with roles := s.roles.insert (quoteIdent host.keyword role.name) } : Schema).roles :=
    List.mem_insert_self
  obtain ⟨t, ht, hst⟩ := exists_run_grants (str "GRANT USAGE ON SCHEMA public") hrole hevents
    hviews
  refine ⟨t, run_append_eq_some.mpr ⟨_, ?_, ht⟩, hst⟩
  rw [run, execute, Option.bind_some]
  exact run_alterRoles hrole (roleParameters.map fun parameter =>
    str "SET " ++ parameter.1 ++ str " = " ++ parameter.2)

/-- The grants are revoked exactly when the role exists. -/
theorem run_revoke (host : MigrationHost) (role : AnalyticsReaderRole)
    (hviews : ∀ name ∈ analyticsViewNames, name ∈ Dict.keys s.database.relations) :
    ∃ t, Regranted protectedRelations s t ∧ run execute s (revokeStatements host role) =
      if quoteIdent host.keyword role.name ∈ s.roles then some t else none := by
  obtain ⟨t, ht, hst⟩ := exists_mapGrantees (·.erase (quoteIdent host.keyword role.name)) hviews
    (by decide : analyticsViewNames ⊆ protectedRelations)
  refine ⟨t, hst, ?_⟩
  by_cases hrole : quoteIdent host.keyword role.name ∈ s.roles
  · have hrole' : quoteIdent host.keyword role.name ∈ t.roles := hst.roles ▸ hrole
    rw [if_pos hrole]
    refine run_cons_eq_some.mpr ⟨t, ?_, ?_⟩
    · rw [execute, if_pos hrole, ht]
    · exact run_alterRoles hrole' (str "REVOKE USAGE ON SCHEMA public" ::
        roleParameters.map fun parameter => str "RESET " ++ parameter.1)
  · rw [if_neg hrole, revokeStatements, List.cons_append, run, execute, if_neg hrole,
      Option.bind_none]

end Schema

/-! ## Revisions -/

/-- The relations a revision creates. -/
def createdBy : Nat → List (Str × StoredRelation)
  | 0 => [(str "events", { columns := eventsColumns })]
  | 1 => generatedViews.map fun view => (view.1, ⟨view.2, [], some ⟨[], [str "events"]⟩⟩)
  | 3 => [(str "analytics_view_tables", { columns := viewTablesColumns })]
  | _ => []

/-- The relations the first revisions create. -/
def applied : Nat → List (Str × StoredRelation)
  | 0 => []
  | revision + 1 => applied revision ++ createdBy revision

/-- The indexes of a revision. -/
def indexesAt (revision : Nat) : List (Str × Str) :=
  if revision = 0 then [] else eventsIndexes.map fun index => (index, str "events")

theorem keys_createdBy_subset {revision : Nat} (h : revision < 4) :
    Dict.keys (createdBy revision) ⊆ protectedRelations := by
  revert revision
  decide

theorem nodup_keys_applied {revision : Nat} (h : revision ≤ 4) :
    (Dict.keys (applied revision)).Nodup := by
  revert revision
  decide

/-- What a revision creates was not there before. -/
theorem lookup_applied_of_created {revision : Nat} (h : revision < 4) {name : Str}
    (hname : name ∈ Dict.keys (createdBy revision)) :
    (outline (applied revision)).lookup name = none := by
  have hnodup : (Dict.keys (applied (revision + 1))).Nodup := nodup_keys_applied h
  rw [applied, Dict.keys_append] at hnodup
  rw [Dict.lookup_eq_none_iff, keys_outline]
  exact fun hn => List.disjoint_of_nodup_append hnodup hn hname

/-- A saved view reads the relation. -/
def Schema.Blocked (s : Schema) (name : Str) : Prop :=
  ∃ item ∈ s.database.relations,
    item.1 ∉ protectedRelations ∧ ∃ body ∈ item.2.body, name ∈ body.reads

instance (s : Schema) (name : Str) : Decidable (s.Blocked name) :=
  inferInstanceAs (Decidable (∃ item ∈ s.database.relations, _))

/-- The protected relations are those of the applied revisions, and everything else is a view
that was saved, which no row is without. -/
structure Deployed (s : Schema) : Prop where
  revision_le : s.revision ≤ 4
  nodup : (Dict.keys s.database.relations).Nodup
  shapes : ∀ name ∈ protectedRelations, (outline s.database.relations).lookup name =
    (outline (applied s.revision)).lookup name
  views : ∀ name ∉ protectedRelations, ∀ relation,
    s.database.relations.lookup name = some relation → relation.body.isSome = true
  saved : ∀ name ∈ Dict.keys s.database.viewTables,
    name ∉ protectedRelations ∧ name ∈ Dict.keys s.database.relations
  distinct : (Dict.keys s.database.viewTables).Nodup
  rows : s.revision < 4 → s.database.viewTables = []
  indexes : s.indexes = indexesAt s.revision

namespace Deployed

variable {s : Schema} (hs : Deployed s)

include hs

/-- What a revision creates is not there before it. -/
theorem fresh (hr : s.revision < 4) {name : Str}
    (hname : name ∈ Dict.keys (createdBy s.revision)) :
    name ∉ Dict.keys s.database.relations := by
  have hlookup := (hs.shapes name (keys_createdBy_subset hr hname)).trans
    (lookup_applied_of_created hr hname)
  rwa [Dict.lookup_eq_none_iff, keys_outline] at hlookup

theorem nodup_append (hr : s.revision < 4) :
    (Dict.keys s.database.relations ++ Dict.keys (createdBy s.revision)).Nodup := by
  have hcreated : (Dict.keys (applied (s.revision + 1))).Nodup := nodup_keys_applied hr
  rw [applied, Dict.keys_append] at hcreated
  refine List.nodup_append'.mpr ⟨hs.nodup, (List.nodup_append'.mp hcreated).2.1, ?_⟩
  exact fun name hn hc => hs.fresh hr hc hn

/-- What the applied revisions created is there. -/
theorem lookup_of_applied {name : Str} (hname : name ∈ protectedRelations)
    {relation : StoredRelation} (h : (applied s.revision).lookup name = some relation) :
    ∃ stored, s.database.relations.lookup name = some stored ∧ stored.shape = relation.shape := by
  have hshape := hs.shapes name hname
  rw [lookup_outline, lookup_outline, h, Option.map_some, Option.map_eq_some_iff] at hshape
  exact hshape

theorem mem_keys_of_applied {name : Str} (hname : name ∈ protectedRelations)
    (h : name ∈ Dict.keys (applied s.revision)) : name ∈ Dict.keys s.database.relations := by
  obtain ⟨relation, hl⟩ := Dict.mem_keys_iff.mp h
  obtain ⟨stored, hstored, -⟩ := hs.lookup_of_applied hname hl
  exact Dict.mem_keys_iff.mpr ⟨stored, hstored⟩

theorem mem_outline_applied {item : Str × StoredRelation} (hm : item ∈ s.database.relations)
    (hp : item.1 ∈ protectedRelations) :
    (item.1, item.2.shape) ∈ outline (applied s.revision) := by
  have hshape := hs.shapes item.1 hp
  rw [lookup_outline, (Dict.lookup_eq_some_iff hs.nodup).mpr hm, Option.map_some] at hshape
  exact Dict.mem_of_lookup hshape.symm

/-- A relation that no applied revision reads is read by saved views only. -/
theorem hasDependents_iff_blocked {name : Str} (hname : name ∈ protectedRelations)
    (hreads : ∀ item ∈ outline (applied s.revision), ∀ body ∈ item.2.2, name ∉ body.reads) :
    s.database.HasDependents name ↔ s.Blocked name := by
  constructor
  · rintro ⟨item, hm, hne, body, hb, hr⟩
    exact ⟨item, hm, fun hp => hreads _ (hs.mem_outline_applied hm hp) body hb hr, body, hb, hr⟩
  · rintro ⟨item, hm, hp, hd⟩
    exact ⟨item, hm, fun he => hp (he ▸ hname), hd⟩

end Deployed

/-- What the next revision does to the schema. -/
structure Upgraded (s t : Schema) : Prop where
  outline_eq : outline t.database.relations =
    outline s.database.relations ++ outline (createdBy s.revision)
  kept : ∀ name ∉ protectedRelations,
    t.database.relations.lookup name = s.database.relations.lookup name
  rows : t.database.viewTables = s.database.viewTables
  indexes : t.indexes = indexesAt (s.revision + 1)

/-- What undoing a revision does to the schema. -/
structure Undone (revision : Nat) (s t : Schema) : Prop where
  outline_eq : outline t.database.relations =
    (outline s.database.relations).filter fun item => item.1 ∉ Dict.keys (createdBy revision)
  kept : ∀ name ∉ protectedRelations,
    t.database.relations.lookup name = s.database.relations.lookup name
  rows : t.database.viewTables = if revision = 3 then [] else s.database.viewTables
  indexes : t.indexes = indexesAt revision
  roles : t.roles = s.roles

/-- Relations that no saved view is named like do not hide one. -/
theorem lookup_append_of_notMem {relations created : List (Str × StoredRelation)}
    (h : Dict.keys created ⊆ protectedRelations) {name : Str} (hname : name ∉ protectedRelations) :
    (relations ++ created).lookup name = relations.lookup name := by
  have hnone : created.lookup name = none :=
    (Dict.lookup_eq_none_iff created name).mpr fun hn => hname (h hn)
  rw [List.lookup_append, hnone, Option.or_none]

/-- New relations of the next revision, beside what is there. -/
theorem Deployed.upgraded_of_eq {s t : Schema} (hr : s.revision < 4)
    (hrelations : t.database.relations = s.database.relations ++ createdBy s.revision)
    (hrows : t.database.viewTables = s.database.viewTables)
    (hindexes : t.indexes = indexesAt (s.revision + 1)) : Upgraded s t where
  outline_eq := by rw [hrelations, outline_append]
  kept name hname := by
    rw [hrelations]
    exact lookup_append_of_notMem (keys_createdBy_subset hr) hname
  rows := hrows
  indexes := hindexes

/-- Other grantees, when the next revision creates nothing. -/
theorem Deployed.upgraded_of_regranted {s t u : Schema} (hs : Deployed s)
    (h : Schema.Regranted protectedRelations u t) (hr : s.revision = 2)
    (hdatabase : u.database = s.database) (hindexes : u.indexes = s.indexes) :
    Upgraded s t where
  outline_eq := by
    rw [h.outline_eq, hdatabase, hr]
    exact (List.append_nil _).symm
  kept name hname := by rw [h.kept name hname, hdatabase]
  rows := by rw [h.rows, hdatabase]
  indexes := by
    rw [h.indexes, hindexes, hs.indexes, hr]
    rfl

open Schema in
/-- The statements of the next revision run. -/
theorem Deployed.exists_run_upgrade {s : Schema} (hs : Deployed s) (hr : s.revision < 4)
    {host : MigrationHost} {rawUrl : Option Str} {statements : List MigrationStatement}
    (h : upgradeStatements host rawUrl s.revision = .ok statements) :
    ∃ t, run execute s statements = some t ∧ Upgraded s t := by
  have hfresh := @Deployed.fresh s hs hr
  have hnodup := hs.nodup_append hr
  have hindexes := hs.indexes
  have hpresent := @Deployed.mem_keys_of_applied s hs
  obtain hrev | hrev | hrev | hrev :
      s.revision = 0 ∨ s.revision = 1 ∨ s.revision = 2 ∨ s.revision = 3 := by omega
  all_goals rw [hrev] at h hfresh hnodup hindexes hpresent
  · obtain rfl := Except.ok.inj h
    have hnew : str "events" ∉ Dict.keys s.database.relations := hfresh (by decide)
    rw [run, execute, if_neg hnew, Option.bind_some, run_createIndexes]
    · refine ⟨_, rfl, upgraded_of_eq hr ?_ rfl ?_⟩
      · rw [hrev]
        exact Dict.set_of_notMem hnew _
      · rw [hrev, indexes_withRelations, hindexes]
        rfl
    · exact Dict.mem_keys_set.mpr (Or.inl rfl)
    · rw [indexes_withRelations, hindexes]
      decide
  · obtain rfl := Except.ok.inj h
    have hevents : str "events" ∈ Dict.keys s.database.relations :=
      hpresent (by decide) (by decide)
    have hviews : Dict.keys (createdBy 1) = Dict.keys generatedViews := by decide
    rw [run_createViews (List.forall_mem_singleton.mpr hevents) (hviews ▸ hnodup)]
    refine ⟨_, rfl, upgraded_of_eq hr ?_ rfl ?_⟩
    · rw [hrev]
      rfl
    · rw [hrev, indexes_withRelations, hindexes]
      rfl
  · obtain ⟨role, -, rfl⟩ := map_eq_ok.mp h
    cases role with
    | none => exact ⟨s, rfl, hs.upgraded_of_regranted (.refl s) hrev rfl rfl⟩
    | some role =>
      have hevents : str "events" ∈ Dict.keys s.database.relations :=
        hpresent (by decide) (by decide)
      have hviews : ∀ name ∈ analyticsViewNames, name ∈ Dict.keys s.database.relations :=
        fun name hn => hpresent ((by decide : analyticsViewNames ⊆ protectedRelations) hn)
          ((by decide : analyticsViewNames ⊆ Dict.keys (applied 2)) hn)
      obtain ⟨t, ht, hst⟩ := exists_run_readerRole host role hevents hviews
      exact ⟨t, ht, hs.upgraded_of_regranted hst hrev rfl rfl⟩
  · obtain rfl := Except.ok.inj h
    have hnew : str "analytics_view_tables" ∉ Dict.keys s.database.relations :=
      hfresh (by decide)
    rw [run, execute, if_neg hnew, Option.bind_some]
    refine ⟨_, rfl, upgraded_of_eq hr ?_ rfl ?_⟩
    · rw [hrev]
      exact Dict.set_of_notMem hnew _
    · rw [hrev, indexes_withRelations, hindexes]
      rfl

/-- A revision can be undone when no saved view reads what it created, and when the reader role
exists if there is one to revoke from. -/
structure Undoable (host : MigrationHost) (rawUrl : Option Str) (s : Schema) (revision : Nat) :
    Prop where
  unread : ∀ name ∈ Dict.keys (createdBy revision), ¬s.Blocked name
  role_exists : revision = 2 → ∀ role,
    analyticsReaderRoleFromEnv host.makeUrl rawUrl = .ok (some role) →
      quoteIdent host.keyword role.name ∈ s.roles

/-- Dropping the one table of a revision undoes it. -/
theorem undone_withoutTable {s t : Schema} {revision : Nat} {name : Str}
    (ht : t.database = s.database) (hroles : t.roles = s.roles)
    (hcreated : Dict.keys (createdBy revision) = [name]) (hname : name ∈ protectedRelations)
    (hrows : name = str "analytics_view_tables" ↔ revision = 3)
    (hindexes : (t.indexes.filter fun index => index.2 ≠ name) = indexesAt revision) :
    Undone revision s (t.withoutTable name) where
  outline_eq := by
    rw [Schema.withoutTable, ht, hcreated]
    simpa [Dict.erase] using
      outline_filter (fun other => decide (other ≠ name)) s.database.relations
  kept other ho := by
    have hne : other ≠ name := fun he => ho (he ▸ hname)
    rw [Schema.withoutTable, ht]
    exact (Dict.lookup_erase _ name other).trans (if_neg hne)
  rows := by
    rw [Schema.withoutTable, ht]
    exact if_congr hrows rfl rfl
  indexes := hindexes
  roles := hroles

theorem undoable_iff_of_ne {host : MigrationHost} {rawUrl : Option Str} {s : Schema}
    {revision : Nat} (h : revision ≠ 2) : Undoable host rawUrl s revision ↔
      ∀ name ∈ Dict.keys (createdBy revision), ¬s.Blocked name :=
  ⟨fun hu => hu.unread, fun hu => ⟨hu, fun h' => absurd h' h⟩⟩

/-- A revision with one table is undone by dropping it, unless a saved view reads it. -/
theorem Deployed.run_dropTable {s t : Schema} (hs : Deployed s) {revision : Nat}
    (hr : s.revision = revision + 1) (hne : revision ≠ 2) (ht : t.database = s.database)
    (hroles : t.roles = s.roles) {name : Str} {columns : List (Str × Str)}
    (hcreated : createdBy revision = [(name, ⟨columns, [], none⟩)])
    (hname : name ∈ protectedRelations) (hrows : name = str "analytics_view_tables" ↔ revision = 3)
    (hreads : ∀ item ∈ outline (applied (revision + 1)), ∀ body ∈ item.2.2, name ∉ body.reads)
    (hindexes : (t.indexes.filter fun index => index.2 ≠ name) = indexesAt revision)
    {host : MigrationHost} {rawUrl : Option Str} :
    ∃ u, Undone revision s u ∧ ∀ v, run Schema.execute t [.dropTable name] = some v ↔
      Undoable host rawUrl s revision ∧ u = v := by
  have hkeys : Dict.keys (createdBy revision) = [name] := by rw [hcreated]; rfl
  have hle := hs.revision_le
  have hlt : revision < 4 := by omega
  have hnone := lookup_applied_of_created hlt (hkeys ▸ List.mem_singleton_self name)
  rw [lookup_outline, Option.map_eq_none_iff] at hnone
  have hl : (applied s.revision).lookup name = some ⟨columns, [], none⟩ := by
    rw [hr, applied, List.lookup_append, hnone, hcreated, Option.none_or, List.lookup_cons_self]
  obtain ⟨stored, hstored, hshape⟩ := hs.lookup_of_applied hname hl
  have hbody : stored.body = none := congrArg Prod.snd hshape
  have hblocked := hs.hasDependents_iff_blocked hname (hr ▸ hreads)
  refine ⟨_, undone_withoutTable ht hroles hkeys hname hrows hindexes, fun v => ?_⟩
  rw [run, Schema.execute, Schema.dropTable_of_table (ht ▸ hstored) hbody, ht,
    undoable_iff_of_ne hne, hkeys, List.forall_mem_singleton, ← hblocked]
  simp only [run_nil, Option.bind_fun_some, Option.ite_none_left_eq_some, Option.some.injEq]

/-- The views of a revision read none of each other, and are dropped with it. -/
theorem Deployed.run_dropViews {s : Schema} (hs : Deployed s) (hr : s.revision = 2)
    {host : MigrationHost} {rawUrl : Option Str} :
    ∃ u, Undone 1 s u ∧ ∀ v,
      run Schema.execute s (viewNames.map .dropViewIfExists) = some v ↔
        Undoable host rawUrl s 1 ∧ u = v := by
  have hprotected : viewNames ⊆ protectedRelations := by decide
  have hreads : ∀ item ∈ outline (applied s.revision), ∀ body ∈ item.2.2, ∀ name ∈ viewNames,
      name ∉ body.reads := by
    rw [hr]
    decide
  have hviews : ∀ name ∈ viewNames, ∃ relation,
      s.database.relations.lookup name = some relation ∧ relation.body.isSome = true := by
    intro name hn
    have happlied : ∀ name ∈ viewNames,
        (((outline (applied 2)).lookup name).bind Prod.snd).isSome = true := by decide
    have hbody := happlied name hn
    rw [← hr, ← hs.shapes name (hprotected hn), lookup_outline] at hbody
    cases hl : s.database.relations.lookup name with
    | none => simp [hl] at hbody
    | some relation =>
      rw [hl] at hbody
      exact ⟨relation, rfl, hbody⟩
  have hnames : ∀ name, name ∈ viewNames ↔ name ∈ Dict.keys (createdBy 1) := by
    have hreverse : viewNames = (Dict.keys (createdBy 1)).reverse := by decide
    exact fun name => by rw [hreverse, List.mem_reverse]
  have hrun := Schema.run_dropViews (by decide) hviews fun item hm hi body hb name hn =>
    hreads _ (hs.mem_outline_applied hm (hprotected hi)) body hb name hn
  have hblocked : (∀ name ∈ viewNames, ¬s.database.HasDependents name) ↔
      Undoable host rawUrl s 1 := by
    rw [undoable_iff_of_ne (by decide)]
    simp only [← hnames]
    exact forall₂_congr fun name hn => not_congr
      (hs.hasDependents_iff_blocked (hprotected hn) fun item hi body hb =>
        hreads item hi body hb name hn)
  refine ⟨s.withRelations (s.database.relations.filter fun item => item.1 ∉ viewNames),
    ⟨?_, fun name hn => ?_, rfl, ?_, rfl⟩, fun v => ?_⟩
  · rw [Schema.relations_withRelations, outline_filter fun name => decide (name ∉ viewNames)]
    simp only [hnames]
  · have hkeep : decide (name ∉ viewNames) = true := by
      simpa using fun h => hn (hprotected h)
    exact (Dict.lookup_filter_key (fun name => decide (name ∉ viewNames)) _ name).trans
      (if_pos hkeep)
  · rw [Schema.indexes_withRelations, hs.indexes, hr]
    rfl
  · rw [hrun, ← hblocked, Option.ite_none_right_eq_some, Option.some.injEq]

/-- The grants of the reader role, if there is one, are revoked when it exists. -/
theorem Deployed.run_revokes {s : Schema} (hs : Deployed s) (hr : s.revision = 3)
    {host : MigrationHost} {rawUrl : Option Str} {role : Option AnalyticsReaderRole}
    (hrole : analyticsReaderRoleFromEnv host.makeUrl rawUrl = .ok role) :
    ∃ u, Undone 2 s u ∧ ∀ v,
      run Schema.execute s ((role.map (revokeStatements host)).getD []) = some v ↔
        Undoable host rawUrl s 2 ∧ u = v := by
  have hundone : ∀ u, Schema.Regranted protectedRelations s u → Undone 2 s u := by
    intro u hu
    refine ⟨?_, hu.kept, hu.rows, ?_, hu.roles⟩
    · rw [hu.outline_eq]
      exact (List.filter_true _).symm
    · rw [hu.indexes, hs.indexes, hr]
      rfl
  cases role with
  | none =>
    have hundoable : Undoable host rawUrl s 2 :=
      ⟨fun name hn => by simp [createdBy] at hn, fun _ role h => by simp [hrole] at h⟩
    exact ⟨s, hundone s (.refl s), fun v => by simp [hundoable]⟩
  | some role =>
    have hviews : ∀ name ∈ analyticsViewNames, name ∈ Dict.keys s.database.relations :=
      fun name hn => hs.mem_keys_of_applied
        ((by decide : analyticsViewNames ⊆ protectedRelations) hn)
        (hr ▸ (by decide : analyticsViewNames ⊆ Dict.keys (applied 3)) hn)
    obtain ⟨u, hu, hrun⟩ := Schema.run_revoke host role hviews
    refine ⟨u, hundone u hu, fun v => ?_⟩
    have hundoable : Undoable host rawUrl s 2 ↔ quoteIdent host.keyword role.name ∈ s.roles := by
      refine ⟨fun h => h.role_exists rfl role hrole, fun h => ⟨fun name hn => ?_, ?_⟩⟩
      · simp [createdBy] at hn
      · intro _ other ho
        obtain rfl : role = other := by simpa [hrole] using ho
        exact h
    rw [Option.map_some, Option.getD_some, hrun, hundoable, Option.ite_none_right_eq_some,
      Option.some.injEq]

open Schema in
/-- The statements that undo a revision run exactly when it can be undone. -/
theorem Deployed.exists_run_downgrade {s : Schema} (hs : Deployed s) {revision : Nat}
    (hr : s.revision = revision + 1) {host : MigrationHost} {rawUrl : Option Str}
    {statements : List MigrationStatement}
    (h : downgradeStatements host rawUrl revision = .ok statements) :
    ∃ t, Undone revision s t ∧ ∀ u, run execute s statements = some u ↔
      Undoable host rawUrl s revision ∧ t = u := by
  have hle := hs.revision_le
  have hindexes := hs.indexes
  obtain rfl | rfl | rfl | rfl :
      revision = 0 ∨ revision = 1 ∨ revision = 2 ∨ revision = 3 := by omega
  all_goals rw [hr] at hindexes
  · obtain rfl := Except.ok.inj h
    have hkeys : ∀ name ∈ eventsIndexes.reverse, name ∈ Dict.keys s.indexes := by
      rw [hindexes]
      decide
    have hdropped : (s.indexes.filter fun index => index.1 ∉ eventsIndexes.reverse) = [] := by
      rw [hindexes]
      decide
    simp only [run_append, run_dropIndexes (by decide) hkeys, Option.bind_some, hdropped]
    exact hs.run_dropTable (t := { s with indexes := [] }) hr (by decide) rfl rfl rfl (by decide)
      (by decide) (by decide) rfl
  · obtain rfl := Except.ok.inj h
    exact hs.run_dropViews hr
  · obtain ⟨role, hrole, rfl⟩ := map_eq_ok.mp h
    exact hs.run_revokes hr hrole
  · obtain rfl := Except.ok.inj h
    refine hs.run_dropTable hr (by decide) rfl rfl rfl (by decide) (by decide) (by decide) ?_
    rw [hindexes]
    decide

end LiveData.Analytics
